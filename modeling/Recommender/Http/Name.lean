import Recommender.Http.Name.Label

/-!
# Names of hosts

A name of a host consists of labels with dots between them, and may end with a dot.  Dots of other
scripts are dots.  The name has a form in ASCII, of which the length is limited.
-/

namespace Recommender.Http

/-- Whether a code point is a dot. -/
def isDot (point : Nat) : Bool :=
  [0x2E, 0x3002, 0xFF0E, 0xFF61].contains point

/-- The labels of a name, and an empty one where the name ends with a dot. -/
def labelsOf : List Nat → List (List Nat)
  | [] => [[]]
  | point :: rest =>
    if isDot point then [] :: labelsOf rest
    else
      match labelsOf rest with
      | label :: labels => (point :: label) :: labels
      | [] => [[point]]

/-- The greatest length of a name in ASCII, less a dot at the end. -/
def maxNameLength : Nat := 253

/-- The labels of a name, and whether a dot stands at its end. -/
def splitName (points : List Nat) : List (List Nat) × Bool :=
  let labels := labelsOf points
  if labels.getLast? = some [] then (labels.dropLast, true) else (labels, false)

/-- The form of a name in ASCII. -/
def asciiName (points : List Nat) : Except NameFault String := do
  let (labels, isClosed) := splitName points
  let labels ← labels.mapM Label.toAscii
  let name := ['.'].intercalate labels
  if maxNameLength < name.length then .error .malformed
  else return String.ofList (name ++ if isClosed then ['.'] else [])

/-- Check a name in ASCII, of which the first label may be the ASCII form of another one. -/
def checkName (name : String) : Except NameFault Unit :=
  if Label.asciiMark.isPrefixOf name.toList then do
    let points := name.toList.map Char.toNat
    if maxNameLength + 1 < points.length then throw .malformed
    (splitName points).1.forM fun label => Label.checkAscii (label.map Char.ofNat)
  else .ok ()

example : labelsOf [0x61, 0x3002, 0x62, 0x2E] = [[0x61], [0x62], []] := by decide

end Recommender.Http
