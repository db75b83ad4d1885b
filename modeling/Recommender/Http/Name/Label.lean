import Recommender.Http.Name.Composed
import Recommender.Http.Name.Context
import Recommender.Http.Name.Direction
import Recommender.Http.Name.Fault
import Recommender.Http.Name.Punycode

/-!
# Labels

A name consists of labels.  A label is made up of characters of names, is composed, does not begin
with a mark, and has hyphens only where they cannot be taken for something else.  A label beyond
ASCII has a form in ASCII, which begins with four characters that no label begins with.
-/

namespace Recommender.Http.Label

/-- What the ASCII form of a label begins with. -/
def asciiMark : List Char := ['x', 'n', '-', '-']

/-- The greatest length of a label in ASCII. -/
def maxLength : Nat := 63

/-- The code point of a hyphen. -/
def hyphen : Nat := 0x2D

/-- Whether hyphens stand where they may: at neither end, and not at the third and the fourth place
together. -/
def areHyphensPlaced (label : List Nat) : Bool :=
  label.head? ≠ some hyphen && label.getLast? ≠ some hyphen
  && (label.drop 2).take 2 ≠ [hyphen, hyphen]

/-- Check the characters of a label, where those in front, the nearest first, have been checked. -/
def checkLetters : (before : List Nat) → List Nat → Except NameFault Unit
  | _, [] => .ok ()
  | before, point :: rest =>
    if isNameLetter point then checkLetters (point :: before) rest
    else if !needsCompany point then .error .alien
    else if hasCompany before point rest then checkLetters (point :: before) rest
    else .error (if isJoiner point then .malformed else .alone)

/-- Check a label. -/
def check (label : List Nat) : Except NameFault Unit :=
  if label.isEmpty || !isComposed label || !areHyphensPlaced label || label.head?.any isMark then
    .error .malformed
  else
    match checkLetters [] label with
    | .error e => .error e
    | .ok _ => if isOneWay label then .ok () else .error .mixed

/-- Check a label in ASCII, which may be the ASCII form of another one. -/
def checkAscii (label : List Char) : Except NameFault Unit :=
  let label := label.map Char.toLower
  if asciiMark.isPrefixOf label then
    let coded := label.drop asciiMark.length
    if coded.isEmpty || coded.getLast? = some '-' then .error .malformed
    else (Punycode.decode coded).elim (.error .malformed) check
  else check (label.map Char.toNat)

/-- The form of a label in ASCII. -/
def toAscii (label : List Nat) : Except NameFault (List Char) := do
  let isAscii := label.all (· < 0x80)
  let coded := if isAscii then label.map Char.ofNat else asciiMark ++ Punycode.encode label
  if isAscii then checkAscii coded else check label
  if maxLength < coded.length then .error .malformed else return coded

end Recommender.Http.Label
