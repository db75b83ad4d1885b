import Recommender.Payload.Checked
import Recommender.Number.LooseInteger
import Recommender.Number.Quantity
import Recommender.Text.Half
import Recommender.Text.Letter
import Recommender.Uuid

/-!
# Field readers

The types that fields of an input may have.  Texts are taken as they are and nothing else is taken
for a text.  Flags and whole numbers are also taken from numbers and texts that denote them.
-/

namespace Recommender.Field

/-- A text. -/
def text : Json → Checked String
  | .str s => .ok s
  | v => Checked.refuse .notText v

/-- What a text denotes; a text that holds half of a surrogate pair denotes nothing. -/
def ofWholeText {α : Type} (read : String → Checked α) (s : String) : Checked α :=
  if hasHalf s then Checked.refuse .brokenText (.str s) else read s

/-- The identifier that a text denotes. -/
def identifierOfText (s : String) : Checked Uuid :=
  match Uuid.ofText? s with
  | some u => .ok u
  | none => Checked.refuse .malformedIdentifier (.str s)

/-- An identifier, as a text. -/
def identifier : Json → Checked Uuid
  | .str s => ofWholeText identifierOfText s
  | v => Checked.refuse .notIdentifier v

/-! ## Flags -/

/-- The texts that denote `true`, in lower case. -/
def trueTexts : List String := ["1", "t", "y", "on", "yes", "true"]

/-- The texts that denote `false`, in lower case. -/
def falseTexts : List String := ["0", "f", "n", "no", "off", "false"]

/-- The flag that a text denotes. -/
def flagOfText (s : String) : Checked Bool :=
  if trueTexts.contains (asciiLower s) then .ok true
  else if falseTexts.contains (asciiLower s) then .ok false
  else Checked.refuse .malformedFlag (.str s)

/-- The flag that a whole number denotes. -/
def flagOfInt (n : Int) (input : Json) : Checked Bool :=
  if n = 0 then .ok false
  else if n = 1 then .ok true
  else if -wordBound ≤ n ∧ n < wordBound then Checked.refuse .malformedFlag input
  else Checked.refuse .notFlag input

/-- The flag that a binary fraction denotes: that of a whole number strictly within the bounds of
64-bit integers. -/
def flagOfBinary (x : Binary64) : Checked Bool :=
  match x.toFraction? with
  | some (n, d) =>
    if n % d = 0 ∧ -wordBound < n / d ∧ n / d < wordBound then flagOfInt (n / d) (.float x)
    else Checked.refuse .notFlag (.float x)
  | none => Checked.refuse .notFlag (.float x)

/-- A flag. -/
def flag : Json → Checked Bool
  | .bool b => .ok b
  | .str s => ofWholeText flagOfText s
  | .int n => flagOfInt n (.int n)
  | .float x => flagOfBinary x
  | v => Checked.refuse .notFlag v

/-! ## Whole numbers -/

/-- The whole number that a text denotes. -/
def integerOfText (s : String) : Checked Int :=
  match LooseInteger.read s with
  | .ok n => .ok n
  | .error .malformed => Checked.refuse .malformedInteger (.str s)
  | .error .oversized => Checked.refuse .oversizedInteger (.str s)

/-- The whole number that a binary fraction denotes: one strictly within the bounds of 64-bit
integers. -/
def integerOfBinary (x : Binary64) : Checked Int :=
  match x.toFraction? with
  | some (n, d) =>
    if n % d ≠ 0 then Checked.refuse .fractionalInteger (.float x)
    else if -wordBound < n / d ∧ n / d < wordBound then .ok (n / d)
    else Checked.refuse .oversizedInteger (.float x)
  | none => Checked.refuse .unboundedInteger (.float x)

/-- A whole number. -/
def integer : Json → Checked Int
  | .int n => .ok n
  | .bool b => .ok (if b then 1 else 0)
  | .float x => integerOfBinary x
  | .str s => ofWholeText integerOfText s
  | v => Checked.refuse .notInteger v

/-! ## Lists and fields -/

/-- A list of items. -/
def list {α : Type} (item : Json → Checked α) : Json → Checked (List α)
  | .arr items => Checked.itemsFrom item 0 items
  | v => Checked.refuse .notList v

/-- A value, or null. -/
def nullable {α : Type} (read : Json → Checked α) : Json → Checked (Option α)
  | .null => .ok none
  | v => (read v).map some

/-- A field that has to be present. -/
def required {α : Type} (name : String) (read : Json → Checked α)
    (members : List (String × Json)) : Checked α :=
  match Assoc.find? name members with
  | some v => (read v).under (.field name)
  | none => (Checked.refuse .missing (.obj members)).under (.field name)

/-- A field that has a default. -/
def optional {α : Type} (name : String) (default : α) (read : Json → Checked α)
    (members : List (String × Json)) : Checked α :=
  match Assoc.find? name members with
  | some v => (read v).under (.field name)
  | none => .ok default

end Recommender.Field
