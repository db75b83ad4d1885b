import Recommender.Text.Blank
import Recommender.Text.Digit

/-!
# Whole numbers as text

A *numeral* is an optional sign followed by decimal digits of any scripts, at most 4300 of them;
its value is the signed positional decimal value of its digits.  Two readers accept numerals: a
strict one, which tolerates nothing around the numeral but one line break at the very end, and a
loose one, which drops surrounding white space and takes single underscores between digits.
-/

namespace Recommender

/-- Why a text is no usable numeral. -/
inductive NumeralError where
  /-- The text has not the form of a numeral. -/
  | malformed
  /-- The numeral has too many digits. -/
  | oversized
  deriving DecidableEq, Repr

namespace Numeral

/-- The greatest number of digits of a numeral. -/
def maxDigits : Nat := 4300

/-- Whether a whole number can be written out: it has no more digits than a numeral may have. -/
def isWritable (n : Int) : Bool :=
  (Nat.toDigits 10 n.natAbs).length ≤ maxDigits

/-- Split an optional sign off the front; the flag tells a minus sign. -/
def splitSign : List Char → Bool × List Char
  | '-' :: rest => (true, rest)
  | '+' :: rest => (false, rest)
  | cs => (false, cs)

/-- The positional value of digits read from the left, on top of the value of those before. -/
def digitsValue (before : Nat) : List Char → Nat
  | [] => before
  | c :: rest => digitsValue (10 * before + (decimalValue? c).getD 0) rest

/-- The value of a sign and digits. -/
def signedValue (negative : Bool) (digits : List Char) : Int :=
  if negative then -(digitsValue 0 digits : Int) else digitsValue 0 digits

/-- Drop one line break at the very end. -/
def dropFinalBreak (cs : List Char) : List Char :=
  if cs.getLast? = some '\n' then cs.dropLast else cs

/-- Read a sign and digits. -/
def ofSignedDigits (cs : List Char) : Except NumeralError Int :=
  let (negative, digits) := splitSign cs
  if digits.isEmpty || !digits.all isDecimalDigit then .error .malformed
  else if maxDigits < digits.length then .error .oversized
  else .ok (signedValue negative digits)

/-- The strict reader: a numeral, after which one line break is tolerated. -/
def read (s : String) : Except NumeralError Int :=
  ofSignedDigits (dropFinalBreak s.toList)

/-- Take the underscores out of digits, if each of them stands between two digits. -/
def joinGroups : List Char → Option (List Char)
  | [] => some []
  | [c] => if isDecimalDigit c then some [c] else none
  | c :: '_' :: d :: rest =>
    if isDecimalDigit c && isDecimalDigit d then (joinGroups (d :: rest)).map (c :: ·) else none
  | c :: rest => if isDecimalDigit c then (joinGroups rest).map (c :: ·) else none

/-- The loose reader: a numeral with white space around it and single underscores between digits. -/
def readLoose (s : String) : Except NumeralError Int :=
  let (negative, body) := splitSign (trimBoth isWhiteSpace s.toList)
  match joinGroups body with
  | none | some [] => .error .malformed
  | some digits =>
    if maxDigits < digits.length then .error .oversized else .ok (signedValue negative digits)

@[simp] theorem digitsValue_nil (before : Nat) : digitsValue before [] = before := rfl

example : ofSignedDigits ['-', '0', '7'] = .ok (-7) := rfl
example : ofSignedDigits ['+', '\u0664', '2'] = .ok 42 := rfl
example : ofSignedDigits ['4', ' '] = .error .malformed := rfl

end Numeral

end Recommender
