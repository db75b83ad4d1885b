import Recommender.Number.Numeral

/-!
# Whole numbers, loosely written

A *plain* whole number is an optional minus sign and at most 4300 ASCII digits, of which the first is
no zero unless it is the only one.  A text that is no plain whole number is *cleaned* and read once
more.  Cleaning drops white space at both ends, a plus sign, zeros and underscores in front, a
fraction part of zeros, and single underscores between digits.  Zeros in front may even stand before
a minus sign, but not on both sides of it.

Only a text that begins with too many digits counts as oversized; one that has too many when it is
cleaned is malformed.
-/

namespace Recommender.LooseInteger

/-- The greatest number of digits. -/
def maxDigits : Nat := 4300

/-- The value of ASCII digits, read from the left. -/
def digitsValue (cs : List Char) : Nat :=
  cs.foldl (fun n c => 10 * n + (c.toNat - 48)) 0

/-- Read a plain whole number. -/
def readPlain (cs : List Char) : Except NumeralError Int :=
  let (negative, body) := match cs with
    | '-' :: rest => (true, rest)
    | _ => (false, cs)
  let digits := body.takeWhile isAsciiDigit
  let rest := body.dropWhile isAsciiDigit
  match digits with
  | [] => .error .malformed
  | ['0'] => if rest.isEmpty then .ok 0 else .error .malformed
  | '0' :: _ => .error .malformed
  | _ =>
    if maxDigits < digits.length then .error .oversized
    else if rest.isEmpty then
      .ok (if negative then -(digitsValue digits : Int) else digitsValue digits)
    else .error .malformed

/-- Drop zeros and underscores behind a first zero; `last` is the character in front.  What is
left begins with a digit other than zero or with a minus sign; in front of a point, and if nothing
else is left, the last character stays. -/
def dropZeros (last : Char) : List Char → Option (List Char)
  | [] => some [last]
  | c :: rest =>
    if c = '0' || c = '_' then dropZeros c rest
    else if isAsciiDigit c || c = '-' then some (c :: rest)
    else if c = '.' then some (last :: c :: rest)
    else none

/-- Drop zeros in front. -/
def dropLeadingZeros : List Char → Option (List Char)
  | [] => none
  | c :: rest =>
    if c = '0' then dropZeros c rest
    else if isAsciiDigit c || c = '-' then some (c :: rest)
    else none

/-- Drop zeros in front and, if there is a minus sign in front of them, behind it. -/
def dropSignedZeros : List Char → Option (List Char)
  | '-' :: rest => (dropLeadingZeros rest).map ('-' :: ·)
  | cs => dropLeadingZeros cs

/-- Drop a plus sign in front, which does not go with a minus sign. -/
def dropPlus : List Char → Option (List Char)
  | '+' :: '-' :: _ => none
  | '+' :: rest => some rest
  | cs => some cs

/-- Drop a fraction part of zeros: a point and at least one zero at the end. -/
def dropZeroFraction (cs : List Char) : List Char :=
  let whole := cs.takeWhile (· ≠ '.')
  match cs.dropWhile (· ≠ '.') with
  | '.' :: zeros => if !zeros.isEmpty && zeros.all (· = '0') then whole else cs
  | _ => cs

/-- Whether two underscores stand side by side. -/
def hasDoubleUnderscore : List Char → Bool
  | '_' :: '_' :: _ => true
  | _ :: rest => hasDoubleUnderscore rest
  | [] => false

/-- Take out the underscores, if each of them stands by itself between two other characters. -/
def dropUnderscores (cs : List Char) : List Char :=
  if cs.head? = some '_' || cs.getLast? = some '_' || hasDoubleUnderscore cs then cs
  else cs.filter (· ≠ '_')

/-- Clean a text. -/
def clean (cs : List Char) : Option (List Char) := do
  let cs ← dropPlus (trimBoth isWhiteSpace cs)
  let cs ← dropSignedZeros cs
  return dropUnderscores (dropZeroFraction cs)

/-- Read a text once it is cleaned. -/
def readCleaned (cs : List Char) : Except NumeralError Int :=
  match (clean cs).map readPlain with
  | some (.ok n) => .ok n
  | _ => .error .malformed

/-- Read a whole number. -/
def read (s : String) : Except NumeralError Int :=
  match readPlain s.toList with
  | .ok n => .ok n
  | .error .oversized => .error .oversized
  | .error .malformed => readCleaned s.toList

example : read " +1_000.00\n" = .ok 1000 := by rfl
example : read "-007" = .ok (-7) := by rfl
example : read "0_-1" = .ok (-1) := by rfl
example : read "1." = .error .malformed := by rfl
example : read "-0-1" = .error .malformed := by rfl
example : read "1__0" = .error .malformed := by rfl

end Recommender.LooseInteger
