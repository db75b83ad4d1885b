import Recommender.Number.Shortest

/-!
# Binary fractions with a given number of places

A binary fraction is written with a fixed number of places behind the point, with a fixed number
of digits and an exponent, or in the *general* form, which chooses between the two and has a given
number of digits in all.  Its exact value is rounded once; a half goes to the even neighbour.  The
sign is left out.
-/

namespace Recommender.Places

/-- The quotient of `num · 10 ^ power` and `den`, rounded. -/
def scaled (num den : Nat) (power : Int) : Nat :=
  Binary64.roundQuotient (scaledUp 10 power num) (scaledUp 10 (-power) den)

/-- Digits, filled with zeros in front to a number of them. -/
def padded (count n : Nat) : List Char :=
  let digits := Nat.toDigits 10 n
  List.replicate (count - digits.length) '0' ++ digits

/-- Digits with a point in front of the last `places` of them, if there are such or the point is
wanted in any case. -/
def pointed (places : Nat) (always : Bool) (digits : List Char) : List Char :=
  let whole := digits.length - places
  if places = 0 && !always then digits else digits.take whole ++ '.' :: digits.drop whole

/-- A number with a fixed number of places. -/
def fixed (places : Nat) (always : Bool) (num den : Nat) : List Char :=
  pointed places always (padded (places + 1) (scaled num den places))

/-- The leading digits of a number, `places` behind the first one, and the power of ten of that. -/
def leading (places num den : Nat) : Nat × Int :=
  if num = 0 then (0, 0)
  else
    let power := leadingPower num den
    let digits := scaled num den (places - power)
    if digits = scaledUp 10 (places + 1) 1 then (digits / 10, power + 1) else (digits, power)

/-- An exponent, with its sign and at least two digits. -/
def exponent (power : Int) : List Char :=
  'e' :: (if power < 0 then '-' else '+') :: padded 2 power.natAbs

/-- A number with a fixed number of places and an exponent. -/
def scientific (places : Nat) (always : Bool) (num den : Nat) : List Char :=
  let (digits, power) := leading places num den
  pointed places always (padded (places + 1) digits) ++ exponent power

/-- A number without the zeros that it ends in behind the point, and without the point if nothing
else is left behind it. -/
def withoutZeros (cs : List Char) : List Char :=
  if cs.contains '.' then
    match cs.reverse.dropWhile (· = '0') with
    | '.' :: rest => rest.reverse
    | rest => rest.reverse
  else cs

/-- A number in the general form, with `digits` digits in all; ending zeros are kept if the point is
wanted in any case. -/
def general (digits : Nat) (always : Bool) (num den : Nat) : List Char :=
  let digits := max digits 1
  let power := (leading (digits - 1) num den).2
  let trim (cs : List Char) := if always then cs else withoutZeros cs
  if -4 ≤ power ∧ power < digits then
    trim (fixed (digits - 1 - power).toNat always num den)
  else
    let cs := scientific (digits - 1) always num den
    trim (cs.takeWhile (· ≠ 'e')) ++ cs.dropWhile (· ≠ 'e')

example : String.ofList (fixed 2 false 5 8) = "0.62" := by decide
example : String.ofList (scientific 1 false 99999 1) = "1.0e+05" := by decide
example : String.ofList (general 6 false 1 10000) = "0.0001" := by decide

end Recommender.Places
