import Recommender.Number.Power

/-!
# Binary floating point values

A value of the binary64 format is not a number, an infinity, or `± mantissa · 2 ^ exponent` in
canonical form: `mantissa < 2 ^ 53`, `-1074 ≤ exponent ≤ 971`, and `2 ^ 52 ≤ mantissa` unless the
exponent is the least one.  All arithmetic is exact on natural numbers and rounds once, to the
nearest value with ties to an even mantissa, so nothing here depends on hardware arithmetic.
-/

namespace Recommender

/-- A binary64 value. -/
inductive Binary64 where
  | notANumber
  | infinite (negative : Bool)
  | finite (negative : Bool) (mantissa : Nat) (exponent : Int)
  deriving DecidableEq, Repr, Inhabited

namespace Binary64

/-- The least exponent of the format. -/
def leastExponent : Int := -1074

/-- The greatest exponent of the format. -/
def greatestExponent : Int := 971

/-- The least mantissa of full length. -/
def leastFull : Nat := 0x10000000000000

/-- Zero of a given sign. -/
def zero (negative : Bool) : Binary64 :=
  .finite negative 0 leastExponent

/-! ## Rounding -/

/-- The quotient of two natural numbers rounded to the nearest integer, ties to even. -/
def roundQuotient (num den : Nat) : Nat :=
  let q := num / den
  let r := num % den
  if 2 * r < den then q
  else if den < 2 * r then q + 1
  else if q % 2 = 0 then q else q + 1

/-- Scale a fraction by `2 ^ -exponent`. -/
def scaleFraction (num den : Nat) (exponent : Int) : Nat × Nat :=
  (scaledUp 2 (-exponent) num, scaledUp 2 exponent den)

/-- The value of the format nearest to `± num / den`, for a positive `den`. -/
def ofFraction (negative : Bool) (num den : Nat) : Binary64 :=
  if num = 0 then zero negative
  else
    let guess : Int := (num.log2 : Int) - (den.log2 : Int) - 52
    let short := scaleFraction num den guess
    let exponent := max leastExponent (if short.1 < short.2 * leastFull then guess - 1 else guess)
    let scaled := scaleFraction num den exponent
    let mantissa := roundQuotient scaled.1 scaled.2
    let (mantissa, exponent) :=
      if mantissa = 2 * leastFull then (leastFull, exponent + 1) else (mantissa, exponent)
    if greatestExponent < exponent then .infinite negative else .finite negative mantissa exponent

/-- The value of the format nearest to `± digits · 10 ^ power`.  Exponents whose value is certainly
above every finite value, or certainly below half the least positive one, are decided without
computing the power. -/
def ofDecimal (negative : Bool) (digits : Nat) (power : Int) : Binary64 :=
  if digits = 0 then zero negative
  else
    let magnitude : Int := (Nat.toDigits 10 digits).length + power
    if 400 < magnitude then .infinite negative
    else if magnitude < -400 then zero negative
    else ofFraction negative (scaledUp 10 power digits) (scaledUp 10 (-power) 1)

/-- The value of the format nearest to an integer. -/
def ofInt (n : Int) : Binary64 :=
  ofFraction (n < 0) n.natAbs 1

/-! ## Exact value -/

/-- The exact value of a finite one as a fraction with a positive denominator. -/
def toFraction? : Binary64 → Option (Int × Nat)
  | .finite negative mantissa exponent =>
    let num := scaledUp 2 exponent mantissa
    some (if negative then -(num : Int) else num, scaledUp 2 (-exponent) 1)
  | _ => none

/-- Whether a value is zero of either sign. -/
def isZero : Binary64 → Bool
  | .finite _ 0 _ => true
  | _ => false

/-- Whether the sign bit of a value is set. -/
def isNegative : Binary64 → Bool
  | .notANumber => false
  | .infinite negative => negative
  | .finite negative _ _ => negative

/-- The sum of two values, rounded once. -/
def add (a b : Binary64) : Binary64 :=
  match a, b with
  | .notANumber, _ | _, .notANumber => .notANumber
  | .infinite s, .infinite t => if s = t then .infinite s else .notANumber
  | .infinite s, _ | _, .infinite s => .infinite s
  | _, _ =>
    match a.toFraction?, b.toFraction? with
    | some (n, d), some (m, e) =>
      let num : Int := n * (e : Int) + m * (d : Int)
      if num = 0 then zero (a.isNegative && b.isNegative)
      else ofFraction (num < 0) num.natAbs (d * e)
    | _, _ => .notANumber

instance : Add Binary64 := ⟨add⟩

example : ofDecimal false 1 0 = .finite false leastFull (-52) := by decide +kernel
example : ofInt 3 + ofDecimal false 5 (-1) = ofDecimal false 35 (-1) := by decide +kernel

end Binary64

end Recommender
