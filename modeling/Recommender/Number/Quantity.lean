import Recommender.Number.Binary64

/-!
# Exact comparison of numbers

Whole numbers and binary fractions are compared by their exact values: no number is rounded for the
comparison.  A value that is not a number is neither below, equal to nor above anything.
-/

namespace Recommender

/-- An exact number, an infinity, or no number. -/
inductive Quantity where
  /-- The fraction `num / den`, with a positive denominator. -/
  | exact (num : Int) (den : Nat)
  | infinite (negative : Bool)
  | notANumber
  deriving DecidableEq, Repr

namespace Quantity

/-- A whole number. -/
def ofInt (n : Int) : Quantity :=
  .exact n 1

/-- The exact value of a binary fraction. -/
def ofBinary (x : Binary64) : Quantity :=
  match x with
  | .notANumber => .notANumber
  | .infinite negative => .infinite negative
  | .finite .. => match x.toFraction? with
    | some (n, d) => .exact n d
    | none => .notANumber

/-- How two numbers are ordered, and `none` where one of them is no number. -/
def order? : Quantity → Quantity → Option Ordering
  | .notANumber, _ | _, .notANumber => none
  | .infinite s, .infinite t => some (compare t s)
  | .infinite negative, _ => some (if negative then .lt else .gt)
  | _, .infinite negative => some (if negative then .gt else .lt)
  | .exact n d, .exact m e => some (compare (n * e) (m * d))

@[simp] theorem order?_ofInt (n m : Int) :
    (ofInt n).order? (ofInt m) = some (compare n m) := by
  simp [ofInt, order?]

end Quantity

end Recommender
