/-!
# Powers

Numbers are scaled by powers of the base in which they are written.  A negative power scales nothing,
so that a fraction is scaled by scaling its numerator by a power and its denominator by the opposite
one.
-/

namespace Recommender

/-- A number times a power of a base, if the power is positive. -/
def scaledUp (base : Nat) (power : Int) (n : Nat) : Nat :=
  n * Nat.pow base power.toNat

/-- The bound of the whole numbers that have a sign and 63 bits. -/
def wordBound : Int := 0x8000000000000000

theorem scaledUp_of_nonpos {power : Int} (h : power ≤ 0) (base n : Nat) :
    scaledUp base power n = n := by
  simp [scaledUp, Int.toNat_of_nonpos h]

example : scaledUp 10 3 5 = 5000 := by decide
example : scaledUp 10 (-3) 5 = 5 := by decide

end Recommender
