import Mathlib.Tactic.NormNum
import Mathlib.Tactic.Ring
import Recommender.Number.Binary64

/-!
# Counting in binary fractions

Whole numbers below `2 ^ 53` are binary fractions themselves, and so are their sums as long as they
stay below this bound.  So what is counted in binary fractions is counted exactly.
-/

namespace Recommender.Binary64

/-- The bound below which whole numbers are counted exactly. -/
def countBound : Nat := 0x20000000000000

theorem countBound_eq : countBound = 2 ^ 53 := by
  norm_num [countBound]

theorem leastFull_eq : leastFull = 2 ^ 52 := by
  norm_num [leastFull]

theorem log2_mul_two_pow {a : Nat} (ha : a ≠ 0) (j : Nat) : (a * 2 ^ j).log2 = a.log2 + j := by
  have hpos : 0 < 2 ^ j := Nat.two_pow_pos j
  rw [Nat.log2_eq_iff (Nat.mul_ne_zero ha (Nat.ne_of_gt hpos))]
  have hlow := Nat.mul_le_mul_right (2 ^ j) (Nat.log2_self_le ha)
  have hhigh := Nat.mul_lt_mul_of_pos_right (Nat.lt_log2_self (n := a)) hpos
  rw [← Nat.pow_add] at hlow hhigh
  exact ⟨hlow, by rwa [Nat.add_right_comm] at hhigh⟩

theorem roundQuotient_mul (a : Nat) {d : Nat} (hd : 0 < d) : roundQuotient (a * d) d = a := by
  rw [roundQuotient, Nat.mul_mod_left, Nat.mul_div_cancel a hd]
  simp [hd]

/-- The value of the format nearest to a fraction, where the guess of its exponent is right. -/
theorem ofFraction_of_guess {negative : Bool} {num den n d m : Nat} {g : Int} (hnum : num ≠ 0)
    (hguess : (num.log2 : Int) - (den.log2 : Int) - 52 = g)
    (hscaled : scaleFraction num den g = (n, d)) (hshort : ¬ n < d * leastFull)
    (hexponent : max leastExponent g = g) (hround : roundQuotient n d = m)
    (hlong : m ≠ 2 * leastFull) (hgreatest : ¬ greatestExponent < g) :
    ofFraction negative num den = .finite negative m g := by
  subst hguess
  rw [ofFraction, if_neg hnum]
  extract_lets guess short exponent scaled mantissa
  have hshorted : short = (n, d) := hscaled
  have hkept : exponent = guess := by
    show max leastExponent (if short.1 < short.2 * leastFull then guess - 1 else guess) = _
    rw [hshorted, if_neg hshort]
    exact hexponent
  have hagain : scaled = (n, d) := by
    show scaleFraction num den exponent = _
    rw [hkept]
    exact hscaled
  have hrounded : mantissa = m := by
    show roundQuotient scaled.1 scaled.2 = m
    rw [hagain]
    exact hround
  rw [hrounded, if_neg hlong, hkept]
  exact if_neg hgreatest

/-- A whole number below the bound is scaled to a mantissa of full length. -/
theorem ofFraction_mul_two_pow {a : Nat} (ha : a ≠ 0) (hbound : a < countBound) (j : Nat) :
    ofFraction false (a * 2 ^ j) (2 ^ j) =
      .finite false (a * 2 ^ (52 - a.log2)) ((a.log2 : Int) - 52) := by
  have hpos : 0 < 2 ^ j := Nat.two_pow_pos j
  rw [countBound_eq] at hbound
  have hlog : a.log2 ≤ 52 := Nat.le_of_lt_succ ((Nat.log2_lt ha).mpr hbound)
  have hlow := Nat.mul_le_mul_right (2 ^ (52 - a.log2)) (Nat.log2_self_le ha)
  have hhigh := Nat.mul_lt_mul_of_pos_right (Nat.lt_log2_self (n := a))
    (Nat.two_pow_pos (52 - a.log2))
  rw [← Nat.pow_add, Nat.add_sub_cancel' hlog, ← leastFull_eq] at hlow
  rw [← Nat.pow_add, Nat.add_right_comm, Nat.add_sub_cancel' hlog, Nat.pow_succ,
    ← leastFull_eq, Nat.mul_comm leastFull] at hhigh
  refine ofFraction_of_guess (n := a * 2 ^ (52 - a.log2) * 2 ^ j) (d := 2 ^ j)
    (Nat.mul_ne_zero ha (Nat.ne_of_gt hpos)) ?_ ?_ ?_ ?_ (roundQuotient_mul _ hpos)
    (Nat.ne_of_lt hhigh) ?_
  · rw [log2_mul_two_pow ha, Nat.log2_two_pow]
    omega
  · have hpower : (-((a.log2 : Int) - 52)).toNat = 52 - a.log2 := by omega
    rw [scaleFraction, scaledUp_of_nonpos (by omega : (a.log2 : Int) - 52 ≤ 0), scaledUp, hpower,
      Nat.pow_eq, Nat.mul_right_comm]
  · rw [Nat.mul_comm (2 ^ j), Nat.not_lt]
    exact Nat.mul_le_mul_right _ hlow
  · rw [leastExponent]
    omega
  · rw [greatestExponent]
    omega

theorem ofInt_zero : ofInt (0 : Nat) = zero false :=
  rfl

/-- The exact value of a whole number below the bound is the number. -/
theorem exists_toFraction?_ofInt {a : Nat} (hbound : a < countBound) :
    ∃ mantissa exponent k, ofInt a = .finite false mantissa exponent ∧
      (ofInt a).toFraction? = some (((a * 2 ^ k : Nat) : Int), 2 ^ k) := by
  by_cases ha : a = 0
  · subst ha
    refine ⟨0, leastExponent, (-leastExponent).toNat, rfl, ?_⟩
    rw [ofInt_zero, zero, toFraction?, scaledUp, Nat.zero_mul, scaledUp, Nat.one_mul, Nat.zero_mul,
      Nat.pow_eq, if_neg Bool.false_ne_true]
  · have hone := ofFraction_mul_two_pow ha hbound 0
    rw [Nat.pow_zero, Nat.mul_one] at hone
    have hfinite : ofInt a = .finite false (a * 2 ^ (52 - a.log2)) ((a.log2 : Int) - 52) := by
      rw [ofInt, Int.natAbs_natCast, decide_eq_false (Int.not_lt.mpr (Int.natCast_nonneg a)), hone]
    rw [countBound_eq] at hbound
    have hlog : a.log2 ≤ 52 := Nat.le_of_lt_succ ((Nat.log2_lt ha).mpr hbound)
    have hpower : (-((a.log2 : Int) - 52)).toNat = 52 - a.log2 := by omega
    refine ⟨_, _, 52 - a.log2, hfinite, ?_⟩
    rw [hfinite, toFraction?, scaledUp_of_nonpos (by omega : (a.log2 : Int) - 52 ≤ 0), scaledUp,
      hpower, Nat.pow_eq, Nat.one_mul, if_neg Bool.false_ne_true]

/-- The sum of finite values is the exact sum, rounded once. -/
theorem finite_add {s s' : Bool} {m m' : Nat} {e e' n n' : Int} {d d' : Nat}
    (hleft : (finite s m e).toFraction? = some (n, d))
    (hright : (finite s' m' e').toFraction? = some (n', d')) :
    finite s m e + finite s' m' e' =
      if n * d' + n' * d = 0 then zero (s && s')
      else ofFraction (n * d' + n' * d < 0) (n * d' + n' * d).natAbs (d * d') := by
  change add _ _ = _
  simp only [add.eq_def, hleft, hright, isNegative]

/-- **Sums of whole numbers are exact below the bound.** -/
theorem ofInt_add {a b : Nat} (h : a + b < countBound) :
    ofInt a + ofInt b = ofInt (a + b : Nat) := by
  obtain ⟨m, e, k, hfirst, hleft⟩ :=
    exists_toFraction?_ofInt (Nat.lt_of_le_of_lt (Nat.le_add_right a b) h)
  obtain ⟨m', e', k', hsecond, hright⟩ :=
    exists_toFraction?_ofInt (Nat.lt_of_le_of_lt (Nat.le_add_left b a) h)
  have hsum : ((a * 2 ^ k : Nat) : Int) * ((2 ^ k' : Nat) : Int)
      + ((b * 2 ^ k' : Nat) : Int) * ((2 ^ k : Nat) : Int)
      = (((a + b) * 2 ^ (k + k') : Nat) : Int) := by
    push_cast
    ring
  rw [hfirst] at hleft ⊢
  rw [hsecond] at hright ⊢
  rw [finite_add hleft hright, hsum, Int.natAbs_natCast, ← Nat.pow_add,
    decide_eq_false (Int.not_lt.mpr (Int.natCast_nonneg _))]
  by_cases hzero : a + b = 0
  · rw [hzero, Nat.zero_mul, if_pos Int.natCast_zero, ofInt_zero, Bool.and_self]
  · have hpositive := Nat.mul_ne_zero hzero (Nat.ne_of_gt (Nat.two_pow_pos (k + k')))
    have hone := ofFraction_mul_two_pow hzero h 0
    rw [Nat.pow_zero, Nat.mul_one] at hone
    rw [if_neg (Int.natCast_ne_zero.mpr hpositive), ofFraction_mul_two_pow hzero h, ofInt,
      Int.natAbs_natCast, decide_eq_false (Int.not_lt.mpr (Int.natCast_nonneg _)), hone]

end Recommender.Binary64
