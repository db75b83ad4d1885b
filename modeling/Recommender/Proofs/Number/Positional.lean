import Mathlib
import Recommender.Proofs.Number.Numeral

/-!
# The value of a numeral

A numeral says its number by position: the last digit counts ones, the one before it tens, and so
on, whichever script each of them is taken from.  Every numeral has a *plain form*: its digits are
written as `0` to `9`, leading zeros and a plus sign are left out, and so is the sign of zero.  The
plain form is how the number is printed, so two numerals say one number exactly if they have one
plain form, and a printed number is read as itself.
-/

namespace Recommender

/-- The blocks of ten digits do not overlap. -/
theorem pairwise_digitZeros : digitZeros.Pairwise fun z next => z + 9 < next := by
  decide +kernel

/-- A character is a digit exactly if it stands in one of the blocks of ten, and its value is its
distance from the digit zero of the block. -/
theorem decimalValue?_eq_some_iff {c : Char} {d : Nat} :
    decimalValue? c = some d ↔ d < 10 ∧ ∃ z ∈ digitZeros, c.toNat = z + d := by
  constructor
  · intro h
    refine ⟨decimalValue?_lt h, ?_⟩
    obtain ⟨z, hfound, rfl⟩ := Option.map_eq_some_iff.mp h
    have hblock := List.find?_some hfound
    simp only [Bool.and_eq_true, decide_eq_true_eq] at hblock
    exact ⟨z, List.mem_of_find?_eq_some hfound, by omega⟩
  · rintro ⟨hd, z, hz, hc⟩
    cases hfound : digitZeros.find? fun z => z ≤ c.toNat && c.toNat ≤ z + 9 with
    | none =>
        have hnone := List.find?_eq_none.mp hfound z hz
        simp only [Bool.and_eq_true, decide_eq_true_eq] at hnone
        omega
    | some other =>
        -- Another block that holds the character would overlap with this one.
        have hother := List.find?_some hfound
        simp only [Bool.and_eq_true, decide_eq_true_eq] at hother
        have hsame : other = z := by
          obtain ⟨i, hi, rfl⟩ := List.getElem_of_mem (List.mem_of_find?_eq_some hfound)
          obtain ⟨j, hj, rfl⟩ := List.getElem_of_mem hz
          have hapart := List.pairwise_iff_getElem.mp pairwise_digitZeros
          obtain hlt | rfl | hlt := Nat.lt_trichotomy i j
          · have := hapart i j hi hj hlt
            omega
          · rfl
          · have := hapart j i hj hi hlt
            omega
        rw [decimalValue?, hfound, Option.map_some, hsame, hc]
        simp

/-- The digits `0` to `9` are digits of their own value. -/
theorem decimalValue?_of_isDigit {c : Char} (h : c.isDigit = true) :
    decimalValue? c = some (c.toNat - 48) := by
  have hc : 48 ≤ c.toNat ∧ c.toNat ≤ 57 := by
    simpa [Char.isDigit, UInt32.le_iff_toNat_le] using h
  exact decimalValue?_eq_some_iff.mpr ⟨by omega, 48, by decide, by omega⟩

namespace Numeral

/-- The value of a digit. -/
def digitValue (c : Char) : Nat :=
  (decimalValue? c).getD 0

/-- The positional value of digits. -/
def positionalValue (digits : List Char) : Nat :=
  Nat.ofDigits 10 (digits.reverse.map digitValue)

/-- Digits as `0` to `9`, without leading zeros. -/
def significantDigits (digits : List Char) : List Char :=
  (digits.map fun c => (digitValue c).digitChar).dropWhile (· = '0')

/-- The plain form of a numeral. -/
def plainForm (negative : Bool) (digits : List Char) : List Char :=
  match significantDigits digits with
  | [] => ['0']
  | first :: rest => if negative then '-' :: first :: rest else first :: rest

theorem digitValue_lt (c : Char) : digitValue c < 10 := by
  rw [digitValue]
  cases h : decimalValue? c with
  | none => decide
  | some d => exact decimalValue?_lt h

/-! ## Positions -/

theorem positionalValue_cons (c : Char) (rest : List Char) :
    positionalValue (c :: rest) = 10 ^ rest.length * digitValue c + positionalValue rest := by
  rw [positionalValue, List.reverse_cons, List.map_append, Nat.ofDigits_append, List.length_map,
    List.length_reverse, List.map_singleton, Nat.ofDigits_singleton, positionalValue, Nat.add_comm]

/-- Reading digits from the left adds up their positional value. -/
theorem digitsValue_eq (before : Nat) (digits : List Char) :
    digitsValue before digits = 10 ^ digits.length * before + positionalValue digits := by
  induction digits generalizing before with
  | nil => simp [positionalValue]
  | cons c rest ih =>
      calc digitsValue before (c :: rest)
          = digitsValue (10 * before + digitValue c) rest := rfl
        _ = 10 ^ rest.length * (10 * before + digitValue c) + positionalValue rest := ih _
        _ = 10 ^ (c :: rest).length * before + positionalValue (c :: rest) := by
            rw [positionalValue_cons, List.length_cons, pow_succ]
            ring

theorem signedValue_eq (negative : Bool) (digits : List Char) :
    signedValue negative digits =
      if negative then -(positionalValue digits : Int) else positionalValue digits := by
  rw [signedValue, digitsValue_eq, Nat.mul_zero, Nat.zero_add]

/-! ## Plain forms -/

/-- Behind a digit that is not zero, digits are printed as they stand. -/
theorem toDigits_digitsValue {before : Nat} (h : 0 < before) (digits : List Char) :
    Nat.toDigits 10 (digitsValue before digits) =
      Nat.toDigits 10 before ++ digits.map fun c => (digitValue c).digitChar := by
  induction digits generalizing before with
  | nil => simp
  | cons c rest ih =>
      have hdigit := Nat.toDigits_append_toDigits (b := 10) (by decide) h (digitValue_lt c)
      rw [Nat.toDigits_of_lt_base (digitValue_lt c)] at hdigit
      calc Nat.toDigits 10 (digitsValue before (c :: rest))
          = Nat.toDigits 10 (digitsValue (10 * before + digitValue c) rest) := rfl
        _ = Nat.toDigits 10 (10 * before + digitValue c) ++
              rest.map fun c => (digitValue c).digitChar := ih (by omega)
        _ = _ := by rw [← hdigit, List.append_assoc, List.map_cons, List.singleton_append]

/-- Digits are all zeros, or their value is printed as the significant ones. -/
theorem significantDigits_cases (digits : List Char) :
    (digitsValue 0 digits = 0 ∧ significantDigits digits = []) ∨
    (0 < digitsValue 0 digits ∧
      significantDigits digits = Nat.toDigits 10 (digitsValue 0 digits)) := by
  induction digits with
  | nil => exact .inl ⟨rfl, rfl⟩
  | cons c rest ih =>
      obtain hzero | hpos := Nat.eq_zero_or_pos (digitValue c)
      · have hvalue : digitsValue 0 (c :: rest) = digitsValue 0 rest := by
          change digitsValue (10 * 0 + digitValue c) rest = _
          rw [hzero]
        have hdigits : significantDigits (c :: rest) = significantDigits rest := by
          simp [significantDigits, hzero, Nat.digitChar]
        rw [hvalue, hdigits]
        exact ih
      · have hvalue : digitsValue 0 (c :: rest) = digitsValue (digitValue c) rest := by
          change digitsValue (10 * 0 + digitValue c) rest = _
          rw [Nat.mul_zero, Nat.zero_add]
        have hfirst : (digitValue c).digitChar ≠ '0' := by
          rw [ne_eq, Nat.digitChar_eq_zero]
          omega
        have hdigits : significantDigits (c :: rest) =
            Nat.toDigits 10 (digitsValue (digitValue c) rest) := by
          rw [toDigits_digitsValue hpos, Nat.toDigits_of_lt_base (digitValue_lt c)]
          simp [significantDigits, hfirst]
        refine .inr ⟨?_, by rw [hvalue, hdigits]⟩
        rw [hvalue, digitsValue_eq]
        exact Nat.add_pos_left (Nat.mul_pos (Nat.pow_pos (by decide)) hpos) _

/-- The plain form of a numeral is its number in print. -/
theorem ofList_plainForm (negative : Bool) (digits : List Char) :
    String.ofList (plainForm negative digits) = toString (signedValue negative digits) := by
  rw [Int.toString_eq_repr, Int.repr_eq_if, signedValue, plainForm]
  obtain ⟨hvalue, hdigits⟩ | ⟨hpos, hdigits⟩ := significantDigits_cases digits
  · rw [hdigits, hvalue]
    cases negative <;> rfl
  · obtain ⟨first, rest, hcons⟩ := List.exists_cons_of_ne_nil
      (Nat.toDigits_ne_nil (n := digitsValue 0 digits) (b := 10))
    rw [hdigits, hcons]
    cases negative with
    | false =>
        simp only [Bool.false_eq_true, if_false]
        rw [if_pos (by omega), Int.toNat_natCast, Nat.repr_eq_ofList_toDigits, hcons]
    | true =>
        simp only [if_true]
        rw [if_neg (by omega), Int.neg_neg, Int.toNat_natCast, Nat.repr_eq_ofList_toDigits, hcons]
        exact String.ofList_cons

/-- Two numerals say one number exactly if they have one plain form. -/
theorem signedValue_eq_iff (negative negative' : Bool) (digits digits' : List Char) :
    signedValue negative digits = signedValue negative' digits' ↔
      plainForm negative digits = plainForm negative' digits' := by
  rw [← Int.repr_inj, ← Int.toString_eq_repr, ← Int.toString_eq_repr, ← ofList_plainForm,
    ← ofList_plainForm, String.ofList_inj]

/-! ## Numbers in print -/

theorem areDigits_toDigits (n : Nat) : AreDigits (Nat.toDigits 10 n) := by
  refine ⟨Nat.toDigits_ne_nil, fun c hc => ?_⟩
  have hdigit := Nat.isDigit_of_mem_toDigits (by decide) (by decide) hc
  exact isDecimalDigit_iff.mpr ⟨_, decimalValue?_of_isDigit hdigit⟩

theorem digitsValue_of_isDigit {digits : List Char} (h : ∀ c ∈ digits, c.isDigit = true)
    (before : Nat) : digitsValue before digits = Nat.ofDigitChars 10 digits before := by
  induction digits generalizing before with
  | nil => rfl
  | cons c rest ih =>
      rw [List.forall_mem_cons] at h
      have hvalue : digitValue c = c.toNat - 48 := by
        rw [digitValue, decimalValue?_of_isDigit h.1, Option.getD_some]
      rw [Nat.ofDigitChars_cons, ← ih h.2]
      change digitsValue (10 * before + digitValue c) rest = _
      rw [hvalue]
      rfl

theorem digitsValue_toDigits (n : Nat) : digitsValue 0 (Nat.toDigits 10 n) = n := by
  rw [digitsValue_of_isDigit fun c hc => Nat.isDigit_of_mem_toDigits (by decide) (by decide) hc,
    Nat.ofDigitChars_ten_toDigits]

/-- A number in print is its digits, behind a minus sign if it is negative. -/
theorem toList_toString (n : Int) :
    (toString n).toList =
      if n < 0 then '-' :: Nat.toDigits 10 n.natAbs else Nat.toDigits 10 n.natAbs := by
  rw [Int.toString_eq_repr, Int.repr_eq_if]
  by_cases hn : 0 ≤ n
  · have hnat : n.toNat = n.natAbs := by omega
    rw [if_pos hn, if_neg (by omega), hnat, Nat.repr_eq_ofList_toDigits, String.toList_ofList]
  · have hnat : (-n).toNat = n.natAbs := by omega
    rw [if_neg hn, if_pos (by omega), hnat, Nat.repr_eq_ofList_toDigits, String.toList_append,
      String.toList_ofList, String.toList_ofList, List.singleton_append]

theorem isWritable_iff {n : Int} : isWritable n = true ↔ n.natAbs < 10 ^ maxDigits := by
  rw [isWritable, decide_eq_true_eq, Nat.length_toDigits_le_iff (by decide) (by decide)]

/-- A number in print is a numeral of the number. -/
theorem signed_toString (n : Int) :
    Signed (Nat.toDigits 10 n.natAbs) (n < 0) (toString n).toList ∧
      signedValue (n < 0) (Nat.toDigits 10 n.natAbs) = n := by
  rw [toList_toString, signedValue, digitsValue_toDigits]
  by_cases hneg : n < 0
  · simp only [hneg, decide_true, if_true]
    exact ⟨.minus, by omega⟩
  · simp only [hneg, decide_false, Bool.false_eq_true, if_false]
    exact ⟨.plain, by omega⟩

example : plainForm true ['0', '\u0664', '\u09E8'] = ['-', '4', '2'] := rfl
example : plainForm true ['\u0660'] = plainForm false ['0', '0'] := rfl

end Numeral

end Recommender
