import Recommender.Proofs.Number.Positional
import Recommender.Proofs.Rule.WholeNumber

/-!
# The number that a token denotes

A token that is a numeral of few enough digits denotes the positional value of its digits, whichever
scripts they are taken from.  So a number in print denotes itself, and two numerals denote the same
number exactly if they have the same plain form.
-/

namespace Recommender.Token

variable {t t' : Token} {negative negative' : Bool} {digits digits' : List Char}

/-- A numeral of few enough digits denotes its number. -/
theorem IsNumeral.toInteger (h : t.IsNumeral negative digits)
    (hfits : digits.length ≤ Numeral.maxDigits) :
    t.toInteger = .ok (.ok (Numeral.signedValue negative digits)) := by
  rw [PassesFor.toInteger (.inl h), if_neg (Nat.not_lt.mpr hfits)]

/-- A number in print is a numeral with its digits. -/
theorem isNumeral_toString (n : Int) :
    (value (.str (toString n))).IsNumeral (n < 0) (Nat.toDigits 10 n.natAbs) :=
  ⟨_, rfl, Numeral.areDigits_toDigits n.natAbs, (Numeral.signed_toString n).1⟩

theorem length_toDigits_le {n : Int} (h : n.natAbs < 10 ^ Numeral.maxDigits) :
    (Nat.toDigits 10 n.natAbs).length ≤ Numeral.maxDigits :=
  (Nat.length_toDigits_le_iff (by decide) (by decide)).mpr h

/-- **Numerals denote their positional value.**  The digits are the characters of the blocks of ten
that begin with a digit zero, and the value of a digit is its distance from that zero.  A sign or
none and up to 4300 digits, in any mix of scripts, denote the signed positional value of the digits.
So every number of at most 4300 digits is denoted by its own print; and two such numerals denote the
same number exactly if they have the same plain form, with digits `0` to `9`, without leading zeros,
without a plus sign, and with one form of zero. -/
theorem numerals_denote_their_value :
    (∀ c d, decimalValue? c = some d ↔ d < 10 ∧ ∃ z ∈ digitZeros, c.toNat = z + d) ∧
    (∀ (t : Token) (negative : Bool) (digits : List Char), t.IsNumeral negative digits →
      digits.length ≤ Numeral.maxDigits →
      t.toInteger = .ok (.ok (if negative then -(Numeral.positionalValue digits : Int)
        else Numeral.positionalValue digits))) ∧
    (∀ n : Int, n.natAbs < 10 ^ Numeral.maxDigits →
      (value (.str (toString n))).toInteger = .ok (.ok n)) ∧
    (∀ (t t' : Token) (negative negative' : Bool) (digits digits' : List Char),
      t.IsNumeral negative digits → digits.length ≤ Numeral.maxDigits →
      t'.IsNumeral negative' digits' → digits'.length ≤ Numeral.maxDigits →
      (t.toInteger = t'.toInteger ↔
        Numeral.plainForm negative digits = Numeral.plainForm negative' digits')) := by
  refine ⟨fun c d => decimalValue?_eq_some_iff, ?_, ?_, ?_⟩
  · intro t negative digits h hfits
    rw [h.toInteger hfits, Numeral.signedValue_eq]
  · intro n hn
    rw [(isNumeral_toString n).toInteger (length_toDigits_le hn), (Numeral.signed_toString n).2]
  · intro t t' negative negative' digits digits' h hfits h' hfits'
    rw [h.toInteger hfits, h'.toInteger hfits', ← Numeral.signedValue_eq_iff]
    simp only [Except.ok.injEq]

/-- Minus four, behind an Arabic-Indic zero and by a Devanagari digit. -/
theorem numerals_denote_their_value_mixed :
    (value (.str "-\u0660\u096A")).toInteger = .ok (.ok (-4)) ∧
      (value (.str (toString (-4 : Int)))).toInteger = .ok (.ok (-4)) ∧
      (value (.str "-\u0660\u096A")).toInteger = (value (.str "-4")).toInteger := by
  obtain ⟨-, hvalue, hprint, hsame⟩ := numerals_denote_their_value
  have hmixed : (value (.str "-\u0660\u096A")).IsNumeral true ['\u0660', '\u096A'] :=
    ⟨_, rfl, ⟨nofun, List.all_eq_true.mp rfl⟩, .minus⟩
  have hplain : (value (.str "-4")).IsNumeral true ['4'] :=
    ⟨_, rfl, ⟨nofun, List.all_eq_true.mp rfl⟩, .minus⟩
  refine ⟨hvalue _ _ _ hmixed (by decide), hprint (-4) ?_, ?_⟩
  · calc (-4 : Int).natAbs < 10 ^ 1 := by decide
      _ ≤ 10 ^ Numeral.maxDigits := Nat.pow_le_pow_right (by decide) (by decide)
  · exact (hsame _ _ _ _ _ _ hmixed (by decide) hplain (by decide)).mpr rfl

end Recommender.Token
