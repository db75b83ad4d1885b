import Recommender.Number.Numeral

/-!
# What the strict reader takes for a numeral

A text *spells* a number by a minus sign or not and by its digits.  The strict reader splits every
text that spells a number into these parts; it rejects any other text as malformed, and a numeral
only for having too many digits.
-/

namespace Recommender.Numeral

/-- At least one digit, and nothing but digits. -/
def AreDigits (digits : List Char) : Prop :=
  digits ≠ [] ∧ ∀ c ∈ digits, isDecimalDigit c = true

/-- Characters are digits, behind a sign or not; the flag tells a minus sign. -/
inductive Signed (digits : List Char) : Bool → List Char → Prop where
  | plain : Signed digits false digits
  | plus : Signed digits false ('+' :: digits)
  | minus : Signed digits true ('-' :: digits)

/-- A text spells a number: it is a sign or none, digits, and a line break or none. -/
def Spells (s : String) (negative : Bool) (digits : List Char) : Prop :=
  AreDigits digits ∧ ∃ cs, Signed digits negative cs ∧ (s.toList = cs ∨ s.toList = cs ++ ['\n'])

/-- A text spells a number by too many digits. -/
def Overlong (s : String) : Prop :=
  ∃ negative digits, Spells s negative digits ∧ maxDigits < digits.length

/-! ## Signs -/

theorem splitSign_of_signed {negative : Bool} {digits cs : List Char} (hd : AreDigits digits)
    (h : Signed digits negative cs) : splitSign cs = (negative, digits) := by
  cases h with
  | plus => rfl
  | minus => rfl
  | plain =>
      obtain ⟨hne, hall⟩ := hd
      cases digits with
      | nil => exact absurd rfl hne
      | cons c rest =>
          have hc := hall c List.mem_cons_self
          have hminus : c ≠ '-' := by
            rintro rfl
            exact absurd hc (by decide)
          have hplus : c ≠ '+' := by
            rintro rfl
            exact absurd hc (by decide)
          simp [splitSign, hminus, hplus]

theorem signed_splitSign (cs : List Char) : Signed (splitSign cs).2 (splitSign cs).1 cs := by
  unfold splitSign
  split
  · exact .minus
  · exact .plus
  · exact .plain

/-! ## Line breaks -/

/-- A signed numeral does not end in a line break. -/
theorem getLast?_ne_of_signed {negative : Bool} {digits cs : List Char} (hd : AreDigits digits)
    (h : Signed digits negative cs) : cs.getLast? ≠ some '\n' := by
  have hlast : digits.getLast? ≠ some '\n' := by
    intro hl
    have hmem := List.mem_of_getLast? hl
    exact absurd (hd.2 '\n' hmem) (by decide)
  have hcons : ∀ c, (c :: digits).getLast? = digits.getLast? := by
    intro c
    rw [List.getLast?_cons]
    cases hl : digits.getLast? with
    | none => exact absurd (List.getLast?_eq_none_iff.mp hl) hd.1
    | some d => rfl
  cases h with
  | plain => exact hlast
  | plus => rwa [hcons]
  | minus => rwa [hcons]

theorem dropFinalBreak_concat (cs : List Char) : dropFinalBreak (cs ++ ['\n']) = cs := by
  rw [dropFinalBreak, List.getLast?_concat, if_pos rfl, List.dropLast_concat]

theorem eq_dropFinalBreak_or (cs : List Char) :
    cs = dropFinalBreak cs ∨ cs = dropFinalBreak cs ++ ['\n'] := by
  unfold dropFinalBreak
  split
  · next h =>
    obtain ⟨front, rfl⟩ := List.getLast?_eq_some_iff.mp h
    rw [List.dropLast_concat]
    exact .inr rfl
  · exact .inl rfl

/-! ## The strict reader -/

theorem spells_iff {s : String} {negative : Bool} {digits : List Char} :
    Spells s negative digits ↔
      AreDigits digits ∧ splitSign (dropFinalBreak s.toList) = (negative, digits) := by
  constructor
  · rintro ⟨hd, cs, hcs, hs⟩
    have hdrop : dropFinalBreak s.toList = cs := by
      obtain hs | hs := hs
      · rw [hs, dropFinalBreak, if_neg (getLast?_ne_of_signed hd hcs)]
      · rw [hs, dropFinalBreak_concat]
    exact ⟨hd, by rw [hdrop, splitSign_of_signed hd hcs]⟩
  · rintro ⟨hd, hsplit⟩
    have hsigned := signed_splitSign (dropFinalBreak s.toList)
    rw [hsplit] at hsigned
    exact ⟨hd, _, hsigned, eq_dropFinalBreak_or s.toList⟩

/-- A text that spells a number is read, unless it has too many digits. -/
theorem read_of_spells {s : String} {negative : Bool} {digits : List Char}
    (h : Spells s negative digits) :
    read s = if maxDigits < digits.length then .error .oversized
      else .ok (signedValue negative digits) := by
  obtain ⟨⟨hne, hall⟩, hsplit⟩ := spells_iff.mp h
  have hdigits : (digits.isEmpty || !digits.all isDecimalDigit) = false := by
    simpa [List.isEmpty_iff, hne] using hall
  rw [read, ofSignedDigits, hsplit]
  simp only [hdigits, Bool.false_eq_true, if_false]

/-- A text that spells no number is malformed. -/
theorem read_of_not_spells {s : String} (h : ∀ negative digits, ¬ Spells s negative digits) :
    read s = .error .malformed := by
  rcases hsplit : splitSign (dropFinalBreak s.toList) with ⟨negative, digits⟩
  have hbad : (digits.isEmpty || !digits.all isDecimalDigit) = true := by
    by_cases hd : digits.isEmpty || !digits.all isDecimalDigit
    · exact hd
    · have hdigits : AreDigits digits := by
        simpa [AreDigits, List.isEmpty_iff] using hd
      exact absurd (spells_iff.mpr ⟨hdigits, hsplit⟩) (h negative digits)
  rw [read, ofSignedDigits, hsplit]
  simp only [hbad, if_true]

/-- A text is oversized exactly if it spells a number by too many digits. -/
theorem read_eq_oversized_iff (s : String) : read s = .error .oversized ↔ Overlong s := by
  constructor
  · intro hread
    by_cases h : ∃ negative digits, Spells s negative digits
    · obtain ⟨negative, digits, hs⟩ := h
      rw [read_of_spells hs] at hread
      by_cases hlong : maxDigits < digits.length
      · exact ⟨negative, digits, hs, hlong⟩
      · rw [if_neg hlong] at hread
        cases hread
    · rw [read_of_not_spells fun negative digits hs => h ⟨negative, digits, hs⟩] at hread
      cases hread
  · rintro ⟨negative, digits, hs, hlong⟩
    rw [read_of_spells hs, if_pos hlong]

/-- A text is read as a number exactly if it spells it by few enough digits. -/
theorem read_eq_ok_iff (s : String) (n : Int) :
    read s = .ok n ↔ ∃ negative digits, Spells s negative digits ∧ digits.length ≤ maxDigits ∧
      n = signedValue negative digits := by
  constructor
  · intro hread
    by_cases h : ∃ negative digits, Spells s negative digits
    · obtain ⟨negative, digits, hs⟩ := h
      rw [read_of_spells hs] at hread
      by_cases hlong : maxDigits < digits.length
      · rw [if_pos hlong] at hread
        cases hread
      · rw [if_neg hlong] at hread
        cases hread
        exact ⟨negative, digits, hs, Nat.le_of_not_lt hlong, rfl⟩
    · rw [read_of_not_spells fun negative digits hs => h ⟨negative, digits, hs⟩] at hread
      cases hread
  · rintro ⟨negative, digits, hs, hfits, rfl⟩
    rw [read_of_spells hs, if_neg (Nat.not_lt.mpr hfits)]

/-! ## Too many digits -/

/-- Too many ones are too many digits. -/
theorem overlong_replicate {n : Nat} (h : maxDigits < n) :
    Overlong (String.ofList (List.replicate n '1')) := by
  have hlength : (List.replicate n '1').length = n := List.length_replicate
  have hne : List.replicate n '1' ≠ [] := by
    refine List.ne_nil_of_length_pos ?_
    omega
  have hdigits : ∀ c ∈ List.replicate n '1', isDecimalDigit c = true := by
    intro c hc
    rw [List.eq_of_mem_replicate hc]
    decide
  exact ⟨false, List.replicate n '1', ⟨⟨hne, hdigits⟩, _, .plain, .inl String.toList_ofList⟩,
    by rwa [hlength]⟩

end Recommender.Numeral
