import Mathlib
import Recommender.Proofs.Number.Positional
import Recommender.Proofs.Rule.Validation

/-!
# Tokens that denote whole numbers

A token denotes a whole number if it is a text that is a numeral from its first character to its
last.  This is how whole numbers are read, but for three slips: a line break behind the numeral is
overlooked, a numeral of too many digits has no result, and neither has a value in which a whole
number of too many digits stands, as the report of a value shows it.  Any other token is reported as
no whole number, and so is any text with white space in it, apart from the line break at its very
end.
-/

namespace Recommender

/-- A whole number stands in a value: it is the value, or stands in an item of a list or in a member
of an object. -/
inductive Json.Mentions (n : Int) : Json → Prop where
  | here : Mentions n (.int n)
  | item {items : List Json} {v : Json} (hv : v ∈ items) (h : Mentions n v) :
      Mentions n (.arr items)
  | member {members : List (String × Json)} {key : String} {v : Json} (hv : (key, v) ∈ members)
      (h : Mentions n v) : Mentions n (.obj members)

namespace Token

/-- A whole number stands in the value that a token is. -/
def Mentions (t : Token) (n : Int) : Prop :=
  ∃ v, t = .value v ∧ v.Mentions n

/-- A token is a text that is a numeral, from its first character to its last. -/
def IsNumeral (t : Token) (negative : Bool) (digits : List Char) : Prop :=
  ∃ s, t = .value (.str s) ∧ Numeral.AreDigits digits ∧ Numeral.Signed digits negative s.toList

/-- A token is a text that is a numeral but for a line break behind it. -/
def IsBrokenNumeral (t : Token) (negative : Bool) (digits : List Char) : Prop :=
  ∃ s cs, t = .value (.str s) ∧ Numeral.AreDigits digits ∧ Numeral.Signed digits negative cs ∧
    s.toList = cs ++ ['\n']

/-- A token is taken for a numeral. -/
def PassesFor (t : Token) (negative : Bool) (digits : List Char) : Prop :=
  t.IsNumeral negative digits ∨ t.IsBrokenNumeral negative digits

end Token

/-! ## Values that can be shown -/

namespace Json

theorem mentions_int_iff {m n : Int} : (Json.int m).Mentions n ↔ n = m := by
  constructor
  · rintro ⟨⟩
    rfl
  · rintro rfl
    exact .here

theorem mentions_arr_iff {items : List Json} {n : Int} :
    (Json.arr items).Mentions n ↔ ∃ v ∈ items, v.Mentions n := by
  constructor
  · rintro (_ | ⟨hv, h⟩)
    exact ⟨_, hv, h⟩
  · rintro ⟨v, hv, h⟩
    exact .item hv h

theorem mentions_obj_iff {members : List (String × Json)} {n : Int} :
    (Json.obj members).Mentions n ↔ ∃ m ∈ members, m.2.Mentions n := by
  constructor
  · rintro (_ | _ | ⟨hv, h⟩)
    exact ⟨_, hv, h⟩
  · rintro ⟨m, hm, h⟩
    exact .member hm h

mutual
/-- A value can be shown if no whole number in it has too many digits. -/
theorem isShowable_iff : ∀ v : Json,
    v.isShowable = true ↔ ∀ n, v.Mentions n → n.natAbs < 10 ^ Numeral.maxDigits
  | .int m => by simp [isShowable, Numeral.isWritable_iff, mentions_int_iff]
  | .arr items => by
      rw [isShowable, areShowable_iff items]
      simp only [mentions_arr_iff]
      exact ⟨fun h n ⟨v, hv, hn⟩ => h v hv n hn, fun h v hv n hn => h n ⟨v, hv, hn⟩⟩
  | .obj members => by
      rw [isShowable, haveShowable_iff members]
      simp only [mentions_obj_iff]
      exact ⟨fun h n ⟨m, hm, hn⟩ => h m hm n hn, fun h m hm n hn => h n ⟨m, hm, hn⟩⟩
  | .null | .bool _ | .float _ | .str _ => by
      refine iff_of_true rfl ?_
      rintro n ⟨⟩

theorem areShowable_iff : ∀ items : List Json,
    areShowable items = true ↔ ∀ v ∈ items, ∀ n, v.Mentions n → n.natAbs < 10 ^ Numeral.maxDigits
  | [] => by simp [areShowable]
  | v :: rest => by
      rw [areShowable, Bool.and_eq_true, isShowable_iff v, areShowable_iff rest,
        List.forall_mem_cons]

theorem haveShowable_iff : ∀ members : List (String × Json),
    haveShowable members = true ↔
      ∀ m ∈ members, ∀ n, m.2.Mentions n → n.natAbs < 10 ^ Numeral.maxDigits
  | [] => by simp [haveShowable]
  | (_, v) :: rest => by
      rw [haveShowable, Bool.and_eq_true, isShowable_iff v, haveShowable_iff rest,
        List.forall_mem_cons]
end

end Json

/-! ## White space -/

/-- White space is no digit. -/
theorem isDecimalDigit_of_isWhiteSpace {c : Char} (h : isWhiteSpace c = true) :
    isDecimalDigit c = false := by
  have hcodes : ∀ n ∈ whiteSpaceCodes,
      digitZeros.find? (fun z => z ≤ n && n ≤ z + 9) = none := by decide
  have hcode : c.toNat ∈ whiteSpaceCodes := by simpa [isWhiteSpace] using h
  rw [isDecimalDigit, decimalValue?, hcodes c.toNat hcode]
  rfl

/-- There is no white space in a signed numeral. -/
theorem Numeral.Signed.isWhiteSpace_eq_false {digits cs : List Char} {negative : Bool}
    (h : Numeral.Signed digits negative cs) (hd : Numeral.AreDigits digits) :
    ∀ c ∈ cs, isWhiteSpace c = false := by
  have hdigits : ∀ c ∈ digits, isWhiteSpace c = false := by
    intro c hc
    cases hblank : isWhiteSpace c with
    | false => rfl
    | true =>
        have hdigit := hd.2 c hc
        rw [isDecimalDigit_of_isWhiteSpace hblank] at hdigit
        cases hdigit
  cases h with
  | plain => exact hdigits
  | plus => exact List.forall_mem_cons.mpr ⟨by decide, hdigits⟩
  | minus => exact List.forall_mem_cons.mpr ⟨by decide, hdigits⟩

namespace Token

/-! ## Tokens that are taken for numerals -/

theorem passesFor_str_iff {s : String} {negative : Bool} {digits : List Char} :
    (value (.str s)).PassesFor negative digits ↔ Numeral.Spells s negative digits := by
  constructor
  · rintro (⟨s', hs', hd, hs⟩ | ⟨s', cs, hs', hd, hs, hbreak⟩)
    · cases hs'
      exact ⟨hd, s.toList, hs, .inl rfl⟩
    · cases hs'
      exact ⟨hd, cs, hs, .inr hbreak⟩
  · rintro ⟨hd, cs, hs, rfl | hbreak⟩
    · exact .inl ⟨s, rfl, hd, hs⟩
    · exact .inr ⟨s, cs, rfl, hd, hs, hbreak⟩

variable {t : Token} {negative : Bool} {digits : List Char}

theorem PassesFor.exists_str (h : t.PassesFor negative digits) : ∃ s, t = .value (.str s) := by
  obtain ⟨s, ht, -⟩ | ⟨s, _, ht, -⟩ := h
  · exact ⟨s, ht⟩
  · exact ⟨s, ht⟩

/-- What is taken for a numeral is read as its number, unless it has too many digits. -/
theorem PassesFor.toInteger (h : t.PassesFor negative digits) :
    t.toInteger = if Numeral.maxDigits < digits.length then .error .unreadable
      else .ok (.ok (Numeral.signedValue negative digits)) := by
  obtain ⟨s, rfl⟩ := h.exists_str
  have hread := Numeral.read_of_spells (passesFor_str_iff.mp h)
  by_cases hlong : Numeral.maxDigits < digits.length
  · rw [if_pos hlong] at hread ⊢
    simp only [Token.toInteger, hread]
  · rw [if_neg hlong] at hread ⊢
    simp only [Token.toInteger, hread]

theorem PassesFor.isShowable (h : t.PassesFor negative digits) : t.isShowable = true := by
  obtain ⟨s, rfl⟩ := h.exists_str
  rfl

/-- What is not taken for a numeral is reported as no whole number, if it can be shown. -/
theorem toInteger_of_not_passesFor (h : ∀ negative digits, ¬ t.PassesFor negative digits) :
    t.toInteger = t.reported (.error (.notInteger t.text)) := by
  rcases t with (_ | _ | _ | _ | s | _ | _) | _
  case str =>
    have hread := Numeral.read_of_not_spells fun negative digits hs =>
      h negative digits (passesFor_str_iff.mpr hs)
    simp only [toInteger, hread]
  all_goals rfl

/-- A token can be shown if no whole number in it has too many digits. -/
theorem isShowable_iff :
    t.isShowable = true ↔ ∀ n, t.Mentions n → n.natAbs < 10 ^ Numeral.maxDigits := by
  cases t with
  | value v =>
      have hvalue : ∀ n, (value v).Mentions n ↔ v.Mentions n :=
        fun n => ⟨fun ⟨_, hv, hn⟩ => by cases hv; exact hn, fun hn => ⟨v, rfl, hn⟩⟩
      simp only [hvalue]
      exact v.isShowable_iff
  | term _ =>
      refine iff_of_true rfl ?_
      rintro n ⟨_, ⟨⟩, -⟩

theorem isShowable_eq_false_iff :
    t.isShowable = false ↔ ∃ n, t.Mentions n ∧ 10 ^ Numeral.maxDigits ≤ n.natAbs := by
  rw [← Bool.not_eq_true, isShowable_iff]
  simp only [Classical.not_forall, Nat.not_lt, exists_prop]

/-- A text with white space in it, apart from a line break at its very end, is not taken for a
numeral. -/
theorem not_passesFor_of_isWhiteSpace {s : String} {front back : List Char} {c : Char}
    (hs : s.toList = front ++ c :: back) (hc : isWhiteSpace c = true)
    (hend : c = '\n' → back ≠ []) : ¬ (value (.str s)).PassesFor negative digits := by
  intro h
  obtain ⟨hd, cs, hsigned, hplain | hbreak⟩ := passesFor_str_iff.mp h
  · have hmem : c ∈ cs := hplain ▸ hs ▸ List.mem_append_right front List.mem_cons_self
    rw [hsigned.isWhiteSpace_eq_false hd c hmem] at hc
    cases hc
  · have hmem : c ∈ cs := by
      rw [hbreak] at hs
      obtain rfl | ⟨last, back, rfl⟩ := List.eq_nil_or_concat back
      · obtain ⟨-, hlast⟩ := List.append_inj' hs rfl
        cases hlast
        exact absurd rfl (hend rfl)
      · rw [List.concat_eq_append, ← List.cons_append, ← List.append_assoc] at hs
        rw [(List.append_inj' hs rfl).1]
        exact List.mem_append_right front List.mem_cons_self
    rw [hsigned.isWhiteSpace_eq_false hd c hmem] at hc
    cases hc

/-! ## How tokens are read -/

/-- A token is taken for a numeral of too many digits or for one of few enough, is no numeral but can
be shown, or cannot be shown. -/
theorem toInteger_cases (t : Token) :
    (∃ negative digits, t.PassesFor negative digits ∧ Numeral.maxDigits < digits.length ∧
      t.toInteger = .error .unreadable) ∨
    (∃ negative digits, t.PassesFor negative digits ∧ digits.length ≤ Numeral.maxDigits ∧
      t.toInteger = .ok (.ok (Numeral.signedValue negative digits))) ∨
    ((∀ negative digits, ¬ t.PassesFor negative digits) ∧ t.isShowable = true ∧
      t.toInteger = .ok (.error (.notInteger t.text))) ∨
    t.isShowable = false ∧ t.toInteger = .error .unreadable := by
  by_cases h : ∃ negative digits, t.PassesFor negative digits
  · obtain ⟨negative, digits, hpasses⟩ := h
    by_cases hlong : Numeral.maxDigits < digits.length
    · exact .inl ⟨negative, digits, hpasses, hlong, by rw [hpasses.toInteger, if_pos hlong]⟩
    · refine .inr (.inl ⟨negative, digits, hpasses, Nat.le_of_not_lt hlong, ?_⟩)
      rw [hpasses.toInteger, if_neg hlong]
  · have hnone : ∀ negative digits, ¬ t.PassesFor negative digits :=
      fun negative digits hpasses => h ⟨negative, digits, hpasses⟩
    have hread := toInteger_of_not_passesFor hnone
    rw [reported] at hread
    cases hshown : t.isShowable with
    | true => exact .inr (.inr (.inl ⟨hnone, rfl, by rw [hread, if_pos hshown]⟩))
    | false =>
        exact .inr (.inr (.inr ⟨rfl, by rw [hread, if_neg (ne_true_of_eq_false hshown)]⟩))

theorem toInteger_eq_failure_iff {e : Failure} :
    t.toInteger = .error e ↔ e = .unreadable ∧
      ((∃ negative digits, t.PassesFor negative digits ∧ Numeral.maxDigits < digits.length) ∨
        ∃ n, t.Mentions n ∧ 10 ^ Numeral.maxDigits ≤ n.natAbs) := by
  rw [← isShowable_eq_false_iff]
  constructor
  · intro h
    obtain ⟨negative, digits, hpasses, hlong, hread⟩ | ⟨_, _, _, _, hread⟩ | ⟨_, _, hread⟩ |
      ⟨hshown, hread⟩ := t.toInteger_cases <;> rw [hread] at h <;> cases h
    · exact ⟨rfl, .inl ⟨negative, digits, hpasses, hlong⟩⟩
    · exact ⟨rfl, .inr hshown⟩
  · rintro ⟨rfl, ⟨negative, digits, hpasses, hlong⟩ | hshown⟩
    · rw [hpasses.toInteger, if_pos hlong]
    · have hnone : ∀ negative digits, ¬ t.PassesFor negative digits := by
        intro negative digits hpasses
        rw [hpasses.isShowable] at hshown
        cases hshown
      rw [toInteger_of_not_passesFor hnone, reported, hshown]
      rfl

theorem toInteger_eq_number_iff {n : Int} :
    t.toInteger = .ok (.ok n) ↔
      ∃ negative digits, t.PassesFor negative digits ∧ digits.length ≤ Numeral.maxDigits ∧
        n = Numeral.signedValue negative digits := by
  constructor
  · intro h
    obtain ⟨_, _, _, _, hread⟩ | ⟨negative, digits, hpasses, hfits, hread⟩ | ⟨_, _, hread⟩ |
      ⟨_, hread⟩ := t.toInteger_cases <;> rw [hread] at h <;> cases h
    exact ⟨negative, digits, hpasses, hfits, rfl⟩
  · rintro ⟨negative, digits, hpasses, hfits, rfl⟩
    rw [hpasses.toInteger, if_neg (Nat.not_lt.mpr hfits)]

theorem toInteger_eq_unknown_iff {e : ServiceError} :
    t.toInteger = .ok (.error e) ↔
      e = .notInteger t.text ∧ (∀ negative digits, ¬ t.PassesFor negative digits) ∧
        ∀ n, t.Mentions n → n.natAbs < 10 ^ Numeral.maxDigits := by
  rw [← isShowable_iff]
  constructor
  · intro h
    obtain ⟨_, _, _, _, hread⟩ | ⟨_, _, _, _, hread⟩ | ⟨hnone, hshown, hread⟩ | ⟨_, hread⟩ :=
      t.toInteger_cases <;> rw [hread] at h <;> cases h
    exact ⟨rfl, hnone, hshown⟩
  · rintro ⟨rfl, hnone, hshown⟩
    rw [toInteger_of_not_passesFor hnone, reported, hshown]
    rfl

/-- A line break at the end tells the two kinds of numerals apart. -/
theorem IsBrokenNumeral.not_isNumeral (h : t.IsBrokenNumeral negative digits) (negative' : Bool)
    (digits' : List Char) : ¬ t.IsNumeral negative' digits' := by
  rintro ⟨s', ht', hd', hsigned'⟩
  obtain ⟨s, cs, rfl, -, -, hbreak⟩ := h
  cases ht'
  have hlast := Numeral.getLast?_ne_of_signed hd' hsigned'
  rw [hbreak, List.getLast?_concat] at hlast
  exact hlast rfl

/-- A token has a result that tells numerals from other tokens, unless it is a numeral of too many
digits or one with a line break behind it, or it cannot be shown. -/
theorem tells_numerals_iff :
    (∃ result, t.toInteger = .ok result ∧
        ((∃ n, result = .ok n) ↔ ∃ negative digits, t.IsNumeral negative digits)) ↔
      (∀ negative digits, (t.IsNumeral negative digits → digits.length ≤ Numeral.maxDigits) ∧
        ¬ t.IsBrokenNumeral negative digits) ∧
      ∀ n, t.Mentions n → n.natAbs < 10 ^ Numeral.maxDigits := by
  rw [← isShowable_iff]
  constructor
  · rintro ⟨result, hresult, hiff⟩
    have hfits : ∀ negative digits, t.PassesFor negative digits →
        digits.length ≤ Numeral.maxDigits := by
      intro negative digits hpasses
      refine Nat.le_of_not_lt fun hlong => ?_
      rw [hpasses.toInteger, if_pos hlong] at hresult
      cases hresult
    refine ⟨fun negative digits => ⟨fun hnumeral => hfits _ _ (.inl hnumeral), fun hbroken => ?_⟩,
      ?_⟩
    · have hread := PassesFor.toInteger (.inr hbroken)
      rw [hresult, if_neg (Nat.not_lt.mpr (hfits _ _ (.inr hbroken)))] at hread
      obtain ⟨negative', digits', hnumeral⟩ := hiff.mp ⟨_, Except.ok.inj hread⟩
      exact hbroken.not_isNumeral negative' digits' hnumeral
    · refine Bool.of_not_eq_false fun hshown => ?_
      have hfailure : t.toInteger = .error .unreadable :=
        toInteger_eq_failure_iff.mpr ⟨rfl, .inr (isShowable_eq_false_iff.mp hshown)⟩
      rw [hfailure] at hresult
      cases hresult
  · rintro ⟨h, hshown⟩
    obtain ⟨negative, digits, hpasses, hlong, -⟩ | ⟨negative, digits, hpasses, -, hread⟩ |
      ⟨hnone, -, hread⟩ | ⟨hhidden, -⟩ := t.toInteger_cases
    · obtain hnumeral | hbroken := hpasses
      · exact absurd hlong (Nat.not_lt.mpr ((h negative digits).1 hnumeral))
      · exact absurd hbroken (h negative digits).2
    · obtain hnumeral | hbroken := hpasses
      · exact ⟨_, hread, fun _ => ⟨negative, digits, hnumeral⟩, fun _ => ⟨_, rfl⟩⟩
      · exact absurd hbroken (h negative digits).2
    · refine ⟨_, hread, nofun, ?_⟩
      rintro ⟨negative, digits, hnumeral⟩
      exact absurd (.inl hnumeral) (hnone negative digits)
    · rw [hshown] at hhidden
      cases hhidden

/-- **Whole numbers are read unless they are too long.**  A token has a result, and it is a number
exactly if the token is a numeral, unless the token is a numeral of too many digits, has a line break
behind it, or is a value in which a whole number of too many digits stands.

In full: a token has no result exactly if it is taken for a numeral of too many digits, or is such a
value; it is read as a whole number exactly if it is taken for a numeral of few enough, and then as
the value of this numeral; and it is reported as no whole number exactly if it is not taken for a
numeral at all and is no such value.  This is so for every text with white space in it that is not a
line break at the very end. -/
theorem whole_numbers_are_read_unless_overlong (t : Token) :
    ((∃ result, t.toInteger = .ok result ∧
        ((∃ n, result = .ok n) ↔ ∃ negative digits, t.IsNumeral negative digits)) ↔
      (∀ negative digits, (t.IsNumeral negative digits → digits.length ≤ Numeral.maxDigits) ∧
        ¬ t.IsBrokenNumeral negative digits) ∧
      ∀ n, t.Mentions n → n.natAbs < 10 ^ Numeral.maxDigits) ∧
    (∀ e, t.toInteger = .error e ↔ e = .unreadable ∧
      ((∃ negative digits, (t.IsNumeral negative digits ∨ t.IsBrokenNumeral negative digits) ∧
          Numeral.maxDigits < digits.length) ∨
        ∃ n, t.Mentions n ∧ 10 ^ Numeral.maxDigits ≤ n.natAbs)) ∧
    (∀ n, t.toInteger = .ok (.ok n) ↔
      ∃ negative digits, (t.IsNumeral negative digits ∨ t.IsBrokenNumeral negative digits) ∧
        digits.length ≤ Numeral.maxDigits ∧ n = Numeral.signedValue negative digits) ∧
    (∀ e, t.toInteger = .ok (.error e) ↔
      e = .badRequest "INVALID_NUMBER" ("Not an integer: " ++ t.text) [("value", .str t.text)] ∧
        (∀ negative digits, ¬ (t.IsNumeral negative digits ∨ t.IsBrokenNumeral negative digits)) ∧
        ∀ n, t.Mentions n → n.natAbs < 10 ^ Numeral.maxDigits) ∧
    (∀ s front c back, t = .value (.str s) → s.toList = front ++ c :: back →
      isWhiteSpace c = true → (c = '\n' → back ≠ []) → ∃ e, t.toInteger = .ok (.error e)) := by
  refine ⟨tells_numerals_iff, ?_, ?_, ?_, ?_⟩
  · exact fun _ => toInteger_eq_failure_iff
  · exact fun _ => toInteger_eq_number_iff
  · exact fun _ => toInteger_eq_unknown_iff
  · rintro s front c back rfl hs hc hend
    refine ⟨_, toInteger_eq_unknown_iff.mpr ⟨rfl, fun negative digits =>
      not_passesFor_of_isWhiteSpace hs hc hend, isShowable_iff.mp rfl⟩⟩

/-- A line break behind a numeral is overlooked, white space in front is not; one digit too many
leaves no result, neither in a numeral nor in a list that holds a whole number. -/
theorem whole_numbers_are_read_unless_overlong_slips :
    (value (.str "10\n")).toInteger = .ok (.ok 10) ∧
      (∃ e, (value (.str " 10")).toInteger = .ok (.error e)) ∧
      (value (.str (String.ofList (List.replicate 4301 '1')))).toInteger = .error .unreadable ∧
      (value (.arr [.null, .int (10 ^ Numeral.maxDigits)])).toInteger = .error .unreadable := by
  refine ⟨?_, ?_, ?_, ?_⟩
  · have hdigits : Numeral.AreDigits ['1', '0'] := ⟨nofun, List.all_eq_true.mp rfl⟩
    obtain ⟨-, -, hnumber, -⟩ := whole_numbers_are_read_unless_overlong (value (.str "10\n"))
    exact (hnumber 10).mpr ⟨false, ['1', '0'], .inr ⟨_, _, rfl, hdigits, .plain, rfl⟩, by decide,
      rfl⟩
  · obtain ⟨-, -, -, -, hblank⟩ := whole_numbers_are_read_unless_overlong (value (.str " 10"))
    exact hblank " 10" [] ' ' ['1', '0'] rfl rfl rfl nofun
  · obtain ⟨negative, digits, hspells, hlong⟩ :=
      Numeral.overlong_replicate (n := 4301) (by decide)
    obtain ⟨-, hfailure, -⟩ := whole_numbers_are_read_unless_overlong
      (value (.str (String.ofList (List.replicate 4301 '1'))))
    exact (hfailure _).mpr
      ⟨rfl, .inl ⟨negative, digits, passesFor_str_iff.mpr hspells, hlong⟩⟩
  · have hmentions : (value (.arr [.null, .int (10 ^ Numeral.maxDigits)])).Mentions
        (10 ^ Numeral.maxDigits) :=
      ⟨_, rfl, .item (List.mem_cons_of_mem _ List.mem_cons_self) .here⟩
    have hlong : 10 ^ Numeral.maxDigits ≤ ((10 : Int) ^ Numeral.maxDigits).natAbs := by
      simp [Int.natAbs_pow]
    obtain ⟨-, hfailure, -⟩ := whole_numbers_are_read_unless_overlong
      (value (.arr [.null, .int (10 ^ Numeral.maxDigits)]))
    exact (hfailure _).mpr ⟨rfl, .inr ⟨_, hmentions, hlong⟩⟩

end Token

end Recommender
