import Recommender.Json.Reader
import Recommender.Json.Writer

/-!
# Written texts are read back

A text that is written as JSON is read back as the same text, whatever characters it is made of:
quotes and backslashes, control characters, characters beyond ASCII, which are written as themselves
or as one escape or, beyond the basic plane, as two escapes of a surrogate pair.  The writing of one
code point is read back as this code point; texts follow by induction.
-/

namespace Recommender

/-! ## Code points -/

theorem isHalf_of_isValidChar {point : Nat} (h : point.isValidChar) : isHalf point = false := by
  unfold Nat.isValidChar at h
  simp only [isHalf, isHighUnit, isLowUnit, Bool.or_eq_false_iff, Bool.and_eq_false_iff,
    decide_eq_false_iff_not]
  omega

theorem lt_of_isValidChar {point : Nat} (h : point.isValidChar) : point < 0x110000 := by
  unfold Nat.isValidChar at h
  omega

theorem toNat_ofNat {point : Nat} (h : point.isValidChar) : (Char.ofNat point).toNat = point := by
  rw [Char.ofNat, dif_pos h]
  rfl

theorem toNat_halfMark : halfMark.toNat = 0x10FFFF := by decide

/-- The stand-in of a half tells the half. -/
theorem markedPoint_standIn {point : Nat} (h : isHalf point = true) :
    markedPoint (Char.ofNat (firstStandIn + (point - 0xD800))) = point := by
  simp only [isHalf, isHighUnit, isLowUnit, Bool.or_eq_true, Bool.and_eq_true,
    decide_eq_true_eq] at h
  have hvalid : (firstStandIn + (point - 0xD800)).isValidChar := by
    simp only [firstStandIn, Nat.isValidChar]
    omega
  have hmark : Char.ofNat (firstStandIn + (point - 0xD800)) ≠ halfMark := by
    intro heq
    have := congrArg Char.toNat heq
    rw [toNat_ofNat hvalid, toNat_halfMark, firstStandIn] at this
    omega
  rw [markedPoint, if_neg hmark, toNat_ofNat hvalid]
  omega

/-- The writing of a code point stands for this code point, whatever comes behind it. -/
theorem pointsOf_writingOf {point : Nat} (h : point < 0x110000) (rest : List Char) :
    pointsOf (writingOf point ++ rest) = point :: pointsOf rest := by
  unfold writingOf
  split
  · next hhalf =>
    simp only [List.cons_append, List.nil_append, pointsOf, if_true, markedPoint_standIn hhalf]
  · next hhalf =>
    split
    · next hmark =>
      simp only [List.cons_append, List.nil_append, pointsOf, if_true, markedPoint, ← hmark]
    · next hmark =>
      have hvalid : point.isValidChar := by
        simp only [isHalf, isHighUnit, isLowUnit, Bool.or_eq_true, Bool.and_eq_true,
          decide_eq_true_eq] at hhalf
        unfold Nat.isValidChar
        omega
      have hne : Char.ofNat point ≠ halfMark := by
        intro heq
        exact hmark (heq ▸ (toNat_ofNat hvalid).symm)
      cases rest with
      | nil => simp only [List.cons_append, List.nil_append, pointsOf, toNat_ofNat hvalid]
      | cons c rest =>
        simp only [List.cons_append, List.nil_append, pointsOf, if_neg hne, toNat_ofNat hvalid]

theorem pointsOf_writingOfAll {points : List Nat} (h : ∀ point ∈ points, point < 0x110000) :
    pointsOf (writingOfAll points) = points := by
  induction points with
  | nil => rfl
  | cons point points ih =>
    rw [List.forall_mem_cons] at h
    rw [writingOfAll, List.flatMap_cons, pointsOf_writingOf h.1]
    exact congrArg (point :: ·) (ih h.2)

/-- A text has the code points that it was made of. -/
theorem codePoints_textOfPoints {points : List Nat} (h : ∀ point ∈ points, point < 0x110000) :
    codePoints (textOfPoints points) = points := by
  rw [codePoints, textOfPoints, String.toList_ofList, pointsOf_writingOfAll h]

/-- Characters are code points that are no halves. -/
theorem isValidChar_of_mem_toNat {cs : List Char} :
    ∀ point ∈ cs.map Char.toNat, point.isValidChar := by
  intro point hpoint
  obtain ⟨c, -, rfl⟩ := List.mem_map.mp hpoint
  exact c.valid

@[simp] theorem codePoints_textOfCharacters (s : String) :
    codePoints (textOfCharacters s) = s.toList.map Char.toNat :=
  codePoints_textOfPoints fun point hpoint =>
    lt_of_isValidChar (isValidChar_of_mem_toNat point hpoint)

/-- Characters without the mark are the code points that they write. -/
theorem pointsOf_of_notMem {cs : List Char} (h : halfMark ∉ cs) :
    pointsOf cs = cs.map Char.toNat := by
  fun_induction pointsOf cs with
  | case1 d rest _ => exact absurd List.mem_cons_self h
  | case2 c d rest hc ih =>
    exact congrArg (c.toNat :: ·) (ih fun hmem => h (List.mem_cons_of_mem _ hmem))
  | case3 c => rfl
  | case4 => rfl

/-- A text in ASCII holds no half of a surrogate pair. -/
theorem hasHalf_of_toNat_lt {s : String} (h : ∀ c ∈ s.toList, c.toNat < 0x80) :
    hasHalf s = false := by
  have hmark : halfMark ∉ s.toList := fun hmem => absurd (h _ hmem) (by decide)
  rw [hasHalf, codePoints, pointsOf_of_notMem hmark, List.any_eq_false]
  intro point hpoint
  rw [isHalf_of_isValidChar (isValidChar_of_mem_toNat point hpoint)]
  exact Bool.false_ne_true

/-- The two code units of a code point beyond the basic plane are a pair for this code point. -/
theorem pairedUnits_eq {point : Nat} (h : 0x10000 ≤ point) :
    pairedUnits (0xD800 + (point - 0x10000) / 0x400) (0xDC00 + (point - 0x10000) % 0x400) =
      point := by
  unfold pairedUnits
  rw [Nat.add_sub_cancel_left, Nat.add_sub_cancel_left]
  have := Nat.div_add_mod (point - 0x10000) 0x400
  omega

/-! ## Escapes -/

theorem hexValue?_digitChar : ∀ d < 16, hexValue? d.digitChar = some d := by decide

theorem hexPadded_one {n : Nat} (h : n < 16) : hexPadded 1 n = [n.digitChar] := by
  simp [hexPadded, Nat.toDigits_of_lt_base h]

/-- One place more shows one digit more, in front of which the others stand. -/
theorem hexPadded_succ {width : Nat} (h : 0 < width) (n : Nat) :
    hexPadded (width + 1) n = hexPadded width (n / 16) ++ [(n % 16).digitChar] := by
  obtain ⟨width, rfl⟩ := Nat.exists_eq_add_one.mpr h
  rcases Nat.lt_or_ge n 16 with hn | hn
  · rw [Nat.div_eq_of_lt hn, Nat.mod_eq_of_lt hn]
    simp only [hexPadded, Nat.toDigits_of_lt_base hn, Nat.toDigits_zero, List.length_singleton,
      Nat.add_sub_cancel, List.replicate_succ', List.append_assoc, List.singleton_append]
  · simp only [hexPadded, Nat.toDigits_of_base_le (by decide : 1 < 16) hn, List.length_append,
      List.length_singleton, Nat.add_sub_add_right, List.append_assoc]

namespace Json

/-- The four digits of a code unit. -/
theorem hexPadded_four {unit : Nat} (h : unit < 0x10000) :
    hexPadded 4 unit = [(unit / 16 / 16 / 16).digitChar, (unit / 16 / 16 % 16).digitChar,
      (unit / 16 % 16).digitChar, (unit % 16).digitChar] := by
  rw [hexPadded_succ (by decide), hexPadded_succ (by decide), hexPadded_succ (by decide),
    hexPadded_one (by omega)]
  rfl

/-- An escape tells its code unit. -/
theorem unitOf?_hexPadded {unit : Nat} (h : unit < 0x10000) :
    ∃ a b c d, hexPadded 4 unit = [a, b, c, d] ∧ unitOf? a b c d = some unit := by
  refine ⟨_, _, _, _, hexPadded_four h, ?_⟩
  · have hdigit (n : Nat) : hexValue? (n % 16).digitChar = some (n % 16) :=
      hexValue?_digitChar _ (Nat.mod_lt n (by decide))
    rw [unitOf?, hexValue?_digitChar _ (by omega : unit / 16 / 16 / 16 < 16), hdigit, hdigit,
      hdigit]
    simp only [Option.bind_eq_bind, Option.bind_some, Option.pure_def, Option.some.injEq]
    omega

/-! ## Reading what was written -/

variable {point : Nat} {seen rest : List Char}

/-- What is written as itself is read as itself. -/
theorem readChars_plain {c : Char} (hlow : 0x20 ≤ c.toNat) (hquote : c ≠ '"') (hslash : c ≠ '\\') :
    readChars none seen (c :: rest) = readChars none (c :: seen) rest := by
  rw [readChars.eq_def]
  split
  · next heq => exact absurd (List.cons.inj heq).1 hslash
  · next heq => exact absurd (List.cons.inj heq).1 hslash
  · next heq =>
    obtain ⟨rfl, rfl⟩ := List.cons.inj heq
    have hlow : ¬ c.toNat < 0x20 := by omega
    simp [hquote, hslash, hlow]
  · next heq => cases heq

/-- A one-letter escape is read as its character. -/
theorem readChars_letterEscape {letter c : Char} (hletter : letterEscape? letter = some c) :
    readChars none seen ('\\' :: letter :: rest) = readChars none (c :: seen) rest := by
  have hu : letter ≠ 'u' := by
    rintro rfl
    simp [letterEscape?] at hletter
  rw [readChars.eq_def]
  split
  · next heq => exact absurd (List.cons.inj (List.cons.inj heq).2).1 hu
  · next heq =>
    obtain ⟨rfl, rfl⟩ := List.cons.inj (List.cons.inj heq).2
    simp [hletter]
  · next hnot heq =>
    obtain ⟨rfl, rfl⟩ := List.cons.inj heq
    exact absurd rfl (hnot letter rest rfl)
  · next heq => cases heq

theorem readChars_unitEscape {unit : Nat} (h : unit < 0x10000) (high : Option Nat) :
    readChars high seen (unitEscape unit ++ rest) =
      match high with
      | some h =>
        if isLowUnit unit then readChars none (behind seen (pairedUnits h unit)) rest
        else if isHighUnit unit then readChars (some unit) (behind seen h) rest
        else readChars none (behind (behind seen h) unit) rest
      | none =>
        if isHighUnit unit then readChars (some unit) seen rest
        else readChars none (behind seen unit) rest := by
  obtain ⟨a, b, c, d, hwritten, hunit⟩ := unitOf?_hexPadded h
  rw [unitEscape, hwritten]
  cases high <;> simp only [List.cons_append, List.nil_append, readChars, hunit]

/-- A code point that is not written as itself has a one-letter escape, or one or two escapes of
code units. -/
theorem pointEscape_cases (point : Nat) :
    (∃ letter, pointEscape point = ['\\', letter] ∧
      letterEscape? letter = some (Char.ofNat point) ∧ point < 0x80) ∨
    (point < 0x10000 ∧ pointEscape point = unitEscape point) ∨
    (0x10000 ≤ point ∧ pointEscape point =
      unitEscape (0xD800 + (point - 0x10000) / 0x400) ++
        unitEscape (0xDC00 + (point - 0x10000) % 0x400)) := by
  unfold pointEscape
  split
  · next h => exact .inl ⟨'"', rfl, h ▸ rfl, by omega⟩
  split
  · next h => exact .inl ⟨'\\', rfl, h ▸ rfl, by omega⟩
  split
  · next h => exact .inl ⟨'n', rfl, h ▸ rfl, by omega⟩
  split
  · next h => exact .inl ⟨'r', rfl, h ▸ rfl, by omega⟩
  split
  · next h => exact .inl ⟨'t', rfl, h ▸ rfl, by omega⟩
  split
  · next h => exact .inl ⟨'b', rfl, h ▸ rfl, by omega⟩
  split
  · next h => exact .inl ⟨'f', rfl, h ▸ rfl, by omega⟩
  split
  · next h => exact .inr (.inl ⟨h, rfl⟩)
  · next h => exact .inr (.inr ⟨Nat.le_of_not_lt h, rfl⟩)

theorem behind_of_lt (h : point.isValidChar) (hlt : point < 0x10FFFF) :
    behind seen point = Char.ofNat point :: seen := by
  have hmark : point ≠ halfMark.toNat := by
    rw [toNat_halfMark]
    omega
  rw [behind, writingOf, isHalf_of_isValidChar h, if_neg Bool.false_ne_true, if_neg hmark]
  rfl

/-- Characters that are written as themselves are read as themselves. -/
theorem readChars_append {cs : List Char}
    (h : ∀ c ∈ cs, 0x20 ≤ c.toNat ∧ c ≠ '"' ∧ c ≠ '\\') :
    readChars none seen (cs ++ rest) = readChars none (cs.reverse ++ seen) rest := by
  induction cs generalizing seen with
  | nil => rfl
  | cons c cs ih =>
    rw [List.forall_mem_cons] at h
    obtain ⟨⟨hlow, hquote, hslash⟩, hcs⟩ := h
    rw [List.cons_append, readChars_plain hlow hquote hslash, ih hcs, List.reverse_cons,
      List.append_assoc, List.singleton_append]

/-- The writing of a character is this character, or twice the mark. -/
theorem eq_of_mem_writingOf (h : point.isValidChar) {c : Char} (hc : c ∈ writingOf point) :
    c = Char.ofNat point ∨ c = halfMark := by
  rw [writingOf, isHalf_of_isValidChar h, if_neg Bool.false_ne_true] at hc
  split at hc
  · simp only [List.mem_cons, List.not_mem_nil, or_false, or_self] at hc
    exact .inr hc
  · exact .inl (List.mem_singleton.mp hc)

/-- The writing of a character is read as this character, in either layout. -/
theorem readChars_writePoint (layout : Layout) (h : point.isValidChar) :
    readChars none seen (writePoint layout point ++ rest) =
      readChars none (behind seen point) rest := by
  have hhalf := isHalf_of_isValidChar h
  have hmax := lt_of_isValidChar h
  rw [isHalf, Bool.or_eq_false_iff] at hhalf
  unfold writePoint
  split
  · next hplain =>
    simp only [Layout.isPlain, Bool.and_eq_true, decide_eq_true_eq] at hplain
    obtain ⟨⟨⟨hlow, -⟩, hquote⟩, hslash⟩ := hplain
    refine readChars_append fun c hc => ?_
    have hnat := toNat_ofNat h
    obtain rfl | rfl := eq_of_mem_writingOf h hc
    · rw [hnat]
      refine ⟨hlow, fun heq => hquote ?_, fun heq => hslash ?_⟩
      · rw [← hnat, heq]
        rfl
      · rw [← hnat, heq]
        rfl
    · decide
  · obtain ⟨letter, hwritten, hletter, hlt⟩ | ⟨hlt, hwritten⟩ | ⟨hge, hwritten⟩ :=
      pointEscape_cases point
    · rw [hwritten, behind_of_lt h (by omega)]
      exact readChars_letterEscape hletter
    · rw [hwritten, readChars_unitEscape hlt]
      simp only [hhalf.1, Bool.false_eq_true, if_false]
    · have hhigh : isHighUnit (0xD800 + (point - 0x10000) / 0x400) = true := by
        simp only [isHighUnit, Bool.and_eq_true, decide_eq_true_eq]
        omega
      have hlow : isLowUnit (0xDC00 + (point - 0x10000) % 0x400) = true := by
        simp only [isLowUnit, Bool.and_eq_true, decide_eq_true_eq]
        omega
      rw [hwritten, List.append_assoc, readChars_unitEscape (by omega)]
      simp only [hhigh, if_true]
      rw [readChars_unitEscape (by omega)]
      simp only [hlow, pairedUnits_eq hge, if_true]

/-- **A written text is read back**: every character of it, and then its closing quote. -/
theorem readChars_flatMap_writePoint (layout : Layout) {points : List Nat}
    (h : ∀ point ∈ points, point.isValidChar) (seen rest : List Char) :
    readChars none seen (points.flatMap (writePoint layout) ++ '"' :: rest) =
      .ok (seen.reverse ++ writingOfAll points, rest) := by
  induction points generalizing seen with
  | nil => simp [readChars, writingOfAll]
  | cons point points ih =>
    rw [List.forall_mem_cons] at h
    rw [List.flatMap_cons, List.append_assoc, readChars_writePoint layout h.1, ih h.2, behind,
      List.reverse_append, List.reverse_reverse, List.append_assoc, writingOfAll, writingOfAll,
      List.flatMap_cons]

/-- A written text begins with a quote, behind which it is read back. -/
theorem exists_writeString (layout : Layout) (s : String) (rest : List Char) :
    ∃ cs, writeString layout (textOfCharacters s) ++ rest = '"' :: cs ∧
      readString cs = .ok (textOfCharacters s, rest) := by
  refine ⟨(s.toList.map Char.toNat).flatMap (writePoint layout) ++ '"' :: rest, ?_, ?_⟩
  · simp [writeString]
  · rw [readString, readChars_flatMap_writePoint layout isValidChar_of_mem_toNat]
    rfl

end Json
end Recommender
