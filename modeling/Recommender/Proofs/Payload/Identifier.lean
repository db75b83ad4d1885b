import Mathlib
import Recommender.Proofs.Aggregate.Key
import Recommender.Proofs.Json.Texts
import Recommender.Uuid

/-!
# The texts of an identifier

An identifier is spelled by its 32 hexadecimal digits in either case: in hyphenated groups, without
hyphens, in braces, or behind `urn:uuid:`.  The reader accepts these texts and no others, and the
text that an identifier is written as is one of them.  So reading undoes writing, for every
identifier.
-/

namespace Recommender

namespace Uuid

/-- Characters spell hexadecimal digits, one by one and in either case. -/
def Spells (cs : List Char) (ds : List (Fin 16)) : Prop :=
  cs.map digitOf? = ds.map some

/-- Characters spell the digits of an identifier in groups of 8, 4, 4, 4 and 12, with hyphens in
between. -/
def Hyphenated (u : Uuid) (cs : List Char) : Prop :=
  ∃ g₁ g₂ g₃ g₄ g₅ : List Char,
    cs = g₁ ++ '-' :: g₂ ++ '-' :: g₃ ++ '-' :: g₄ ++ '-' :: g₅ ∧
    g₁.length = 8 ∧ g₂.length = 4 ∧ g₃.length = 4 ∧ g₄.length = 4 ∧ g₅.length = 12 ∧
    Spells (g₁ ++ g₂ ++ g₃ ++ g₄ ++ g₅) u.digits

/-- Characters spell an identifier in one of its forms. -/
inductive Spelled (u : Uuid) : List Char → Prop where
  | hyphenated {cs : List Char} (h : u.Hyphenated cs) : Spelled u cs
  | plain {cs : List Char} (h : Spells cs u.digits) : Spelled u cs
  | braced {cs : List Char} (h : u.Hyphenated cs) : Spelled u ('\x7b' :: (cs ++ ['\x7d']))
  | urn {cs : List Char} (h : u.Hyphenated cs) : Spelled u ("urn:uuid:".toList ++ cs)

/-! ## Digits -/

theorem digitOf?_digitChar (d : Fin 16) : digitOf? (digitChar d) = some d := by
  revert d
  decide

theorem spells_map_digitChar (ds : List (Fin 16)) : Spells (ds.map digitChar) ds := by
  rw [Spells, List.map_map]
  exact List.map_congr_left fun d _ => digitOf?_digitChar d

theorem spells_nil_iff {ds : List (Fin 16)} : Spells [] ds ↔ ds = [] := by
  cases ds <;> simp [Spells]

theorem spells_cons_iff {c : Char} {cs : List Char} {ds : List (Fin 16)} :
    Spells (c :: cs) ds ↔ ∃ d ds', digitOf? c = some d ∧ Spells cs ds' ∧ ds = d :: ds' := by
  cases ds with
  | nil => simp [Spells]
  | cons d ds => simp [Spells]

theorem Spells.length_eq {cs : List Char} {ds : List (Fin 16)} (h : Spells cs ds) :
    cs.length = ds.length := by
  simpa using congrArg List.length h

theorem Spells.append {cs cs' : List Char} {ds ds' : List (Fin 16)} (h : Spells cs ds)
    (h' : Spells cs' ds') : Spells (cs ++ cs') (ds ++ ds') := by
  rw [Spells, List.map_append, List.map_append, h, h']

/-- What two strings of characters spell together is what each of them spells. -/
theorem Spells.exists_append {cs cs' : List Char} {ds : List (Fin 16)} (h : Spells (cs ++ cs') ds) :
    ∃ es es', ds = es ++ es' ∧ Spells cs es ∧ Spells cs' es' := by
  rw [Spells, List.map_append] at h
  obtain ⟨es, es', hds, hes, hes'⟩ := List.map_eq_append_iff.1 h.symm
  exact ⟨es, es', hds, hes.symm, hes'.symm⟩

theorem Spells.isSome_of_mem {cs : List Char} {ds : List (Fin 16)} (h : Spells cs ds) {c : Char}
    (hc : c ∈ cs) : (digitOf? c).isSome = true := by
  have hmem : digitOf? c ∈ ds.map some := h ▸ List.mem_map_of_mem hc
  obtain ⟨d, -, hd⟩ := List.mem_map.1 hmem
  rw [← hd]
  rfl

/-- A number of digits is read off the front of what spells them. -/
theorem readGroup_eq_some_iff {size : Nat} {cs rest : List Char} {ds : List (Fin 16)} :
    readGroup size cs = some (ds, rest) ↔
      ∃ g, cs = g ++ rest ∧ g.length = size ∧ Spells g ds := by
  induction size generalizing cs ds with
  | zero =>
      constructor
      · rintro ⟨⟩
        exact ⟨[], rfl, rfl, rfl⟩
      · rintro ⟨g, rfl, hg, hspells⟩
        obtain rfl := List.length_eq_zero_iff.1 hg
        rw [spells_nil_iff.1 hspells, readGroup, List.nil_append]
  | succ size ih =>
      constructor
      · intro h
        cases cs with
        | nil => cases h
        | cons c cs =>
          rw [readGroup] at h
          split at h
          · next d ds' rest' hd hrest =>
            cases h
            obtain ⟨g, rfl, hg, hspells⟩ := ih.1 hrest
            exact ⟨c :: g, rfl, congrArg (· + 1) hg, spells_cons_iff.2 ⟨d, ds', hd, hspells, rfl⟩⟩
          · cases h
      · rintro ⟨g, rfl, hg, hspells⟩
        obtain ⟨c, g, rfl⟩ := List.exists_cons_of_length_eq_add_one hg
        obtain ⟨d, ds', hd, hrest, rfl⟩ := spells_cons_iff.1 hspells
        rw [List.cons_append, readGroup, hd, ih.2 ⟨g, rfl, Nat.succ.inj hg, hrest⟩]

theorem readHyphenGroup_eq_some_iff {size : Nat} {cs rest : List Char} {ds : List (Fin 16)} :
    readHyphenGroup size cs = some (ds, rest) ↔
      ∃ g, cs = '-' :: (g ++ rest) ∧ g.length = size ∧ Spells g ds := by
  rw [readHyphenGroup.eq_def]
  split
  · next cs =>
    simp only [readGroup_eq_some_iff, List.cons.injEq, true_and]
  · next hother =>
    refine iff_of_false nofun ?_
    rintro ⟨g, rfl, -⟩
    exact hother _ rfl

theorem ofDigits?_eq_some_iff {ds : List (Fin 16)} {u : Uuid} :
    ofDigits? ds = some u ↔ ds = u.digits := by
  cases u with
  | mk digits hlength =>
    rw [ofDigits?]
    split
    · simp
    · next hother =>
      refine iff_of_false nofun ?_
      rintro rfl
      exact hother hlength

/-- The hyphenated form is read off the front of what spells it. -/
theorem readHyphenated_eq_some_iff {cs rest : List Char} {u : Uuid} :
    readHyphenated cs = some (u, rest) ↔ ∃ front, cs = front ++ rest ∧ u.Hyphenated front := by
  simp only [readHyphenated, Option.bind_eq_bind, Option.bind_eq_some_iff, Prod.exists,
    readGroup_eq_some_iff, readHyphenGroup_eq_some_iff, ofDigits?_eq_some_iff, Option.pure_def,
    Option.some.injEq, Prod.mk.injEq]
  constructor
  · rintro ⟨a, _, ⟨g₁, rfl, h₁, ha⟩, b, _, ⟨g₂, rfl, h₂, hb⟩, c, _, ⟨g₃, rfl, h₃, hc⟩,
      d, _, ⟨g₄, rfl, h₄, hd⟩, e, _, ⟨g₅, rfl, h₅, he⟩, _, hdigits, rfl, rfl⟩
    refine ⟨_, by simp, g₁, g₂, g₃, g₄, g₅, rfl, h₁, h₂, h₃, h₄, h₅, ?_⟩
    rw [← hdigits]
    exact (((ha.append hb).append hc).append hd).append he
  · rintro ⟨_, rfl, g₁, g₂, g₃, g₄, g₅, rfl, h₁, h₂, h₃, h₄, h₅, hspells⟩
    obtain ⟨abcd, e, hdigits, habcd, he⟩ := hspells.exists_append
    obtain ⟨abc, d, rfl, habc, hd⟩ := habcd.exists_append
    obtain ⟨ab, c, rfl, hab, hc⟩ := habc.exists_append
    obtain ⟨a, b, rfl, ha, hb⟩ := hab.exists_append
    refine ⟨a, _, ⟨g₁, by simp, h₁, ha⟩, b, _, ⟨g₂, rfl, h₂, hb⟩, c, _, ⟨g₃, rfl, h₃, hc⟩,
      d, _, ⟨g₄, rfl, h₄, hd⟩, e, _, ⟨g₅, rfl, h₅, he⟩, u, hdigits.symm, rfl, rfl⟩

/-! ## Identifiers -/

theorem readHyphenated_eq_some_nil_iff {cs : List Char} {u : Uuid} :
    readHyphenated cs = some (u, []) ↔ u.Hyphenated cs := by
  rw [readHyphenated_eq_some_iff]
  constructor
  · rintro ⟨front, rfl, h⟩
    rwa [List.append_nil]
  · intro h
    exact ⟨cs, (List.append_nil cs).symm, h⟩

theorem readGroup_eq_some_nil_iff {cs : List Char} {u : Uuid} :
    readGroup 32 cs = some (u.digits, []) ↔ Spells cs u.digits := by
  rw [readGroup_eq_some_iff]
  constructor
  · rintro ⟨g, rfl, -, h⟩
    rwa [List.append_nil]
  · intro h
    exact ⟨cs, (List.append_nil cs).symm, h.length_eq.trans u.length_digits, h⟩

/-- Hyphenated characters are no plain digits. -/
theorem Hyphenated.not_spells {cs : List Char} {u : Uuid} (h : u.Hyphenated cs)
    (ds : List (Fin 16)) : ¬ Spells cs ds := by
  obtain ⟨g₁, g₂, g₃, g₄, g₅, rfl, -⟩ := h
  intro hspells
  have hhyphen : (digitOf? '-').isSome = true := hspells.isSome_of_mem (by simp)
  exact absurd hhyphen (by decide)

theorem Hyphenated.exists_digit {cs : List Char} {u : Uuid} (h : u.Hyphenated cs) :
    ∃ c rest, cs = c :: rest ∧ (digitOf? c).isSome = true := by
  obtain ⟨g₁, g₂, g₃, g₄, g₅, rfl, h₁, -, -, -, -, hspells⟩ := h
  obtain ⟨c, rest, rfl⟩ := List.exists_cons_of_length_eq_add_one h₁
  exact ⟨c, _, rfl, hspells.isSome_of_mem (by simp)⟩

/-- An identifier without braces and without `urn:uuid:`: it is read in the hyphenated form first. -/
def ofBare? (cs : List Char) : Option Uuid :=
  match readHyphenated cs with
  | some (u, []) => some u
  | _ =>
    match readGroup 32 cs with
    | some (ds, []) => ofDigits? ds
    | _ => none

theorem ofBare?_eq_some_iff {cs : List Char} {u : Uuid} :
    ofBare? cs = some u ↔ u.Hyphenated cs ∨ Spells cs u.digits := by
  rw [ofBare?]
  split
  · next v hread =>
    have hv := readHyphenated_eq_some_nil_iff.1 hread
    rw [← readHyphenated_eq_some_nil_iff, hread]
    simp [hv.not_spells]
  · next hother =>
    have hnot : ¬ u.Hyphenated cs := fun h => hother u (readHyphenated_eq_some_nil_iff.2 h)
    rw [or_iff_right hnot, ← readGroup_eq_some_nil_iff]
    split
    · next ds hread => rw [hread, ofDigits?_eq_some_iff, Option.some.injEq, Prod.mk.injEq,
        and_iff_left rfl]
    · next hother => exact iff_of_false nofun (hother u.digits)

/-- What begins with a digit is neither in braces nor behind `urn:uuid:`. -/
theorem ofChars?_of_digit {c : Char} (h : (digitOf? c).isSome = true) (cs : List Char) :
    ofChars? (c :: cs) = ofBare? (c :: cs) := by
  rw [ofChars?.eq_def]
  split
  · next heq =>
    cases heq
    exact absurd h (by decide)
  · next heq =>
    cases heq
    exact absurd h (by decide)
  · rfl

theorem ofChars?_of_braces {cs : List Char} {u : Uuid} (h : u.Hyphenated cs) :
    ofChars? ('\x7b' :: (cs ++ ['\x7d'])) = some u := by
  have hread : readHyphenated (cs ++ ['\x7d']) = some (u, ['\x7d']) :=
    readHyphenated_eq_some_iff.2 ⟨cs, rfl, h⟩
  rw [ofChars?.eq_def]
  simp only [hread]

theorem ofChars?_of_urn {cs : List Char} {u : Uuid} (h : u.Hyphenated cs) :
    ofChars? ("urn:uuid:".toList ++ cs) = some u := by
  have hread := readHyphenated_eq_some_nil_iff.2 h
  change ofChars? ('u' :: 'r' :: 'n' :: ':' :: 'u' :: 'u' :: 'i' :: 'd' :: ':' :: cs) = some u
  rw [ofChars?.eq_def]
  simp only [hread]

/-- **The texts of an identifier** are the texts that are read as it. -/
theorem ofChars?_eq_some_iff {cs : List Char} {u : Uuid} : ofChars? cs = some u ↔ u.Spelled cs := by
  constructor
  · intro h
    rw [ofChars?.eq_def] at h
    split at h
    · split at h
      · next v hread =>
        cases h
        obtain ⟨front, rfl, hfront⟩ := readHyphenated_eq_some_iff.1 hread
        exact .braced hfront
      · cases h
    · split at h
      · next v hread =>
        cases h
        exact .urn (readHyphenated_eq_some_nil_iff.1 hread)
      · cases h
    · exact (ofBare?_eq_some_iff.1 h).elim .hyphenated .plain
  · intro h
    cases h with
    | hyphenated h =>
        obtain ⟨c, rest, rfl, hc⟩ := h.exists_digit
        rw [ofChars?_of_digit hc]
        exact ofBare?_eq_some_iff.2 (.inl h)
    | plain h =>
        obtain ⟨c, rest, rfl⟩ :=
          List.exists_cons_of_length_eq_add_one (h.length_eq.trans u.length_digits)
        rw [ofChars?_of_digit (h.isSome_of_mem List.mem_cons_self)]
        exact ofBare?_eq_some_iff.2 (.inr h)
    | braced h => exact ofChars?_of_braces h
    | urn h => exact ofChars?_of_urn h

theorem ofText?_eq_some_iff {s : String} {u : Uuid} :
    ofText? s = some u ↔ u.Spelled s.toList :=
  ofChars?_eq_some_iff

/-! ## The text that is written -/

/-- The text of an identifier is a hyphenated form of it. -/
theorem hyphenated_chars (u : Uuid) : u.Hyphenated u.chars := by
  refine ⟨_, _, _, _, _, rfl, ?_, ?_, ?_, ?_, ?_, ?_⟩
  · simp [u.length_digits]
  · simp [u.length_digits]
  · simp [u.length_digits]
  · simp [u.length_digits]
  · simp [u.length_digits]
  · have hspells := spells_map_digitChar u.digits
    rw [← u.groups_digits, List.map_append, List.map_append, List.map_append, List.map_append]
      at hspells
    simpa only [List.append_assoc, u.groups_digits] using hspells

/-- **An identifier is read back** from the text that it is written as. -/
theorem ofText?_text (u : Uuid) : ofText? u.text = some u := by
  rw [ofText?_eq_some_iff, text, String.toList_ofList]
  exact .hyphenated u.hyphenated_chars

/-! ## Characters -/

/-- A hexadecimal digit is a character of ASCII. -/
theorem toNat_lt_of_digitOf? {c : Char} (h : (digitOf? c).isSome = true) : c.toNat < 0x80 := by
  have hle : ∀ last : Char, c ≤ last → last.toNat < 0x80 → c.toNat < 0x80 :=
    fun _ => Nat.lt_of_le_of_lt
  rw [digitOf?, hexValue?] at h
  split_ifs at h with hdigit hlower hupper
  · exact hle '9' (by simpa using hdigit : '0' ≤ c ∧ c ≤ '9').2 (by decide)
  · exact hle 'f' (by simpa using hlower : 'a' ≤ c ∧ c ≤ 'f').2 (by decide)
  · exact hle 'F' (by simpa using hupper : 'A' ≤ c ∧ c ≤ 'F').2 (by decide)
  · cases h

theorem Hyphenated.toNat_lt {cs : List Char} {u : Uuid} (h : u.Hyphenated cs) {c : Char}
    (hc : c ∈ cs) : c.toNat < 0x80 := by
  obtain ⟨g₁, g₂, g₃, g₄, g₅, rfl, -, -, -, -, -, hspells⟩ := h
  by_cases hhyphen : c = '-'
  · rw [hhyphen]
    decide
  · exact toNat_lt_of_digitOf? (hspells.isSome_of_mem (by simpa [hhyphen, or_assoc] using hc))

/-- An identifier is spelled in ASCII. -/
theorem Spelled.toNat_lt {cs : List Char} {u : Uuid} (h : u.Spelled cs) :
    ∀ c ∈ cs, c.toNat < 0x80 := by
  cases h with
  | hyphenated h => exact fun c => h.toNat_lt
  | plain h => exact fun c hc => toNat_lt_of_digitOf? (h.isSome_of_mem hc)
  | braced h =>
      intro c hc
      rcases List.mem_cons.1 hc with rfl | hc
      · decide
      · rcases List.mem_append.1 hc with hc | hc
        · exact h.toNat_lt hc
        · rw [List.mem_singleton.1 hc]
          decide
  | urn h =>
      intro c hc
      rcases List.mem_append.1 hc with hc | hc
      · have hword : ("urn:uuid:".toList.all fun c => c.toNat < 0x80) = true := rfl
        exact of_decide_eq_true (List.all_eq_true.1 hword c hc)
      · exact h.toNat_lt hc

end Uuid

end Recommender
