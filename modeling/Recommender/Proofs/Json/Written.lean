import Mathlib
import Recommender.Json.Reader
import Recommender.Proofs.Json.Texts
import Recommender.Proofs.Number.Positional

/-!
# Written values are read back

A value is *legible* if its texts are made of characters, its whole numbers can be written out, there
are no binary fractions in it, and the keys of each object in it differ.  A legible value that is
written, in either layout, is read back as itself, if lists and objects may be nested so deeply.

The reader goes down by one unit of fuel with every value, item and member, and what is written of a
value is longer than what is written of any part of it.  So the induction is on the fuel: what the
reader does with less of it is known of the parts, and the length of the text says that there is
enough.
-/

namespace Recommender.Json

/-- A value that is told by its written form, with lists and objects nested no deeper than there is
room. -/
inductive Legible : (room : Nat) → Json → Prop where
  | null {room : Nat} : Legible room .null
  | bool {room : Nat} (b : Bool) : Legible room (.bool b)
  | int {room : Nat} {n : Int} (h : Numeral.isWritable n = true) : Legible room (.int n)
  | str {room : Nat} (s : String) : Legible room (.str (textOfCharacters s))
  | arr {room : Nat} {items : List Json} (h : ∀ v ∈ items, Legible room v) :
    Legible (room + 1) (.arr items)
  | obj {room : Nat} {members : List (String × Json)} (hkeys : (Assoc.keys members).Nodup)
    (htexts : ∀ m ∈ members, ∃ s, m.1 = textOfCharacters s)
    (h : ∀ m ∈ members, Legible room m.2) : Legible (room + 1) (.obj members)

/-- Characters behind a value, at which it ends: a comma, a closing bracket or brace, or none. -/
def Ends (rest : List Char) : Prop :=
  ∀ c ∈ rest.head?, c = ',' ∨ c = ']' ∨ c = '\x7d'

theorem ends_nil : Ends [] := by
  simp [Ends]

theorem ends_cons {c : Char} (h : c = ',' ∨ c = ']' ∨ c = '\x7d') (rest : List Char) :
    Ends (c :: rest) := by
  simpa [Ends] using h

/-! ## Whole numbers -/

/-- The digits of a positive number do not begin with zero. -/
theorem head?_toDigits_ne {n : Nat} (h : 0 < n) : (Nat.toDigits 10 n).head? ≠ some '0' := by
  induction n using Nat.strongRecOn with
  | ind n ih =>
    obtain hlt | hge := Nat.lt_or_ge n 10
    · rw [Nat.toDigits_of_lt_base hlt, List.head?_cons, ne_eq, Option.some.injEq,
        Nat.digitChar_eq_zero]
      exact h.ne'
    · rw [Nat.toDigits_of_base_le (by decide) hge, List.head?_append_of_ne_nil _
        Nat.toDigits_ne_nil]
      exact ih (n / 10) (by omega) (by omega)

theorem isAsciiDigit_of_mem_toDigits {n : Nat} {c : Char} (h : c ∈ Nat.toDigits 10 n) :
    isAsciiDigit c = true := by
  have hdigit := Nat.isDigit_of_mem_toDigits (by decide) (by decide) h
  simpa [isAsciiDigit, Char.isDigit, Char.le_def] using hdigit

theorem asciiValue_toDigits (n : Nat) : asciiValue (Nat.toDigits 10 n) = n :=
  Nat.ofDigitChars_ten_toDigits

/-- Digits are split off up to the end of their value. -/
theorem spanDigits_append {digits rest : List Char} (hdigits : ∀ c ∈ digits, isAsciiDigit c = true)
    (hrest : Ends rest) : spanDigits (digits ++ rest) = (digits, rest) := by
  have hstop : ∀ c ∈ rest.head?, isAsciiDigit c = false := by
    intro c hc
    obtain rfl | rfl | rfl := hrest c hc <;> rfl
  rw [spanDigits, List.takeWhile_append_of_pos hdigits, List.dropWhile_append_of_pos hdigits]
  cases rest with
  | nil => simp
  | cons c rest => simp [hstop c rfl]

/-- Nothing of a value stands where it ends. -/
theorem spanParts_of_ends {rest : List Char} (h : Ends rest) :
    spanFraction rest = ([], rest) ∧ spanExponent rest = (none, rest) := by
  cases rest with
  | nil => exact ⟨rfl, rfl⟩
  | cons c rest => obtain rfl | rfl | rfl := h c rfl <;> exact ⟨rfl, rfl⟩

/-- The digits of a number are read as the number. -/
theorem readUnsigned_toDigits {n : Nat} {rest : List Char} (negative : Bool)
    (hfits : (Nat.toDigits 10 n).length ≤ maxDigits) (hrest : Ends rest) :
    readUnsigned negative (Nat.toDigits 10 n ++ rest) =
      .ok (.int (if negative then -n else n), rest) := by
  obtain ⟨hfraction, hexponent⟩ := spanParts_of_ends hrest
  obtain rfl | hpos := Nat.eq_zero_or_pos n
  · show readUnsigned negative ('0' :: rest) = _
    rw [readUnsigned]
    simp [hfraction, hexponent, maxDigits, asciiValue]
  · have hspan := spanDigits_append (fun _ => isAsciiDigit_of_mem_toDigits (n := n)) hrest
    have hfirst : ∀ cs, Nat.toDigits 10 n ++ rest ≠ '0' :: cs := by
      intro cs heq
      have hhead := head?_toDigits_ne hpos
      have hsame : (Nat.toDigits 10 n ++ rest).head? = (Nat.toDigits 10 n).head? :=
        List.head?_append_of_ne_nil _ Nat.toDigits_ne_nil
      rw [← hsame, heq] at hhead
      exact hhead rfl
    have hshort : ¬ maxDigits < (Nat.toDigits 10 n).length := Nat.not_lt.mpr hfits
    rw [readUnsigned]
    · simp [hspan, hfraction, hexponent, hshort, asciiValue_toDigits, Nat.toDigits_ne_nil]
    · exact hfirst

/-- Characters differ if a test tells their first ones apart. -/
theorem cons_ne_of_test (test : Char → Bool) {c d : Char} (hc : test c = true)
    (hd : test d = false) {cs ds : List Char} : c :: cs ≠ d :: ds := by
  rintro ⟨⟩
  rw [hd] at hc
  cases hc

theorem readNumber_of_isAsciiDigit {c : Char} (h : isAsciiDigit c = true) (cs : List Char) :
    readNumber (c :: cs) = readUnsigned false (c :: cs) := by
  rw [readNumber]
  all_goals exact fun _ => cons_ne_of_test isAsciiDigit h rfl

theorem readNumber_minus {c : Char} (h : isAsciiDigit c = true) (cs : List Char) :
    readNumber ('-' :: c :: cs) = readUnsigned true (c :: cs) := by
  rw [readNumber]
  exact fun _ => cons_ne_of_test isAsciiDigit h rfl

/-- Whether a written number may begin with a character. -/
def beginsNumber (c : Char) : Bool :=
  c = '-' || isAsciiDigit c

/-- What begins with a minus sign or a digit is read as a number. -/
theorem readValue_of_beginsNumber {c : Char} (h : beginsNumber c = true) (fuel room : Nat)
    (cs : List Char) : readValue (fuel + 1) room (c :: cs) = readNumber (c :: cs) := by
  have hnot {d : Char} {ds : List Char} (hd : beginsNumber d = false) : c :: cs ≠ d :: ds :=
    cons_ne_of_test beginsNumber h hd
  rw [readValue]
  · exact fun _ => hnot rfl
  · exact fun _ => hnot rfl
  · exact fun _ => hnot rfl
  · exact fun _ => hnot rfl
  · exact fun _ heq _ => hnot rfl heq
  · exact fun _ heq _ => hnot rfl heq
  · exact fun _ _ heq _ => hnot rfl heq
  · exact fun _ _ heq _ => hnot rfl heq

/-- A written whole number begins as a number, and is read as itself. -/
theorem exists_toString {n : Int} (h : Numeral.isWritable n = true) {rest : List Char}
    (hrest : Ends rest) :
    ∃ c cs, (toString n).toList = c :: cs ∧ beginsNumber c = true ∧
      readNumber (c :: (cs ++ rest)) = .ok (.int n, rest) := by
  have hfits : (Nat.toDigits 10 n.natAbs).length ≤ maxDigits := of_decide_eq_true h
  obtain ⟨c, cs, hdigits⟩ := List.exists_cons_of_ne_nil
    (Nat.toDigits_ne_nil (n := n.natAbs) (b := 10))
  have hc : isAsciiDigit c = true :=
    isAsciiDigit_of_mem_toDigits (n := n.natAbs) (hdigits ▸ List.mem_cons_self)
  have hread (negative : Bool) : readUnsigned negative (c :: (cs ++ rest)) =
      .ok (.int (if negative then -n.natAbs else n.natAbs), rest) := by
    rw [← List.cons_append, ← hdigits]
    exact readUnsigned_toDigits negative hfits hrest
  rw [Numeral.toList_toString, hdigits]
  by_cases hn : n < 0
  · have habs : -(n.natAbs : Int) = n := by omega
    refine ⟨'-', c :: cs, if_pos hn, rfl, ?_⟩
    rw [List.cons_append, readNumber_minus hc, hread, if_pos rfl, habs]
  · have habs : (n.natAbs : Int) = n := by omega
    refine ⟨c, cs, if_neg hn, ?_, ?_⟩
    · rw [beginsNumber, hc, Bool.or_true]
    · rw [readNumber_of_isAsciiDigit hc, hread, if_neg Bool.false_ne_true, habs]

/-! ## Lists and objects -/

variable {layout : Layout} {room fuel : Nat} {v : Json} {rest : List Char}

/-- Values are read back by a reader with so much fuel. -/
def ReadsBack (layout : Layout) (fuel : Nat) : Prop :=
  ∀ ⦃room : Nat⦄ ⦃v : Json⦄ ⦃rest : List Char⦄, Legible room v → Ends rest →
    (v.write layout).length < fuel →
      readValue fuel room (v.write layout ++ rest) = .ok (v, rest)

theorem skipGap_cons {c : Char} (h : isGap c = false) (cs : List Char) :
    skipGap (c :: cs) = c :: cs := by
  simp [skipGap, h]

theorem skipGap_gap (layout : Layout) (cs : List Char) :
    skipGap (layout.gap ++ cs) = skipGap cs := by
  cases layout <;> rfl

/-- No written value begins with a blank or a closing bracket. -/
theorem exists_write (layout : Layout) {v : Json} (h : Legible room v) :
    ∃ c cs, v.write layout = c :: cs ∧ isGap c = false ∧ c ≠ ']' := by
  cases h with
  | null => exact ⟨_, _, rfl, rfl, by decide⟩
  | bool b => cases b <;> exact ⟨_, _, rfl, rfl, by decide⟩
  | int h =>
    obtain ⟨c, cs, hcs, hc, -⟩ := exists_toString h ends_nil
    have hnot : ∀ d ∈ [' ', '\n', '\t', '\r', ']'], c ≠ d := by
      rintro d hd rfl
      simp only [List.mem_cons, List.not_mem_nil, or_false] at hd
      obtain rfl | rfl | rfl | rfl | rfl := hd <;> cases hc
    refine ⟨c, cs, hcs, ?_, hnot _ (by decide)⟩
    simp [isGap, hnot]
  | str s => exact ⟨_, _, rfl, rfl, by decide⟩
  | @arr _ items _ => cases items <;> exact ⟨_, _, rfl, rfl, by decide⟩
  | @obj _ members _ _ _ => cases members <;> exact ⟨_, _, rfl, rfl, by decide⟩

theorem skipGap_write (h : Legible room v) (rest : List Char) :
    skipGap (v.write layout ++ rest) = v.write layout ++ rest := by
  obtain ⟨c, cs, hcs, hc, -⟩ := exists_write layout h
  rw [hcs, List.cons_append, skipGap_cons hc]

/-- What is left of a written list is read back, from an item on. -/
theorem readItems_write (hread : ∀ f < fuel, ReadsBack layout f) {v : Json} {vs : List Json}
    (h : ∀ w ∈ v :: vs, Legible room w)
    (hfuel : (v.write layout ++ writeItems layout vs).length < fuel) (seen : List Json) :
    readItems fuel room seen (v.write layout ++ (writeItems layout vs ++ rest)) =
      .ok (.arr (seen.reverse ++ v :: vs), rest) := by
  induction vs generalizing v seen fuel with
  | nil =>
    obtain ⟨fuel, rfl⟩ := Nat.exists_eq_succ_of_ne_zero (Nat.ne_zero_of_lt hfuel)
    have hv := hread fuel (Nat.lt_succ_self fuel) (h v List.mem_cons_self)
      (ends_cons (.inr (.inl rfl)) rest) (by
        rw [List.length_append] at hfuel
        simp only [writeItems, List.length_singleton] at hfuel
        omega)
    rw [readItems, writeItems, List.singleton_append, hv]
    simp [skipGap_cons (c := ']') rfl]
  | cons w ws ih =>
    obtain ⟨fuel, rfl⟩ := Nat.exists_eq_succ_of_ne_zero (Nat.ne_zero_of_lt hfuel)
    rw [List.forall_mem_cons] at h
    rw [writeItems, List.length_append, List.length_cons, List.length_append] at hfuel
    have hv := hread fuel (Nat.lt_succ_self fuel) h.1
      (ends_cons (.inl rfl) (layout.gap ++ (w.write layout ++ (writeItems layout ws ++ rest))))
      (by omega)
    have hws := ih (fun f hf => hread f (Nat.lt_succ_of_lt hf)) h.2 (by omega) (v :: seen)
    rw [readItems, writeItems, List.cons_append, List.append_assoc, List.append_assoc, hv]
    simp only [skipGap_cons (c := ',') rfl, skipGap_gap,
      skipGap_write (h.2 w List.mem_cons_self), hws]
    simp

/-- A written member is read back, and what stands behind it decides how to go on. -/
theorem readMembers_member (hread : ReadsBack layout fuel) (key : String) (h : Legible room v)
    (hends : Ends rest) (hfuel : (v.write layout).length < fuel) (seen : List (String × Json)) :
    readMembers (fuel + 1) room seen (writeString layout (textOfCharacters key) ++
        ':' :: (layout.gap ++ (v.write layout ++ rest))) =
      match skipGap rest with
      | ',' :: rest => readMembers fuel room ((textOfCharacters key, v) :: seen) (skipGap rest)
      | '\x7d' :: rest => .ok (ofMembers ((textOfCharacters key, v) :: seen).reverse, rest)
      | _ => .error .malformed := by
  obtain ⟨cs, hcs, hkey⟩ := exists_writeString layout key
    (':' :: (layout.gap ++ (v.write layout ++ rest)))
  have hvalue : readValue fuel room (skipGap (layout.gap ++ (v.write layout ++ rest))) =
      .ok (v, rest) := by
    rw [skipGap_gap, skipGap_write h, hread h hends hfuel]
  rw [hcs, readMembers, hkey]
  simp only [skipGap_cons (c := ':') rfl]
  exact hvalue ▸ rfl

/-- What is left of a written object is read back, from a member on. -/
theorem readMembers_write (hread : ∀ f < fuel, ReadsBack layout f) {m : String × Json}
    {ms : List (String × Json)} (htexts : ∀ n ∈ m :: ms, ∃ s, n.1 = textOfCharacters s)
    (h : ∀ n ∈ m :: ms, Legible room n.2)
    (hfuel : (m.2.write layout ++ writeMembers layout ms).length < fuel)
    (seen : List (String × Json)) :
    readMembers fuel room seen (writeString layout m.1 ++ ':' :: (layout.gap ++
        (m.2.write layout ++ (writeMembers layout ms ++ rest)))) =
      .ok (ofMembers (seen.reverse ++ m :: ms), rest) := by
  induction ms generalizing m seen fuel with
  | nil =>
    obtain ⟨fuel, rfl⟩ := Nat.exists_eq_succ_of_ne_zero (Nat.ne_zero_of_lt hfuel)
    obtain ⟨key, v⟩ := m
    obtain ⟨s, rfl⟩ : ∃ s, key = textOfCharacters s := htexts _ List.mem_cons_self
    rw [List.length_append, writeMembers, List.length_singleton] at hfuel
    have hm := readMembers_member (hread fuel (Nat.lt_succ_self fuel)) s
      (h _ List.mem_cons_self) (ends_cons (.inr (.inr rfl)) rest) (by omega) seen
    rw [writeMembers, List.singleton_append, hm]
    simp [skipGap_cons (c := '\x7d') rfl]
  | cons n ns ih =>
    obtain ⟨fuel, rfl⟩ := Nat.exists_eq_succ_of_ne_zero (Nat.ne_zero_of_lt hfuel)
    obtain ⟨key, v⟩ := m
    obtain ⟨other, w⟩ := n
    rw [List.forall_mem_cons] at h htexts
    obtain ⟨⟨s, rfl⟩, htexts⟩ := htexts
    obtain ⟨t, rfl⟩ : ∃ t, other = textOfCharacters t := htexts _ List.mem_cons_self
    simp only [writeMembers, List.length_append, List.length_cons] at hfuel
    have hv : Legible room v := h.1
    have hm := readMembers_member (hread fuel (Nat.lt_succ_self fuel)) s hv
      (ends_cons (.inl rfl) (layout.gap ++ (writeString layout (textOfCharacters t) ++
        ':' :: (layout.gap ++ (w.write layout ++ (writeMembers layout ns ++ rest))))))
      (by omega) seen
    have hns := ih (fun f hf => hread f (Nat.lt_succ_of_lt hf)) htexts h.2
      (by simp only [List.length_append]; omega) ((textOfCharacters s, v) :: seen)
    have hquote (cs : List Char) : skipGap (writeString layout (textOfCharacters t) ++ cs) =
        writeString layout (textOfCharacters t) ++ cs :=
      skipGap_write (Legible.str t : Legible 0 _) cs
    rw [writeMembers]
    simp only [List.cons_append, List.append_assoc]
    rw [hm]
    simp only [skipGap_cons (c := ',') rfl, skipGap_gap, hquote, hns]
    simp

/-- A list that has items is read from the first one on. -/
theorem readValue_bracket {c : Char} (hgap : isGap c = false) (hclose : c ≠ ']') (cs : List Char) :
    readValue (fuel + 1) (room + 1) ('[' :: c :: cs) = readItems fuel room [] (c :: cs) := by
  rw [readValue]
  simp only [skipGap_cons hgap]
  split
  · next heq => exact absurd (List.cons.inj heq).1 hclose
  · rfl

/-- **What a reader with more fuel reads back**, if values are read back with less. -/
theorem readsBack_of_lt (hread : ∀ f < fuel, ReadsBack layout f) : ReadsBack layout fuel := by
  intro room v rest h hends hfuel
  obtain ⟨fuel, rfl⟩ := Nat.exists_eq_succ_of_ne_zero (Nat.ne_zero_of_lt hfuel)
  have hless : ∀ f < fuel, ReadsBack layout f := fun f hf => hread f (Nat.lt_succ_of_lt hf)
  cases h with
  | null => rw [write]; rfl
  | bool b => cases b <;> rfl
  | int h =>
    obtain ⟨c, cs, hcs, hc, hnumber⟩ := exists_toString h hends
    rw [write, hcs, List.cons_append, readValue_of_beginsNumber hc, hnumber]
  | str s =>
    obtain ⟨cs, hcs, hs⟩ := exists_writeString layout s rest
    rw [write, hcs, readValue, hs]
    rfl
  | @arr room items h =>
    cases items with
    | nil => rfl
    | cons v vs =>
      obtain ⟨c, cs, hcs, hgap, hclose⟩ := exists_write layout (h v List.mem_cons_self)
      rw [write, List.length_cons] at hfuel
      have hitems := @readItems_write layout room fuel rest hless v vs h
        (Nat.lt_of_succ_lt_succ hfuel) []
      rw [hcs, List.cons_append] at hitems
      rw [write, List.cons_append, List.append_assoc, hcs, List.cons_append,
        readValue_bracket hgap hclose, hitems]
      rfl
  | @obj room members hkeys htexts h =>
    cases members with
    | nil => rfl
    | cons m ms =>
      rw [write, List.length_cons, List.length_append, List.length_cons, List.length_append]
        at hfuel
      have hmembers := @readMembers_write layout room fuel rest hless m ms htexts h (by omega) []
      have hopen (cs : List Char) : readValue (fuel + 1) (room + 1) ('\x7b' :: '"' :: cs) =
          readMembers fuel room [] ('"' :: cs) := by
        rw [readValue]
        rfl
      rw [List.reverse_nil, List.nil_append, ofMembers, Assoc.ofPairs_of_nodup hkeys] at hmembers
      rw [write]
      simp only [List.cons_append, List.append_assoc]
      exact (hopen _).trans hmembers

/-- **A written value is read back**, in either layout, with enough fuel and whatever comes behind
it. -/
theorem readsBack (layout : Layout) (fuel : Nat) : ReadsBack layout fuel := by
  induction fuel using Nat.strongRecOn with
  | ind fuel ih => exact readsBack_of_lt ih

/-- **A written value is read back** where there is room for it. -/
theorem readWithin_write (layout : Layout) (h : Legible room v) :
    readWithin room (v.write layout) = .ok v := by
  have hv := readsBack layout (2 * (v.write layout).length + 2) h ends_nil (by omega)
  have hskip : skipGap (v.write layout ++ []) = v.write layout ++ [] := skipGap_write h []
  rw [List.append_nil] at hv hskip
  rw [readWithin, hskip]
  simp only [hv]
  rfl

/-- A list of texts of characters is read back at any depth that leaves room for a list. -/
theorem readWithin_write_ofStrings (layout : Layout) (texts : List String) (room : Nat) :
    readWithin (room + 1) ((ofStrings (texts.map textOfCharacters)).write layout) =
      .ok (ofStrings (texts.map textOfCharacters)) := by
  refine readWithin_write layout (.arr fun v hv => ?_)
  simp only [List.mem_map, exists_exists_and_eq_and] at hv
  obtain ⟨s, -, rfl⟩ := hv
  exact .str s

example : (ofStrings [textOfCharacters "\"\\\n", textOfCharacters "é😀"]).write .spaced =
    "[\"\\\"\\\\\\n\", \"\\u00e9\\ud83d\\ude00\"]".toList := by decide
example : (ofStrings [textOfCharacters "\"\\\n", textOfCharacters "é😀"]).write .dense =
    "[\"\\\"\\\\\\n\",\"é😀\"]".toList := by decide

end Recommender.Json
