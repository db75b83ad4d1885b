import Recommender.Rule.Store

/-!
# The numbers of rules

A rule store that has only been saved to and deleted from has its rules under the numbers that it
has handed out, each under its own.  An identifier whose rule is gone is *retired*; it stays so,
for no number is handed out twice.

Counts that are kept under numbers are in order, so they can be listed.
-/

namespace Recommender

namespace RuleStore

/-- A store has handed out a number. -/
def Issued (n : Int) (s : RuleStore) : Prop :=
  1 ≤ n ∧ n < s.nextId

/-- An identifier was handed out, and its rule is gone. -/
def Retired (id : RuleId) (s : RuleStore) : Prop :=
  (∃ n, id.key = .number n ∧ s.Issued n) ∧ s.contains id = false

/-- The rules of a store are under the numbers that were handed out for them. -/
structure Numbered (s : RuleStore) : Prop where
  first : 1 ≤ s.nextId
  entries : ∀ e ∈ s.rules.entries,
    ∃ n r, e = (.number n, .number n, r) ∧ r.id = .int n ∧ s.Issued n

theorem numbered_empty : ({} : RuleStore).Numbered :=
  ⟨Int.le_refl 1, List.forall_mem_nil _⟩

theorem not_issued_empty (n : Int) : ¬ ({} : RuleStore).Issued n :=
  fun h => Int.lt_irrefl 1 (Int.lt_of_le_of_lt h.1 h.2)

section

variable {s : RuleStore}

/-! ## What a store has handed out -/

theorem Retired.congr {id other : RuleId} (h : s.Retired id) (hkey : id.key = other.key) :
    s.Retired other := by
  rw [Retired, ← hkey, ← contains_congr hkey]
  exact h

theorem Issued.save {n : Int} (h : s.Issued n) (r : Rule) : (s.save r).2.Issued n :=
  ⟨h.1, Int.lt_trans h.2 (Int.lt_succ s.nextId)⟩

theorem Retired.save {id : RuleId} (h : s.Retired id) (r : Rule) : (s.save r).2.Retired id := by
  obtain ⟨⟨n, hkey, hn⟩, hgone⟩ := h
  refine ⟨⟨n, hkey, hn.save r⟩, ?_⟩
  have hold : n ≠ s.nextId := Int.ne_of_lt hn.2
  rw [Bool.eq_false_iff, ne_eq, contains_save]
  simp [hkey, hold, hgone]

theorem Retired.delete {id : RuleId} (h : s.Retired id) (other : RuleId) :
    (s.delete other).Retired id := by
  refine ⟨h.1, ?_⟩
  rw [Bool.eq_false_iff, ne_eq, contains_delete]
  simp [h.2]

/-- The rule of an identifier that was handed out is gone once it is deleted. -/
theorem retired_delete {id : RuleId} (h : ∃ n, id.key = .number n ∧ s.Issued n) :
    (s.delete id).Retired id := by
  refine ⟨h, ?_⟩
  rw [Bool.eq_false_iff, ne_eq, contains_delete]
  simp

/-- Saving a rule retires no identifier. -/
theorem Retired.of_save {id : RuleId} {r : Rule} (h : (s.save r).2.Retired id) : s.Retired id := by
  obtain ⟨⟨n, hkey, hn⟩, hgone⟩ := h
  rw [Bool.eq_false_iff, ne_eq, contains_save, not_or] at hgone
  have hold : n ≠ s.nextId := fun hnew => hgone.1 (hkey.trans (congrArg _ hnew))
  have hlt : n < s.nextId + 1 := hn.2
  exact ⟨⟨n, hkey, hn.1, by omega⟩, Bool.eq_false_iff.mpr hgone.2⟩

/-- Deleting a rule retires no other identifier. -/
theorem Retired.of_delete {id other : RuleId} (h : (s.delete other).Retired id)
    (hne : id.key ≠ other.key) : s.Retired id := by
  obtain ⟨hissued, hgone⟩ := h
  rw [Bool.eq_false_iff, ne_eq, contains_delete, not_and] at hgone
  exact ⟨hissued, Bool.eq_false_iff.mpr (hgone hne)⟩

/-! ## Rules under their numbers -/

theorem Numbered.save (h : s.Numbered) (r : Rule) : (s.save r).2.Numbered := by
  have hnext : (s.save r).2.Issued s.nextId := ⟨h.first, Int.lt_succ s.nextId⟩
  refine ⟨Int.le_trans h.first (Int.le_of_lt (Int.lt_succ s.nextId)), fun e he => ?_⟩
  obtain rfl | hold := Assoc.mem_put he
  · -- The next number was not handed out before, so the rule is shown under it.
    refine ⟨s.nextId, { r with id := .int s.nextId }, ?_, rfl, hnext⟩
    cases hfind : Assoc.find? (RuleId.key (.number s.nextId)) s.rules.entries with
    | none => rfl
    | some shown =>
        obtain ⟨n, r', heq, -, hn⟩ := h.entries _ (Assoc.mem_of_find?_eq_some hfind)
        cases heq
        exact absurd hn.2 (Int.lt_irrefl _)
  · obtain ⟨n, r', rfl, hid, hn⟩ := h.entries e hold
    exact ⟨n, r', rfl, hid, hn.save r⟩

theorem Numbered.delete (h : s.Numbered) (id : RuleId) : (s.delete id).Numbered :=
  ⟨h.first, fun e he => h.entries e (List.mem_filter.mp he).1⟩

/-- Only identifiers that were handed out have rules. -/
theorem Numbered.issued_of_contains (h : s.Numbered) {id : RuleId} (hid : s.contains id = true) :
    ∃ n, id.key = .number n ∧ s.Issued n := by
  rw [contains, ById.find?, Option.isSome_map] at hid
  obtain ⟨shown, hfind⟩ := Option.isSome_iff_exists.mp hid
  obtain ⟨n, r, heq, -, hn⟩ := h.entries _ (Assoc.mem_of_find?_eq_some hfind)
  exact ⟨n, congrArg Prod.fst heq, hn⟩

/-- A number has a rule exactly if a rule of this number is listed. -/
theorem Numbered.contains_iff (h : s.Numbered) (n : Int) :
    s.contains (.number n) = true ↔ ∃ r ∈ s.toList, r.id = .int n := by
  rw [contains, ById.find?, Option.isSome_map]
  constructor
  · intro hid
    obtain ⟨shown, hfind⟩ := Option.isSome_iff_exists.mp hid
    have hmem := Assoc.mem_of_find?_eq_some hfind
    obtain ⟨m, r, heq, hr, -⟩ := h.entries _ hmem
    cases heq
    exact ⟨r, List.mem_map.mpr ⟨_, List.mem_map.mpr ⟨_, hmem, rfl⟩, rfl⟩, hr⟩
  · rintro ⟨r, hmem, hr⟩
    obtain ⟨_, hentry, rfl⟩ := List.mem_map.mp hmem
    obtain ⟨e, he, rfl⟩ := List.mem_map.mp hentry
    obtain ⟨m, r, rfl, hm, -⟩ := h.entries e he
    obtain rfl : m = n := Json.int.inj (hm.symm.trans hr)
    rw [Assoc.isSome_find?_iff]
    exact List.mem_map.mpr ⟨_, he, rfl⟩

/-- Rules that are listed have numbers that were handed out. -/
theorem Numbered.issued_of_mem (h : s.Numbered) {r : Rule} (hr : r ∈ s.toList) :
    ∃ n, r.id = .int n ∧ s.Issued n := by
  obtain ⟨_, hentry, rfl⟩ := List.mem_map.mp hr
  obtain ⟨e, he, rfl⟩ := List.mem_map.mp hentry
  obtain ⟨n, r, rfl, hid, hn⟩ := h.entries e he
  exact ⟨n, hid, hn⟩

end

theorem mem_toList_save_self (r : Rule) (s : RuleStore) :
    { r with id := .int s.nextId } ∈ (s.save r).2.toList := by
  have hput := Assoc.mem_of_find?_eq_some (Assoc.find?_put_self (RuleId.key (.number s.nextId))
    ((Assoc.find? (RuleId.key (.number s.nextId)) s.rules.entries).elim (.number s.nextId) (·.1),
      { r with id := .int s.nextId }) s.rules.entries)
  exact List.mem_map.mpr ⟨_, List.mem_map.mpr ⟨_, hput, rfl⟩, rfl⟩

/-- Nothing is new but the rule that is saved. -/
theorem mem_toList_save {s : RuleStore} {r r' : Rule} (h : r' ∈ (s.save r).2.toList) :
    r' = { r with id := .int s.nextId } ∨ r' ∈ s.toList := by
  obtain ⟨_, hentry, rfl⟩ := List.mem_map.mp h
  obtain ⟨e, he, rfl⟩ := List.mem_map.mp hentry
  obtain rfl | hold := Assoc.mem_put he
  · exact .inl rfl
  · exact .inr (List.mem_map.mpr ⟨_, List.mem_map.mpr ⟨e, hold, rfl⟩, rfl⟩)

theorem mem_toList_delete {s : RuleStore} {id : RuleId} {r : Rule} (h : r ∈ (s.delete id).toList) :
    r ∈ s.toList := by
  obtain ⟨_, hentry, rfl⟩ := List.mem_map.mp h
  obtain ⟨e, he, rfl⟩ := List.mem_map.mp hentry
  exact List.mem_map.mpr ⟨_, List.mem_map.mpr ⟨e, (List.mem_filter.mp he).1, rfl⟩, rfl⟩

end RuleStore

namespace MatchCounts

/-- Counts are kept under numbers. -/
def Numbered (m : MatchCounts) : Prop :=
  ∀ e ∈ m.counts.entries, ∃ n count, e = (.number n, .number n, count)

section

variable {m : MatchCounts}

theorem Numbered.put (h : m.Numbered) (n : Int) (count : Nat) :
    Numbered ⟨m.counts.put (.number n) count⟩ := by
  intro e he
  obtain rfl | hold := Assoc.mem_put he
  · refine ⟨n, count, ?_⟩
    cases hfind : Assoc.find? (RuleId.key (.number n)) m.counts.entries with
    | none => rfl
    | some shown =>
        obtain ⟨n', count', heq⟩ := h _ (Assoc.mem_of_find?_eq_some hfind)
        cases heq
        rfl
  · exact h e hold

theorem Numbered.start (h : m.Numbered) (n : Int) : (m.start (.number n)).Numbered := by
  rw [MatchCounts.start]
  split
  · exact h
  · exact h.put n 0

theorem Numbered.increment (h : m.Numbered) (n : Int) : (m.increment (.number n)).Numbered :=
  h.put n _

theorem Numbered.drop (h : m.Numbered) (id : RuleId) : (m.drop id).Numbered :=
  fun e he => h e (List.mem_filter.mp he).1

/-- Numbers are in some order. -/
theorem areOrdered_of_numbers {ids : List RuleId} (h : ∀ id ∈ ids, ∃ n, id = .number n) :
    RuleId.areOrdered ids = true := by
  induction ids with
  | nil => rfl
  | cons a rest ih =>
      rw [List.forall_mem_cons] at h
      cases rest with
      | nil => rfl
      | cons b rest =>
          obtain ⟨n, rfl⟩ := h.1
          obtain ⟨k, rfl⟩ := h.2 b List.mem_cons_self
          rw [RuleId.areOrdered, ih h.2]
          simp [RuleId.toJson]

/-- Counts under numbers can be listed, and the listed numbers are those that have a count. -/
theorem Numbered.exists_toList (h : m.Numbered) :
    ∃ stats, m.toList = .ok stats ∧ ∀ id, (∃ stat ∈ stats, stat.ruleId = id) ↔
      ∃ n, id = .number n ∧ (m.count? id).isSome = true := by
  have hordered : RuleId.areOrdered (m.counts.toList.map (·.1)) = true := by
    refine areOrdered_of_numbers fun id hid => ?_
    simp only [ById.toList, List.mem_map] at hid
    obtain ⟨_, ⟨e, he, rfl⟩, rfl⟩ := hid
    obtain ⟨n, count, rfl⟩ := h e he
    exact ⟨n, rfl⟩
  refine ⟨_, by rw [toList, if_pos hordered], fun id => ?_⟩
  simp only [List.mem_map, List.mem_mergeSort, ById.toList]
  constructor
  · rintro ⟨_, ⟨_, ⟨e, he, rfl⟩, rfl⟩, rfl⟩
    obtain ⟨n, count, rfl⟩ := h e he
    refine ⟨n, rfl, ?_⟩
    rw [count?, ById.find?, Option.isSome_map, Assoc.isSome_find?_iff]
    exact List.mem_map.mpr ⟨_, he, rfl⟩
  · rintro ⟨n, rfl, hcount⟩
    rw [count?, ById.find?, Option.isSome_map] at hcount
    obtain ⟨shown, hfind⟩ := Option.isSome_iff_exists.mp hcount
    have hmem := Assoc.mem_of_find?_eq_some hfind
    obtain ⟨n', count, heq⟩ := h _ hmem
    cases heq
    exact ⟨_, ⟨_, ⟨_, hmem, rfl⟩, rfl⟩, rfl⟩

end

end MatchCounts

end Recommender
