import Recommender.Failure
import Recommender.Rule.Basic
import Recommender.Rule.Id

/-!
# Rule store and match counts

A rule store keeps rules in the order in which they were saved and gives each a fresh identifier.
The match counts are kept apart from the rules: a count comes into being by being started or by
being counted up, and ends by being dropped.
-/

namespace Recommender

/-- Values by the identifier of a rule, in the order in which the identifiers were first put in. -/
structure ById (β : Type) where
  entries : List (RuleKey × RuleId × β) := []
  deriving Repr, Inhabited

namespace ById

variable {β : Type}

/-- The value of an identifier. -/
def find? (id : RuleId) (m : ById β) : Option β :=
  (Assoc.find? id.key m.entries).map (·.2)

/-- Put a value under an identifier, which is shown as it was first given. -/
def put (id : RuleId) (value : β) (m : ById β) : ById β :=
  let shown := (Assoc.find? id.key m.entries).elim id (·.1)
  ⟨Assoc.put id.key (shown, value) m.entries⟩

/-- Take an identifier out. -/
def remove (id : RuleId) (m : ById β) : ById β :=
  ⟨Assoc.remove id.key m.entries⟩

/-- The identifiers with their values. -/
def toList (m : ById β) : List (RuleId × β) :=
  m.entries.map (·.2)

@[simp] theorem find?_put_self (id : RuleId) (value : β) (m : ById β) :
    (m.put id value).find? id = some value := by
  simp [find?, put]

theorem find?_put_ne {id other : RuleId} (h : other.key ≠ id.key) (value : β) (m : ById β) :
    (m.put id value).find? other = m.find? other := by
  simp [find?, put, Assoc.find?_put_ne h]

@[simp] theorem find?_remove_self (id : RuleId) (m : ById β) : (m.remove id).find? id = none := by
  simp [find?, remove]

theorem find?_remove_ne {id other : RuleId} (h : other.key ≠ id.key) (m : ById β) :
    (m.remove id).find? other = m.find? other := by
  simp [find?, remove, Assoc.find?_remove_ne h]

/-- Identifiers that are the same have the same value. -/
theorem find?_congr {id other : RuleId} (h : id.key = other.key) (m : ById β) :
    m.find? id = m.find? other := by
  rw [find?, h, find?]

end ById

/-- Rules by identifier. -/
structure RuleStore where
  rules : ById Rule := {}
  nextId : Int := 1
  deriving Repr, Inhabited

namespace RuleStore

/-- Save a rule under a fresh identifier; the result is the identifier. -/
def save (r : Rule) (s : RuleStore) : Int × RuleStore :=
  (s.nextId, { rules := s.rules.put s.nextId { r with id := .int s.nextId }
               nextId := s.nextId + 1 })

/-- Every rule, in the order of the store. -/
def toList (s : RuleStore) : List Rule :=
  s.rules.toList.map (·.2)

/-- Whether a rule has an identifier. -/
def contains (id : RuleId) (s : RuleStore) : Bool :=
  (s.rules.find? id).isSome

/-- Delete the rule of an identifier. -/
def delete (id : RuleId) (s : RuleStore) : RuleStore :=
  { s with rules := s.rules.remove id }

/-- Put a rule under an identifier as it is. -/
def place (id : RuleId) (r : Rule) (s : RuleStore) : RuleStore :=
  { s with rules := s.rules.put id r }

theorem contains_congr {id other : RuleId} (h : id.key = other.key) (s : RuleStore) :
    s.contains id = s.contains other := by
  rw [contains, ById.find?_congr h, contains]

theorem contains_save (id : RuleId) (r : Rule) (s : RuleStore) :
    (s.save r).2.contains id = (id.key = .number s.nextId ∨ s.contains id) := by
  have hid : RuleId.key (.number s.nextId) = .number s.nextId := rfl
  by_cases h : id.key = .number s.nextId
  · rw [contains_congr (h.trans hid.symm)]
    simp [contains, save, h]
  · have hput := ById.find?_put_ne (hid ▸ h) { r with id := .int s.nextId } s.rules
    simp [contains, save, h, hput]

theorem contains_delete (id other : RuleId) (s : RuleStore) :
    (s.delete id).contains other = (other.key ≠ id.key ∧ s.contains other) := by
  by_cases h : other.key = id.key
  · rw [contains_congr h]
    simp [contains, delete, h]
  · simp [contains, delete, h, ById.find?_remove_ne h]

end RuleStore

/-- The match count of a rule. -/
structure RuleStat where
  ruleId : RuleId
  count : Nat
  deriving DecidableEq, Repr, Inhabited

/-- Match counts by rule identifier. -/
structure MatchCounts where
  counts : ById Nat := {}
  deriving Repr, Inhabited

namespace MatchCounts

/-- The match count of an identifier, if it has one. -/
def count? (id : RuleId) (m : MatchCounts) : Option Nat :=
  m.counts.find? id

/-- Start the count of an identifier at zero, unless it has one. -/
def start (id : RuleId) (m : MatchCounts) : MatchCounts :=
  match m.count? id with
  | some _ => m
  | none => ⟨m.counts.put id 0⟩

/-- Count one match of an identifier. -/
def increment (id : RuleId) (m : MatchCounts) : MatchCounts :=
  ⟨m.counts.put id ((m.count? id).getD 0 + 1)⟩

/-- Drop the count of an identifier. -/
def drop (id : RuleId) (m : MatchCounts) : MatchCounts :=
  ⟨m.counts.remove id⟩

/-- Whether one count is listed before another: whether the other one does not precede it. -/
def listedBefore (a b : RuleId × Nat) : Bool :=
  !b.1.precedes a.1

/-- Every count, in ascending order of the identifiers, if these have an order. -/
def toList (m : MatchCounts) : Except Failure (List RuleStat) :=
  if RuleId.areOrdered (m.counts.toList.map (·.1)) then
    .ok ((m.counts.toList.mergeSort listedBefore).map fun c => ⟨c.1, c.2⟩)
  else .error .mistyped

theorem count?_congr {id other : RuleId} (h : id.key = other.key) (m : MatchCounts) :
    m.count? id = m.count? other :=
  ById.find?_congr h m.counts

@[simp] theorem count?_increment_self (id : RuleId) (m : MatchCounts) :
    (m.increment id).count? id = some ((m.count? id).getD 0 + 1) := by
  simp [increment, count?]

@[simp] theorem count?_drop_self (id : RuleId) (m : MatchCounts) :
    (m.drop id).count? id = none := by
  simp [drop, count?]

@[simp] theorem count?_start_self (id : RuleId) (m : MatchCounts) :
    (m.start id).count? id = some ((m.count? id).getD 0) := by
  rw [start]
  split
  · next n h => rw [h, Option.getD_some]
  · next h =>
    rw [h, Option.getD_none]
    exact ById.find?_put_self id 0 m.counts

theorem count?_start (id other : RuleId) (m : MatchCounts) :
    (m.start id).count? other =
      if id.key = other.key then some ((m.count? other).getD 0) else m.count? other := by
  split
  · next hkey => rw [← count?_congr hkey, ← count?_congr hkey, count?_start_self]
  · next hkey =>
    rw [start]
    split
    · rfl
    · simp [count?, ById.find?_put_ne (Ne.symm hkey)]

theorem count?_increment (id other : RuleId) (m : MatchCounts) :
    (m.increment id).count? other =
      if id.key = other.key then some ((m.count? other).getD 0 + 1) else m.count? other := by
  split
  · next hkey => rw [← count?_congr hkey, ← count?_congr hkey, count?_increment_self]
  · next hkey => simp [increment, count?, ById.find?_put_ne (Ne.symm hkey)]

theorem count?_drop (id other : RuleId) (m : MatchCounts) :
    (m.drop id).count? other = if id.key = other.key then none else m.count? other := by
  split
  · next hkey => rw [← count?_congr hkey, count?_drop_self]
  · next hkey => simp [drop, count?, ById.find?_remove_ne (Ne.symm hkey)]

end MatchCounts

end Recommender
