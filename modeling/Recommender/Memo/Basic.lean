import Recommender.Failure

/-!
# Memos with shared loads

A memo remembers the value of a key from the first load of it that succeeds until the memo is
cleared.  While a load of a key is in flight, further requests for the key join it instead of
beginning another one.  Loads are numbered in the order in which they begin, and every load belongs
to the *generation* it was begun in: clearing starts a new generation, and a load of an earlier one
is not remembered when it settles.
-/

namespace Recommender

/-- How a load ended. -/
inductive Outcome (V : Type) where
  | value (v : V)
  | failed (e : Failure)
  | cancelled
  deriving Repr, Inhabited

/-- The value of a load that succeeded. -/
def Outcome.value? {V : Type} : Outcome V → Option V
  | .value v => some v
  | _ => none

@[simp] theorem Outcome.value?_eq_some {V : Type} {o : Outcome V} {v : V} :
    o.value? = some v ↔ o = .value v := by
  cases o <;> simp [value?]

/-- How many requests were answered from memory, began a load, and joined one.  The counts are exact,
as tallies are: the counters that they stand for agree with them below 2^53. -/
structure RequestCounts where
  hit : Nat := 0
  miss : Nat := 0
  coalesced : Nat := 0
  deriving DecidableEq, Repr, Inhabited

/-- The counts that are not zero, by the name of the result that they count. -/
def RequestCounts.nonzero (c : RequestCounts) : List (String × Nat) :=
  [("coalesced", c.coalesced), ("hit", c.hit), ("miss", c.miss)].filter fun r => r.2 ≠ 0

/-- A load that is in flight or has settled: its key and its generation. -/
structure LoadTicket where
  number : Nat
  key : String
  generation : Nat
  deriving DecidableEq, Repr, Inhabited

/-- A memo of values by key. -/
structure Memo (V : Type) where
  /-- The remembered values, in the order in which they were first remembered. -/
  entries : List (String × V) := []
  /-- The numbers of the loads that requests join, by key. -/
  inFlight : List (String × Nat) := []
  generation : Nat := 0
  /-- How many loads have begun. -/
  begun : Nat := 0
  hits : Nat := 0
  misses : Nat := 0
  counts : RequestCounts := {}
  deriving Repr, Inhabited

/-- What a request for a key met. -/
inductive Lookout (V : Type) where
  /-- The value is remembered. -/
  | remembered (v : V)
  /-- A load of the key is in flight. -/
  | joined (number : Nat)
  /-- A load has to begin. -/
  | began (ticket : LoadTicket)
  deriving Repr

namespace Memo

variable {V : Type}

/-- Request a key. -/
def request (m : Memo V) (key : String) : Lookout V × Memo V :=
  match Assoc.find? key m.entries with
  | some v =>
    (.remembered v, { m with
      hits := m.hits + 1
      counts := { m.counts with hit := m.counts.hit + 1 } })
  | none =>
    match Assoc.find? key m.inFlight with
    | some number =>
      (.joined number, { m with
        misses := m.misses + 1
        counts := { m.counts with coalesced := m.counts.coalesced + 1 } })
    | none =>
      (.began ⟨m.begun, key, m.generation⟩, { m with
        inFlight := m.inFlight ++ [(key, m.begun)]
        begun := m.begun + 1
        misses := m.misses + 1
        counts := { m.counts with miss := m.counts.miss + 1 } })

/-- Take notice that a load has settled.  It leaves the loads in flight if requests still join it,
and its value is remembered if it succeeded in the generation that it was begun in. -/
def settle (m : Memo V) (t : LoadTicket) (o : Outcome V) : Memo V :=
  let m := if Assoc.find? t.key m.inFlight = some t.number then
      { m with inFlight := Assoc.remove t.key m.inFlight }
    else m
  match o with
  | .value v =>
    if t.generation = m.generation then { m with entries := Assoc.put t.key v m.entries } else m
  | _ => m

/-- Forget every value and every load in flight, and start a new generation.  The result is the
number of values forgotten. -/
def clear (m : Memo V) : Nat × Memo V :=
  (m.entries.length, { m with entries := [], inFlight := [], generation := m.generation + 1 })

/-- Fetch the value of a key where no load is in flight, loading it if it is not remembered. -/
def fetch {σ : Type} (key : String) (load : σ → Except Failure V × σ) (m : Memo V) (s : σ) :
    Except Failure V × Memo V × σ :=
  match m.request key with
  | (.remembered v, m) => (.ok v, m, s)
  | (.joined _, m) => (.error .undefined, m, s)
  | (.began t, m) =>
    match load s with
    | (.ok v, s) => (.ok v, m.settle t (.value v), s)
    | (.error e, s) => (.error e, m.settle t (.failed e), s)

/-- A key is neither remembered nor being loaded. -/
def Lacks (m : Memo V) (key : String) : Prop :=
  Assoc.find? key m.entries = none ∧ Assoc.find? key m.inFlight = none

/-- How many values are remembered, and how many requests found theirs or did not. -/
def report (m : Memo V) : Json :=
  .obj [("entries", .int m.entries.length), ("hits", .int m.hits), ("misses", .int m.misses)]

/-! ## What a request does -/

theorem request_of_remembered {m : Memo V} {key : String} {v : V}
    (h : Assoc.find? key m.entries = some v) :
    m.request key = (.remembered v, { m with
      hits := m.hits + 1
      counts := { m.counts with hit := m.counts.hit + 1 } }) := by
  simp only [request, h]

theorem request_of_inFlight {m : Memo V} {key : String} {n : Nat}
    (h : Assoc.find? key m.entries = none) (hf : Assoc.find? key m.inFlight = some n) :
    m.request key = (.joined n, { m with
      misses := m.misses + 1
      counts := { m.counts with coalesced := m.counts.coalesced + 1 } }) := by
  simp only [request, h, hf]

theorem request_of_lacks {m : Memo V} {key : String} (h : m.Lacks key) :
    m.request key = (.began ⟨m.begun, key, m.generation⟩, { m with
      inFlight := m.inFlight ++ [(key, m.begun)]
      begun := m.begun + 1
      misses := m.misses + 1
      counts := { m.counts with miss := m.counts.miss + 1 } }) := by
  simp only [request, h.1, h.2]

/-- A key is remembered, or being loaded, or neither. -/
theorem lookout_cases (m : Memo V) (key : String) :
    (∃ v, Assoc.find? key m.entries = some v) ∨
    (∃ n, Assoc.find? key m.entries = none ∧ Assoc.find? key m.inFlight = some n) ∨
    m.Lacks key := by
  cases he : Assoc.find? key m.entries with
  | some v => exact .inl ⟨v, rfl⟩
  | none =>
    cases hf : Assoc.find? key m.inFlight with
    | some n => exact .inr (.inl ⟨n, rfl, rfl⟩)
    | none => exact .inr (.inr ⟨he, hf⟩)

/-! ## What settling does -/

@[simp] theorem begun_settle (m : Memo V) (t : LoadTicket) (o : Outcome V) :
    (m.settle t o).begun = m.begun := by
  cases o <;> grind [settle]

@[simp] theorem generation_settle (m : Memo V) (t : LoadTicket) (o : Outcome V) :
    (m.settle t o).generation = m.generation := by
  cases o <;> grind [settle]

theorem inFlight_settle (m : Memo V) (t : LoadTicket) (o : Outcome V) :
    (m.settle t o).inFlight =
      if Assoc.find? t.key m.inFlight = some t.number then Assoc.remove t.key m.inFlight
      else m.inFlight := by
  cases o <;> grind [settle]

theorem entries_settle (m : Memo V) (t : LoadTicket) (o : Outcome V) :
    (m.settle t o).entries =
      if t.generation = m.generation then
        o.value?.elim m.entries fun v => Assoc.put t.key v m.entries
      else m.entries := by
  cases o <;> grind [settle, Outcome.value?]

theorem nodup_entries_settle {m : Memo V} {t : LoadTicket} {o : Outcome V}
    (h : (Assoc.keys m.entries).Nodup) : (Assoc.keys (m.settle t o).entries).Nodup := by
  rw [entries_settle]
  split
  · cases o.value? with
    | none => exact h
    | some v => exact Assoc.nodup_keys_put h
  · exact h

theorem nodup_inFlight_settle {m : Memo V} {t : LoadTicket} {o : Outcome V}
    (h : (Assoc.keys m.inFlight).Nodup) : (Assoc.keys (m.settle t o).inFlight).Nodup := by
  rw [inFlight_settle]
  split
  · exact Assoc.nodup_keys_remove h
  · exact h

/-! ## What fetching does -/

variable {σ : Type}

/-- A remembered value is fetched without a load. -/
theorem fetch_of_remembered {m : Memo V} {key : String} {v : V}
    (h : Assoc.find? key m.entries = some v) (load : σ → Except Failure V × σ) (s : σ) :
    ∃ m' : Memo V, m.fetch key load s = (.ok v, m', s) ∧
      m'.entries = m.entries ∧ m'.inFlight = m.inFlight := by
  rw [fetch, request_of_remembered h]
  exact ⟨_, rfl, rfl, rfl⟩

/-- A key that the memo lacks is fetched by a load, and a value is put under it if the load has
one. -/
theorem fetch_of_lacks {m : Memo V} {key : String} (h : m.Lacks key)
    (load : σ → Except Failure V × σ) (s : σ) :
    ∃ m' : Memo V, m.fetch key load s = ((load s).1, m', (load s).2) ∧
      m'.entries = (load s).1.toOption.elim m.entries (fun v => Assoc.put key v m.entries) ∧
      m'.inFlight = Assoc.remove key m.inFlight := by
  have hjoined : Assoc.find? key (m.inFlight ++ [(key, m.begun)]) = some m.begun := by
    rw [Assoc.find?_append, h.2]
    simp [Assoc.find?]
  have hremoved : Assoc.remove key (m.inFlight ++ [(key, m.begun)]) =
      Assoc.remove key m.inFlight := by
    simp [Assoc.remove]
  rw [fetch, request_of_lacks h]
  rcases load s with ⟨result, s'⟩
  cases result with
  | error e =>
      refine ⟨_, rfl, ?_, ?_⟩
      · rw [entries_settle]
        exact if_pos rfl
      · rw [inFlight_settle, if_pos hjoined, hremoved]
  | ok v =>
      refine ⟨_, rfl, ?_, ?_⟩
      · rw [entries_settle]
        exact if_pos rfl
      · rw [inFlight_settle, if_pos hjoined, hremoved]

end Memo

end Recommender
