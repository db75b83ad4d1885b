import Recommender.Proofs.Service.Matches

/-!
# Matches that are counted in the background

A call that records a match does not count it: it schedules an *update*, which takes its turns
beside the calls.  An update is *kept* from when it is scheduled until someone takes notice that it
has ended.

The running service does not tell updates apart: it keeps the matches that they are for, and works
these off in their order.  In what order updates take their turns makes no difference to the counts.
-/

namespace Recommender

/-- An update: the match that it counts up, what it still has to do, and what it has done. -/
structure Update where
  id : RuleId
  rest : Program Backend Unit := countMatch id
  history : List (Occurrence Backend) := []

/-- The state of a collaborator, with every update that was ever scheduled. -/
structure Backlog (σ : Type) where
  state : σ
  updates : List Update := []
  /-- The places of the updates that are kept. -/
  kept : List Nat := []

variable {σ : Type}

namespace Backlog

/-- Schedule an update. -/
def schedule (id : RuleId) (b : Backlog σ) : Backlog σ :=
  { b with updates := b.updates ++ [{ id }], kept := b.kept ++ [b.updates.length] }

/-- A collaborator that schedules an update for every match that is recorded. -/
def scheduling (c : Program.Collaborator Backend σ) : Program.Collaborator Backend (Backlog σ) where
  answer := fun r b => ((c.answer r b.state).1, { b with state := (c.answer r b.state).2 })
  notice := fun e b =>
    match e with
    | .matched id => schedule id { b with state := c.notice (.matched id) b.state }
    | e => { b with state := c.notice e b.state }

/-- Whether the update at a place has ended. -/
def hasEnded (place : Nat) (b : Backlog σ) : Bool :=
  b.updates[place]?.any (·.rest.ended)

end Backlog

/-! ## Updates -/

namespace Update

/-- An update has not begun, or has ended and has asked once for its match to be counted up. -/
def Fits (u : Update) : Prop :=
  (u.rest = countMatch u.id ∧ u.history = []) ∨
    (u.rest.ended = true ∧ incrementedIds u.history = [u.id])

theorem Fits.counted {u : Update} (h : u.Fits) (hended : u.rest.ended = true) :
    incrementedIds u.history = [u.id] := by
  obtain ⟨hrest, -⟩ | ⟨-, hcounted⟩ := h
  · rw [hrest] at hended
    cases hended
  · exact hcounted

/-- After one turn an update has ended. -/
theorem Fits.turn {u : Update} (h : u.Fits) (c : Program.Collaborator Backend σ) (s : σ) :
    (u.rest.turn c.recording ⟨s, u.history⟩).1.ended = true ∧
      incrementedIds (u.rest.turn c.recording ⟨s, u.history⟩).2.history = [u.id] := by
  obtain ⟨hrest, hhistory⟩ | ⟨hended, hcounted⟩ := h
  · rw [hrest, hhistory, countMatch_eq]
    exact ⟨rfl, rfl⟩
  · rw [Program.turn_of_ended _ hended]
    exact ⟨hended, hcounted⟩

end Update

namespace Backlog

/-- No update is lost, and what has ended has ended for good. -/
structure Later (b b' : Backlog σ) : Prop where
  ids : b.updates.map (·.id) <+: b'.updates.map (·.id)
  ended : ∀ j, b.hasEnded j = true → b'.hasEnded j = true

/-- Every update fits, only updates are kept, and those that are not kept have ended. -/
structure Sound (b : Backlog σ) : Prop where
  updates : ∀ u ∈ b.updates, u.Fits
  places : ∀ j ∈ b.kept, j < b.updates.length
  kept : ∀ j < b.updates.length, j ∉ b.kept → b.hasEnded j = true

variable {b b' b'' : Backlog σ}

theorem Later.refl (b : Backlog σ) : Later b b :=
  ⟨List.prefix_rfl, fun _ h => h⟩

theorem Later.trans (h : Later b b') (h' : Later b' b'') : Later b b'' :=
  ⟨h.ids.trans h'.ids, fun j hj => h'.ended j (h.ended j hj)⟩

theorem Later.length_le (h : Later b b') : b.updates.length ≤ b'.updates.length := by
  simpa using h.ids.length_le

theorem lt_length_of_hasEnded {j : Nat} (h : b.hasEnded j = true) : j < b.updates.length := by
  rw [hasEnded] at h
  cases hu : b.updates[j]? with
  | none =>
      rw [hu] at h
      cases h
  | some u => exact (List.getElem?_eq_some_iff.mp hu).1

theorem later_schedule (id : RuleId) (b : Backlog σ) : Later b (b.schedule id) where
  ids := by
    rw [schedule, List.map_append]
    exact List.prefix_append _ _
  ended := fun j hj => by
    rw [hasEnded, schedule, List.getElem?_append_left (lt_length_of_hasEnded hj)]
    exact hj

theorem Sound.schedule (h : b.Sound) (id : RuleId) : (b.schedule id).Sound where
  updates := fun u hu => by
    obtain hold | hnew := List.mem_append.mp hu
    · exact h.updates u hold
    · rw [List.mem_singleton.mp hnew]
      exact .inl ⟨rfl, rfl⟩
  places := fun j hj => by
    rw [Backlog.schedule, List.length_append]
    obtain hold | hnew := List.mem_append.mp hj
    · exact Nat.lt_add_right 1 (h.places j hold)
    · rw [List.mem_singleton.mp hnew]
      exact Nat.lt_succ_self _
  kept := fun j hj hnot => by
    simp only [Backlog.schedule, List.length_append, List.length_singleton, List.mem_append,
      List.mem_singleton, not_or] at hj hnot
    refine (later_schedule id b).ended j (h.kept j ?_ hnot.1)
    omega

theorem later_state (b : Backlog σ) (state : σ) : Later b { b with state } :=
  ⟨List.prefix_rfl, fun _ h => h⟩

theorem Sound.of_state (h : b.Sound) (state : σ) : Sound { b with state } :=
  ⟨h.updates, h.places, h.kept⟩

/-- An update that has taken its turn. -/
def worked (place : Nat) (u : Update) (state : σ) (b : Backlog σ) : Backlog σ :=
  { b with state, updates := b.updates.set place u }

section

variable {u : Update} {place : Nat} {rest : Program Backend Unit}
  {history : List (Occurrence Backend)}

theorem ids_worked (hu : b.updates[place]? = some u) (state : σ) :
    (b.worked place ⟨u.id, rest, history⟩ state).updates.map (·.id) =
      b.updates.map (·.id) := by
  obtain ⟨hplace, rfl⟩ := List.getElem?_eq_some_iff.mp hu
  have hself := congrArg (List.map (·.id)) (List.set_getElem_self hplace)
  rw [List.map_set] at hself
  rw [worked, List.map_set]
  exact hself

theorem later_worked (hu : b.updates[place]? = some u) (hended : rest.ended = true) (state : σ) :
    Later b (b.worked place ⟨u.id, rest, history⟩ state) where
  ids := ⟨[], by rw [List.append_nil, ids_worked hu]⟩
  ended := fun j hj => by
    rw [hasEnded, worked]
    by_cases h : j = place
    · rw [h, List.getElem?_set_self (List.getElem?_eq_some_iff.mp hu).1]
      exact hended
    · rw [List.getElem?_set_ne (Ne.symm h)]
      exact hj

theorem Sound.worked (h : b.Sound) (hu : b.updates[place]? = some u) (hended : rest.ended = true)
    (hcounted : incrementedIds history = [u.id]) (state : σ) :
    (b.worked place ⟨u.id, rest, history⟩ state).Sound where
  updates := fun v hv => by
    obtain hold | rfl := List.mem_or_eq_of_mem_set hv
    · exact h.updates v hold
    · exact .inr ⟨hended, hcounted⟩
  places := fun j hj => by
    rw [Backlog.worked, List.length_set]
    exact h.places j hj
  kept := fun j hj hnot => by
    rw [Backlog.worked, List.length_set] at hj
    exact (later_worked hu hended state).ended j (h.kept j hj hnot)

end

/-- What the turn of a call leaves: an update for every match that it recorded. -/
structure Follows (s t : Recorded Backend (Backlog σ)) : Prop where
  history : ∃ more, t.history = s.history ++ more ∧
    t.state.updates.map (·.id) = s.state.updates.map (·.id) ++ recordedMatches more
  later : Later s.state t.state
  sound : s.state.Sound → t.state.Sound

theorem Follows.refl (s : Recorded Backend (Backlog σ)) : Follows s s :=
  ⟨⟨[], (List.append_nil _).symm, (List.append_nil _).symm⟩, .refl _, id⟩

theorem Follows.trans {s t u : Recorded Backend (Backlog σ)} (h : Follows s t)
    (h' : Follows t u) : Follows s u := by
  obtain ⟨more, hhistory, hids⟩ := h.history
  obtain ⟨more', hhistory', hids'⟩ := h'.history
  refine ⟨⟨more ++ more', ?_, ?_⟩, h.later.trans h'.later, fun hs => h'.sound (h.sound hs)⟩
  · rw [hhistory', hhistory, List.append_assoc]
  · rw [hids', hids, recordedMatches_append, List.append_assoc]

section

variable (c : Program.Collaborator Backend σ)

theorem follows_answer (r : BackendRequest) (s : Recorded Backend (Backlog σ)) :
    Follows s ((scheduling c).recording.answer r s).2 :=
  ⟨⟨[.asked r ((scheduling c).answer r s.state).1], rfl, (List.append_nil _).symm⟩,
    later_state _ _, fun h => h.of_state _⟩

theorem follows_notice (e : BackendEvent) (s : Recorded Backend (Backlog σ)) :
    Follows s ((scheduling c).recording.notice e s) := by
  cases e with
  | matched id =>
      exact ⟨⟨[.recorded (.matched id)], rfl, List.map_append⟩,
        (later_state _ _).trans (later_schedule id _), fun h => (h.of_state _).schedule id⟩
  | evaluated v =>
      exact ⟨⟨[.recorded (.evaluated v)], rfl, (List.append_nil _).symm⟩, later_state _ _,
        fun h => h.of_state _⟩
  | served origin n =>
      exact ⟨⟨[.recorded (.served origin n)], rfl, (List.append_nil _).symm⟩, later_state _ _,
        fun h => h.of_state _⟩

/-- A call schedules updates for the matches that it records, and for nothing else. -/
theorem follows_settle {α : Type} (p : Program Backend α) (s : Recorded Backend (Backlog σ)) :
    Follows s (p.settle (scheduling c).recording s).2 :=
  Program.settle_related (I := Backend) _ .refl .trans (follows_notice c) p s

theorem follows_turn {α : Type} (p : Program Backend α) (s : Recorded Backend (Backlog σ)) :
    Follows s (p.turn (scheduling c).recording s).2 :=
  Program.turn_related (I := Backend) _ .refl .trans (follows_answer c) (follows_notice c) p s

end

end Backlog

/-! ## The running service -/

namespace ServiceState

/-- Updates take their turns one after the other, each with what is told to fail then. -/
def workOff (updates : List (RuleId × Faults)) (s : ServiceState) : ServiceState :=
  updates.foldl (fun s u => ((s.setFaults u.2).perform (countMatch u.1)).2) s

/-- Whether an update of an identifier succeeds. -/
def succeedsFor (id : RuleId) (u : RuleId × Faults) : Bool :=
  u.1.key = id.key ∧ u.2.find? .increment = none

/-- An update that succeeds adds one to the count of its identifier, and nothing else. -/
theorem count?_countMatch (u : RuleId × Faults) (s : ServiceState) (id : RuleId) :
    ((s.setFaults u.2).perform (countMatch u.1)).2.counts.count? id =
      if succeedsFor id u then some ((s.counts.count? id).getD 0 + 1) else s.counts.count? id := by
  rw [perform_countMatch, answer, unlessFaulty]
  have hfaults : (s.setFaults u.2).faults = u.2 := rfl
  rw [hfaults]
  cases hf : u.2.find? .increment with
  | some e => simp [succeedsFor, hf, setFaults, mapProvider]
  | none => simp [succeedsFor, hf, setFaults, mapProvider, MatchCounts.count?_increment]

/-- A count goes up by the number of its updates that succeed. -/
theorem count?_workOff (updates : List (RuleId × Faults)) (s : ServiceState) (id : RuleId) :
    (s.workOff updates).counts.count? id =
      if updates.countP (succeedsFor id) = 0 then s.counts.count? id
      else some ((s.counts.count? id).getD 0 + updates.countP (succeedsFor id)) := by
  induction updates generalizing s with
  | nil => rfl
  | cons u rest ih =>
      have hrest := ih ((s.setFaults u.2).perform (countMatch u.1)).2
      rw [count?_countMatch] at hrest
      rw [workOff, List.foldl_cons, ← workOff, hrest, List.countP_cons]
      cases succeedsFor id u with
      | false => simp
      | true =>
          by_cases hnone : rest.countP (succeedsFor id) = 0
          · simp [hnone]
          · simp [hnone, Nat.add_assoc, Nat.add_comm 1]

/-- The running service by itself keeps the matches for which updates are scheduled, in the same
order. -/
theorem run_scheduling {α : Type} (p : Program Backend α) (b : Backlog ServiceState) :
    (p.run (Backlog.scheduling collaborator) b).1 = (b.state.perform p).1 ∧
      (p.run (Backlog.scheduling collaborator) b).2.state = (b.state.perform p).2 ∧
      ∃ ids, (b.state.perform p).2.pending = b.state.pending ++ ids ∧
        (p.run (Backlog.scheduling collaborator) b).2.updates.map (·.id) =
          b.updates.map (·.id) ++ ids := by
  let Along : Backlog ServiceState → ServiceState → Prop := fun b' s' => b'.state = s' ∧
    ∃ ids, s'.pending = b.state.pending ++ ids ∧
      b'.updates.map (·.id) = b.updates.map (·.id) ++ ids
  have halong : Program.Simulates (I := Backend) (fun _ => True) (fun _ => True)
      (Backlog.scheduling collaborator) collaborator Along := by
    constructor
    · rintro r b' s' - ⟨rfl, ids, hpending, hupdates⟩
      have hkept : (b'.state.answer r).2.pending = b'.state.pending :=
        (follows_answer r ⟨b'.state, []⟩).pending
      exact ⟨rfl, rfl, ids, hkept.trans hpending, hupdates⟩
    · rintro e b' s' - ⟨rfl, ids, hpending, hupdates⟩
      cases e with
      | matched id =>
          refine ⟨rfl, ids ++ [id], ?_, ?_⟩
          · rw [← List.append_assoc, ← hpending]
            rfl
          · rw [← List.append_assoc, ← hupdates]
            exact List.map_append
      | evaluated v => exact ⟨rfl, ids, hpending, hupdates⟩
      | served origin n => exact ⟨rfl, ids, hpending, hupdates⟩
  have hbegin : Along b b.state := ⟨rfl, [], (List.append_nil _).symm, (List.append_nil _).symm⟩
  obtain ⟨hresult, hstate, hids⟩ := halong.run (Program.confined_anyhow p) hbegin
  exact ⟨hresult, hstate, hids⟩

/-- Updates do not change what is told to fail. -/
theorem faults_countMatch (id : RuleId) (s : ServiceState) :
    (s.perform (countMatch id)).2.faults = s.faults := by
  rw [perform_countMatch, answer, unlessFaulty]
  cases s.faults.find? .increment <;> rfl

/-- The service by itself works its matches off in the order in which they were recorded. -/
theorem drain_eq_workOff (s : ServiceState) :
    s.drain = workOff (s.pending.map fun id => (id, s.faults)) { s with pending := [] } := by
  have hfold : ∀ (ids : List RuleId) (t : ServiceState), t.faults = s.faults →
      ids.foldl (fun t id => (t.perform (countMatch id)).2) t =
        workOff (ids.map fun id => (id, s.faults)) t := by
    intro ids
    induction ids with
    | nil => exact fun _ _ => rfl
    | cons id rest ih =>
        intro t ht
        have hsame : t.setFaults s.faults = t := by
          rw [← ht]
          rfl
        have hrest := ih (t.perform (countMatch id)).2 ((faults_countMatch id t).trans ht)
        rw [List.foldl_cons, hrest, workOff, workOff, List.map_cons, List.foldl_cons, hsame]
  exact hfold s.pending _ rfl

end ServiceState

end Recommender
