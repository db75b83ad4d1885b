import Mathlib
import Recommender.Proofs.Service.Shift

/-!
# The metrics of the service

The running service tallies what its calls record: the verdicts of evaluations, and how many
recommendations of each origin are served.  These tallies are its metrics `rule_evaluations_total`
and `recommendations_served_total`.  The rest is its *surroundings*, which may change in any way
between two turns.

A meter reads a number off the service that goes up by what the recorded events gain, and by nothing
else.  So at any time of a run it reads what all events have gained that the calls have recorded,
and what these are follows from what the calls have evaluated and returned.
-/

namespace Recommender

/-- What surrounds a service: the provider with its memos and with what is told to fail, the rules,
and the match counts. -/
structure Surroundings where
  desk : Desk := {}
  rules : RuleStore := {}
  counts : MatchCounts := {}

/-- A service in other surroundings. -/
def ServiceState.within (s : ServiceState) (around : Surroundings) : ServiceState :=
  { s with desk := around.desk, rules := around.rules, counts := around.counts }

/-- The same event, where the collaborator has another kind of state. -/
def ShiftEvent.map {σ τ : Type} (f : σ → τ) : ShiftEvent σ → ShiftEvent τ
  | .call operation => .call operation
  | .advance i => .advance i
  | .work j => .work j
  | .release j => .release j
  | .wait => .wait
  | .wake k => .wake k
  | .change state => .change (f state)

namespace Thread

/-- What the call has evaluated. -/
def evaluations (t : Thread) : List (Rule × Evaluation) :=
  t.call.evaluations t.history

/-- The recommendations that the call has returned. -/
def returned? (t : Thread) : Option (List Recommendation) :=
  t.call.returned? t.rest

/-- The recommendations that the call has found, by their origin. -/
def recommendations (catalog : List RuleSet) (t : Thread) : Origin → List Recommendation :=
  t.call.recommendations catalog t.history

/-- Whether a rule matched. -/
def hasMatch (t : Thread) : Bool :=
  t.evaluations.any (·.2.matched)

end Thread

namespace Shift

/-- What an event does to the running service, where what changes are its surroundings. -/
def serveStep (catalog : List RuleSet) (s : Shift ServiceState) (e : ShiftEvent Surroundings) :
    Shift ServiceState :=
  s.step ServiceState.collaborator catalog (e.map s.backlog.state.within)

/-- What events do, one after the other, to a service that has recorded nothing yet. -/
def serve (catalog : List RuleSet) (start : Surroundings)
    (events : List (ShiftEvent Surroundings)) : Shift ServiceState :=
  events.foldl (serveStep catalog) { backlog := { state := ({} : ServiceState).within start } }

/-- What all calls have evaluated. -/
def evaluations (s : Shift ServiceState) : List (Rule × Evaluation) :=
  s.threads.flatMap (·.evaluations)

/-- The calls that have returned recommendations. -/
def returned (s : Shift ServiceState) : List Thread :=
  s.threads.filter (·.returned?.isSome)

/-- The matches that updates have asked to be counted up, also where this failed. -/
def attempts (s : Shift ServiceState) : List RuleId :=
  s.backlog.updates.flatMap fun u => incrementedIds u.history

/-- The evaluations that the metrics say have ended with a verdict. -/
def evaluationsTotal (v : Verdict) (s : Shift ServiceState) : Nat :=
  s.backlog.state.verdicts.amount 0 v

/-- The recommendations of an origin that the metrics say were served. -/
def servedTotal (o : Origin) (s : Shift ServiceState) : Nat :=
  s.backlog.state.served.amount 0 o

end Shift

/-! ## Meters -/

/-- A number read off a service, which goes up by what events gain, and by nothing else. -/
structure Meter where
  reading : ServiceState → Nat
  gain : BackendEvent → Nat
  start : ∀ around, reading (({} : ServiceState).within around) = 0
  within : ∀ s around, reading (s.within around) = reading s
  answer : ∀ (r : BackendRequest) s, reading (s.answer r).2 = reading s
  notice : ∀ (e : BackendEvent) s, reading (s.notice e) = reading s + gain e

namespace ServiceState

theorem tallies_unlessFaulty {α : Type} (op : Operation) {s : ServiceState}
    (act : ServiceState → α × ServiceState)
    (h : (act s).2.verdicts = s.verdicts ∧ (act s).2.served = s.served) :
    (s.unlessFaulty op act).2.verdicts = s.verdicts ∧
      (s.unlessFaulty op act).2.served = s.served := by
  rw [unlessFaulty]
  cases s.faults.find? op with
  | some e => exact ⟨rfl, rfl⟩
  | none => exact h

/-- Answers leave the tallies as they are. -/
theorem tallies_answer (r : BackendRequest) (s : ServiceState) :
    (s.answer r).2.verdicts = s.verdicts ∧ (s.answer r).2.served = s.served := by
  cases r with
  | lookup l => exact ⟨rfl, rfl⟩
  | resolve name => exact ⟨rfl, rfl⟩
  | listCounts => exact tallies_unlessFaulty .listCounts (fun s => (s.counts.toList, s)) ⟨rfl, rfl⟩
  | _ => exact tallies_unlessFaulty _ _ ⟨rfl, rfl⟩

end ServiceState

namespace Meter

/-- The meter of the evaluations that end with a verdict. -/
def ofVerdict (v : Verdict) : Meter where
  reading := fun s => s.verdicts.amount 0 v
  gain := fun e =>
    match e with
    | .evaluated w => if w = v then 1 else 0
    | _ => 0
  start := fun _ => rfl
  within := fun _ _ => rfl
  answer := fun r s => congrArg (Tally.amount 0 v) (ServiceState.tallies_answer r s).1
  notice := fun e s => by
    cases e with
    | evaluated w =>
        dsimp only [ServiceState.notice, Tally.count]
        split
        · next h => rw [h, Tally.amount_add_self]
        · next h => rw [Tally.amount_add_ne 0 (Ne.symm h), Nat.add_zero]
    | _ => rfl

/-- The meter of the recommendations of an origin that are served. -/
def ofOrigin (o : Origin) : Meter where
  reading := fun s => s.served.amount 0 o
  gain := fun e =>
    match e with
    | .served o' n => if o' = o then n else 0
    | _ => 0
  start := fun _ => rfl
  within := fun _ _ => rfl
  answer := fun r s => congrArg (Tally.amount 0 o) (ServiceState.tallies_answer r s).2
  notice := fun e s => by
    cases e with
    | served o' n =>
        dsimp only [ServiceState.notice]
        split
        · next h => rw [h, Tally.amount_add_self]
        · next h => rw [Tally.amount_add_ne 0 (Ne.symm h), Nat.add_zero]
    | _ => rfl

variable (m : Meter)

/-- What events gain together. -/
def total (events : List BackendEvent) : Nat :=
  (events.map m.gain).sum

theorem total_append (before after : List BackendEvent) :
    m.total (before ++ after) = m.total before + m.total after := by
  rw [total, List.map_append, List.sum_append, total, total]

theorem total_flatMap {α : Type} (l : List α) (f : α → List BackendEvent) :
    m.total (l.flatMap f) = (l.map fun a => m.total (f a)).sum := by
  induction l with
  | nil => rfl
  | cons a rest ih => rw [List.flatMap_cons, total_append, ih, List.map_cons, List.sum_cons]

theorem total_perm {l l' : List BackendEvent} (h : l.Perm l') : m.total l = m.total l' :=
  (h.map m.gain).sum_nat

/-- What the turn of a call leaves: the reading has gone up by what was recorded. -/
def Follows (s t : Recorded Backend (Backlog ServiceState)) : Prop :=
  ∃ more, t.history = s.history ++ more ∧
    m.reading t.state.state = m.reading s.state.state + m.total (recordedEvents more)

variable {m}

theorem Follows.refl (s : Recorded Backend (Backlog ServiceState)) : m.Follows s s :=
  ⟨[], (List.append_nil _).symm, rfl⟩

theorem Follows.trans {s t u : Recorded Backend (Backlog ServiceState)} (h : m.Follows s t)
    (h' : m.Follows t u) : m.Follows s u := by
  obtain ⟨more, hhistory, hreading⟩ := h
  obtain ⟨more', hhistory', hreading'⟩ := h'
  refine ⟨more ++ more', ?_, ?_⟩
  · rw [hhistory', hhistory, List.append_assoc]
  · rw [hreading', hreading, recordedEvents_append, total_append, Nat.add_assoc]

open Backlog (scheduling)

theorem follows_answer (r : BackendRequest) (s : Recorded Backend (Backlog ServiceState)) :
    m.Follows s ((scheduling ServiceState.collaborator).recording.answer r s).2 :=
  ⟨[.asked r ((scheduling ServiceState.collaborator).answer r s.state).1], rfl,
    m.answer r s.state.state⟩

theorem follows_notice (e : BackendEvent) (s : Recorded Backend (Backlog ServiceState)) :
    m.Follows s ((scheduling ServiceState.collaborator).recording.notice e s) := by
  have hnotice := m.notice e s.state.state
  refine ⟨[.recorded e], rfl, ?_⟩
  cases e <;> exact hnotice

/-- The reading goes up by what calls record. -/
def Exact (m : Meter) (s : Shift ServiceState) : Prop :=
  m.reading s.backlog.state = m.total (s.threads.flatMap fun t => recordedEvents t.history)

variable {catalog : List RuleSet} {s : Shift ServiceState}

theorem Exact.call (h : m.Exact s) (operation : ServiceCall) :
    m.Exact (s.call ServiceState.collaborator catalog operation) := by
  obtain ⟨more, hmore, hreading⟩ : m.Follows ⟨s.backlog, []⟩ _ :=
    Program.settle_related (I := Backend) (scheduling ServiceState.collaborator).recording .refl
      .trans follows_notice (operation.program catalog) ⟨s.backlog, []⟩
  rw [Shift.call]
  rcases hrun : (operation.program catalog).settle
    (scheduling ServiceState.collaborator).recording ⟨s.backlog, []⟩ with ⟨rest, record⟩
  rw [hrun, List.nil_append] at hmore
  rw [hrun] at hreading
  rw [Exact, List.flatMap_append, List.flatMap_singleton, total_append, ← h, hmore]
  exact hreading

theorem Exact.advance (h : m.Exact s) (i : Nat) :
    m.Exact (s.advance ServiceState.collaborator i) := by
  rw [Shift.advance]
  cases hi : s.threads[i]? with
  | none => exact h
  | some t =>
      obtain ⟨more, hmore, hreading⟩ : m.Follows ⟨s.backlog, t.history⟩ _ :=
        Program.turn_related (I := Backend) (scheduling ServiceState.collaborator).recording .refl
          .trans follows_answer follows_notice t.rest ⟨s.backlog, t.history⟩
      dsimp only
      rcases hrun : t.rest.turn (scheduling ServiceState.collaborator).recording
        ⟨s.backlog, t.history⟩ with ⟨rest, record⟩
      rw [hrun] at hmore hreading
      have hrecorded : recordedEvents record.history =
          recordedEvents t.history ++ recordedEvents more := by
        rw [hmore, recordedEvents_append]
      have hperm : ((s.threads.set i ⟨t.call, rest, record.history⟩).flatMap
          fun t => recordedEvents t.history).Perm
            ((s.threads.flatMap fun t => recordedEvents t.history) ++ recordedEvents more) :=
        Shift.perm_flatMap_set hi _ hrecorded
      rw [Exact, m.total_perm hperm, total_append, ← h]
      exact hreading

/-- Updates record nothing. -/
theorem Exact.work (h : m.Exact s) (hs : s.backlog.Sound) (j : Nat) :
    m.Exact (s.work ServiceState.collaborator j) := by
  rw [Shift.work]
  cases hj : s.backlog.updates[j]? with
  | none => exact h
  | some u =>
      have hreading : m.reading
          (u.rest.turn ServiceState.collaborator.recording ⟨s.backlog.state, u.history⟩).2.state =
            m.reading s.backlog.state := by
        obtain ⟨hrest, -⟩ | ⟨hended, -⟩ := hs.updates u (List.mem_of_getElem? hj)
        · rw [hrest, countMatch_eq]
          exact m.answer (.increment u.id) s.backlog.state
        · rw [Program.turn_of_ended _ hended]
      exact hreading.trans h

/-- Every event of a run keeps the readings exact. -/
theorem Exact.step (h : m.Exact s) (hs : s.backlog.Sound) (e : ShiftEvent Surroundings) :
    m.Exact (s.serveStep catalog e) := by
  cases e with
  | call operation => exact h.call operation
  | advance i => exact h.advance i
  | work j => exact h.work hs j
  | release j =>
      rw [Shift.serveStep, ShiftEvent.map, Shift.step, Shift.release]
      split <;> exact h
  | wait => exact h
  | wake k =>
      rw [Shift.serveStep, ShiftEvent.map, Shift.step, Shift.wake]
      split
      · exact h
      · split <;> exact h
  | change around => exact (m.within s.backlog.state around).trans h

/-! ## What calls gain -/

/-- Where matches gain nothing, an evaluation gains what its verdict gains. -/
theorem total_evaluationEvents (hmatched : ∀ id, m.gain (.matched id) = 0)
    (p : Rule × Evaluation) : m.total (evaluationEvents p) = m.gain (.evaluated p.2.verdict) := by
  rw [evaluationEvents]
  cases p.2.matched with
  | false => rfl
  | true =>
      cases p.1.countedAs? with
      | none => rfl
      | some id => exact congrArg (m.gain (.evaluated p.2.verdict) + ·) (hmatched id)

theorem total_ofVerdict_evaluationEvents (v : Verdict) (results : List (Rule × Evaluation)) :
    (ofVerdict v).total (results.flatMap evaluationEvents) =
      results.countP (·.2.verdict = v) := by
  induction results with
  | nil => rfl
  | cons p rest ih =>
      rw [List.flatMap_cons, total_append, ih, total_evaluationEvents fun _ => rfl,
        List.countP_cons, Nat.add_comm]
      simp only [ofVerdict, decide_eq_true_eq]

theorem total_ofOrigin_evaluationEvents (o : Origin) (results : List (Rule × Evaluation)) :
    (ofOrigin o).total (results.flatMap evaluationEvents) = 0 := by
  induction results with
  | nil => rfl
  | cons p rest ih =>
      rw [List.flatMap_cons, total_append, ih, total_evaluationEvents fun _ => rfl]
      rfl

theorem total_ofOrigin_servedEvents (o : Origin)
    (recommendations : Origin → List Recommendation) :
    (ofOrigin o).total (servedEvents recommendations) = (recommendations o).length := by
  cases o <;> simp [total, servedEvents, ofOrigin]

end Meter

/-! ## Runs -/

/-- A sum over what passes a test is a sum in which the rest counts as nothing. -/
theorem sum_map_filter {α : Type} (p : α → Bool) (f : α → Nat) (l : List α) :
    ((l.filter p).map f).sum = (l.map fun a => if p a then f a else 0).sum := by
  induction l with
  | nil => rfl
  | cons a rest ih =>
      rw [List.map_cons, List.sum_cons, ← ih]
      cases hp : p a with
      | true => rw [List.filter_cons_of_pos hp, List.map_cons, List.sum_cons, if_pos rfl]
      | false =>
          rw [List.filter_cons_of_neg (by simp [hp]), if_neg Bool.false_ne_true, Nat.zero_add]

theorem matchedIds_flatMap {α : Type} (l : List α) (f : α → List (Rule × Evaluation)) :
    matchedIds (l.flatMap f) = l.flatMap fun a => matchedIds (f a) :=
  List.filterMap_flatMap

theorem length_matchedRecommendations (results : List (Rule × Evaluation)) :
    (matchedRecommendations results).length = results.countP (·.2.matched) := by
  rw [matchedRecommendations, List.length_map, List.countP_eq_length_filter]

/-- Matches are found of rules that have an identifier and of rules that have none. -/
theorem countP_matched (results : List (Rule × Evaluation)) :
    results.countP (·.2.matched) = (matchedIds results).length +
      results.countP fun p => p.2.matched && p.1.countedAs?.isNone := by
  induction results with
  | nil => rfl
  | cons p rest ih =>
      have hids : (matchedIds (p :: rest)).length =
          (if p.2.matched && p.1.countedAs?.isSome then 1 else 0) + (matchedIds rest).length := by
        rw [matchedIds, List.filterMap_cons, Nat.add_comm]
        cases p.2.matched with
        | false => rfl
        | true => cases p.1.countedAs? <;> rfl
      rw [List.countP_cons, List.countP_cons, ih, hids]
      cases p.2.matched <;> cases p.1.countedAs? <;> simp <;> omega

namespace Shift

variable {catalog : List RuleSet} {s : Shift ServiceState}

/-- The calls that have returned no recommendations. -/
def unreturned (s : Shift ServiceState) : List Thread :=
  s.threads.filter (!·.returned?.isSome)

theorem InOrder.accounted (h : s.InOrder ServiceState.collaborator catalog) {t : Thread}
    (ht : t ∈ s.threads) : t.call.Accounted catalog t.history t.rest :=
  accounted_of_leads (h.threads t ht).1 (h.threads t ht).2

/-- What a metered service is: in order, and with exact metrics. -/
structure Metered (catalog : List RuleSet) (s : Shift ServiceState) : Prop where
  inOrder : s.InOrder ServiceState.collaborator catalog
  exact : ∀ m : Meter, m.Exact s

theorem Metered.events (h : s.Metered catalog) (events : List (ShiftEvent Surroundings)) :
    (events.foldl (serveStep catalog) s).Metered catalog := by
  induction events generalizing s with
  | nil => exact h
  | cons e rest ih =>
      exact ih ⟨(h.inOrder.step _).1, fun m => (h.exact m).step h.inOrder.backlog e⟩

theorem metered_serve (catalog : List RuleSet) (start : Surroundings)
    (events : List (ShiftEvent Surroundings)) : (serve catalog start events).Metered catalog := by
  have hstart : (run ServiceState.collaborator catalog (({} : ServiceState).within start)
      []).Metered catalog := ⟨inOrder_run _ catalog _ [], fun m => m.start start⟩
  exact hstart.events events

theorem Metered.evaluationsTotal_eq (h : s.Metered catalog) (v : Verdict) :
    s.evaluationsTotal v = s.evaluations.countP (·.2.verdict = v) := by
  have hthread : ∀ t ∈ s.threads, (Meter.ofVerdict v).total (recordedEvents t.history) =
      t.evaluations.countP (·.2.verdict = v) := by
    intro t ht
    rw [(h.inOrder.accounted ht).recorded, Meter.total_append,
      Meter.total_ofVerdict_evaluationEvents]
    cases t.call.returned? t.rest <;> rfl
  have hreading : s.evaluationsTotal v =
      (Meter.ofVerdict v).total (s.threads.flatMap fun t => recordedEvents t.history) :=
    h.exact (.ofVerdict v)
  rw [hreading, Meter.total_flatMap, List.map_congr_left hthread, evaluations,
    List.countP_flatMap]
  rfl

theorem Metered.servedTotal_eq (h : s.Metered catalog) (o : Origin) :
    s.servedTotal o = (s.returned.flatMap (·.recommendations catalog o)).length := by
  have hthread : ∀ t ∈ s.threads, (Meter.ofOrigin o).total (recordedEvents t.history) =
      if t.returned?.isSome then (t.recommendations catalog o).length else 0 := by
    intro t ht
    rw [(h.inOrder.accounted ht).recorded, Meter.total_append,
      Meter.total_ofOrigin_evaluationEvents, Nat.zero_add, Thread.returned?]
    cases t.call.returned? t.rest with
    | none => rfl
    | some recommendations => exact Meter.total_ofOrigin_servedEvents o _
  have hreading : s.servedTotal o =
      (Meter.ofOrigin o).total (s.threads.flatMap fun t => recordedEvents t.history) :=
    h.exact (.ofOrigin o)
  rw [hreading, Meter.total_flatMap, List.map_congr_left hthread, List.length_flatMap, returned,
    sum_map_filter]

/-- What was found by rules is served by the calls that return, and by no others. -/
theorem Metered.matched_eq (h : s.Metered catalog) : s.evaluationsTotal .matched =
    s.servedTotal .dynamic + (s.unreturned.flatMap (·.evaluations)).countP (·.2.matched) := by
  have hserved : s.servedTotal .dynamic =
      (s.returned.flatMap (·.evaluations)).countP (·.2.matched) := by
    rw [h.servedTotal_eq, List.length_flatMap, List.countP_flatMap]
    exact congrArg List.sum (List.map_congr_left fun t _ => length_matchedRecommendations _)
  have hperm : (s.returned ++ s.unreturned).Perm s.threads := List.filter_append_perm _ s.threads
  have hcount := (hperm.flatMap_right (·.evaluations)).countP_eq (·.2.matched)
  rw [List.flatMap_append, List.countP_append] at hcount
  rw [hserved, hcount, h.evaluationsTotal_eq]
  rfl

theorem Metered.served_eq_matched_iff (h : s.Metered catalog) :
    s.servedTotal .dynamic = s.evaluationsTotal .matched ↔
      ∀ t ∈ s.threads, t.hasMatch = true → t.returned?.isSome = true := by
  have hnone : s.servedTotal .dynamic = s.evaluationsTotal .matched ↔
      (s.unreturned.flatMap (·.evaluations)).countP (·.2.matched) = 0 := by
    rw [h.matched_eq]
    omega
  rw [hnone, List.countP_eq_zero]
  constructor
  · intro hunmatched t ht hmatch
    obtain ⟨p, hp, hmatched⟩ := List.any_eq_true.mp hmatch
    by_contra hreturned
    have hmem : t ∈ s.unreturned := List.mem_filter.mpr ⟨ht, by simpa using hreturned⟩
    exact hunmatched p (List.mem_flatMap.mpr ⟨t, hmem, hp⟩) hmatched
  · intro hreturned p hp hmatched
    obtain ⟨t, ht, hmem⟩ := List.mem_flatMap.mp hp
    obtain ⟨ht, hunreturned⟩ := List.mem_filter.mp ht
    have hmatch : t.hasMatch = true := List.any_eq_true.mpr ⟨p, hmem, hmatched⟩
    rw [hreturned t ht hmatch] at hunreturned
    cases hunreturned

theorem Metered.attempts_perm (h : s.Metered catalog)
    (hended : ∀ u ∈ s.backlog.updates, u.rest.ended = true) :
    s.attempts.Perm (matchedIds s.evaluations) := by
  rw [attempts, counted_updates h.inOrder.backlog.updates hended, evaluations, matchedIds_flatMap]
  exact h.inOrder.ids_perm

/-- The turns of updates leave the calls as they are, and schedule no updates. -/
theorem frame_works (catalog : List RuleSet) (places : List Nat) (s : Shift ServiceState) :
    ((places.map .work).foldl (serveStep catalog) s).threads = s.threads ∧
      ((places.map .work).foldl (serveStep catalog) s).backlog.updates.length =
        s.backlog.updates.length := by
  induction places generalizing s with
  | nil => exact ⟨rfl, rfl⟩
  | cons j rest ih =>
      have hframe : (s.work ServiceState.collaborator j).threads = s.threads ∧
          (s.work ServiceState.collaborator j).backlog.updates.length =
            s.backlog.updates.length := by
        rw [Shift.work]
        cases s.backlog.updates[j]? with
        | none => exact ⟨rfl, rfl⟩
        | some u => exact ⟨rfl, List.length_set⟩
      obtain ⟨hthreads, hlength⟩ := ih (s.work ServiceState.collaborator j)
      exact ⟨hthreads.trans hframe.1, hlength.trans hframe.2⟩

/-- The updates that are left can be worked off. -/
theorem Metered.exists_drained (h : s.Metered catalog) :
    ∃ more : List (ShiftEvent Surroundings),
      (∀ u ∈ (more.foldl (serveStep catalog) s).backlog.updates, u.rest.ended = true) ∧
        (more.foldl (serveStep catalog) s).threads = s.threads := by
  let places := List.range s.backlog.updates.length
  obtain ⟨hthreads, hlength⟩ := frame_works catalog places s
  refine ⟨places.map .work, fun u hu => ?_, hthreads⟩
  have hsame : (places.map .work).foldl (serveStep catalog) s =
      (places.map .work).foldl (Shift.step ServiceState.collaborator catalog) s := by
    rw [List.foldl_map, List.foldl_map]
    rfl
  obtain ⟨j, hj, rfl⟩ := List.mem_iff_getElem.mp hu
  have hplace : j ∈ places := List.mem_range.mpr (hlength ▸ hj)
  have hended := h.inOrder.hasEnded_works (fun i hi => List.mem_range.mp hi) j hplace
  rw [← hsame, Backlog.hasEnded, List.getElem?_eq_getElem hj] at hended
  exact hended

end Shift

/-- A call with a match that has ended has returned, unless it has failed. -/
theorem Thread.isSome_returned?_iff {t : Thread} (hended : t.rest.ended = true)
    (hmatch : t.hasMatch = true) :
    t.returned?.isSome = true ↔ ∀ why, t.rest ≠ .raise why := by
  obtain ⟨call, rest, history⟩ := t
  cases rest with
  | done result =>
      refine ⟨fun _ => nofun, fun _ => ?_⟩
      cases call with
      | recommend user => rfl
      | recommendByName name => rfl
      | _ => cases hmatch
  | raise why => exact ⟨nofun, fun h => absurd rfl (h why)⟩
  | _ => cases hended

namespace Shift

/-- **The metrics are conserved.**  Take any run of calls among each other against the running
service, in surroundings that change in any way: what the rules are, what figures are looked up, and
what is told to fail.

* As many evaluations as the metrics say have ended with a verdict.  An evaluation that failed is
  not among them.
* A call that has returned has returned what its rules recommended, followed by what its rule sets
  recommended, and as many recommendations of an origin as the metrics say were served by the calls
  that returned.
* Once all updates have ended, they have asked once for each match of a rule with an identifier to
  be counted up.  So the metrics say that so many evaluations matched, if all rules that were
  evaluated have identifiers.
* No more dynamic recommendations were served than evaluations matched; and equally many exactly if
  every call with a match has returned, that is, if no call with a match has failed, where all calls
  have ended.
* Every run goes on to where all updates have ended, without anything happening to the calls. -/
theorem metrics_are_conserved (catalog : List RuleSet) (start : Surroundings)
    (events : List (ShiftEvent Surroundings)) :
    let s := serve catalog start events
    (∀ v, s.evaluationsTotal v = s.evaluations.countP (·.2.verdict = v)) ∧
    (∀ t ∈ s.returned, t.returned? =
      some (t.recommendations catalog .dynamic ++ t.recommendations catalog .static)) ∧
    (∀ o, s.servedTotal o = (s.returned.flatMap (·.recommendations catalog o)).length) ∧
    ((∀ u ∈ s.backlog.updates, u.rest.ended = true) →
      s.attempts.Perm (matchedIds s.evaluations) ∧
      s.evaluationsTotal .matched = s.attempts.length +
        s.evaluations.countP (fun p => p.2.matched && p.1.countedAs?.isNone) ∧
      ((∀ p ∈ s.evaluations, p.1.countedAs?.isSome = true) →
        s.evaluationsTotal .matched = s.attempts.length)) ∧
    s.servedTotal .dynamic ≤ s.evaluationsTotal .matched ∧
    (s.servedTotal .dynamic = s.evaluationsTotal .matched ↔
      ∀ t ∈ s.threads, t.hasMatch = true → t.returned?.isSome = true) ∧
    ((∀ t ∈ s.threads, t.rest.ended = true) →
      (s.servedTotal .dynamic = s.evaluationsTotal .matched ↔
        ∀ t ∈ s.threads, t.hasMatch = true → ∀ why, t.rest ≠ .raise why)) ∧
    ∃ more, (∀ u ∈ (serve catalog start (events ++ more)).backlog.updates, u.rest.ended = true) ∧
      (serve catalog start (events ++ more)).threads = s.threads := by
  intro s
  have h : s.Metered catalog := metered_serve catalog start events
  refine ⟨h.evaluationsTotal_eq, ?_, h.servedTotal_eq, ?_, ?_, h.served_eq_matched_iff, ?_, ?_⟩
  · intro t ht
    obtain ⟨hmem, hreturned⟩ := List.mem_filter.mp ht
    obtain ⟨recommendations, hsome⟩ := Option.isSome_iff_exists.mp hreturned
    rw [hsome, (h.inOrder.accounted hmem).returned recommendations hsome]
    rfl
  · intro hended
    have hattempts := h.attempts_perm hended
    have hmatched : s.evaluationsTotal .matched = s.attempts.length +
        s.evaluations.countP (fun p => p.2.matched && p.1.countedAs?.isNone) := by
      rw [h.evaluationsTotal_eq, hattempts.length_eq]
      exact countP_matched s.evaluations
    refine ⟨hattempts, hmatched, fun hidentified => ?_⟩
    rw [hmatched, List.countP_eq_zero.mpr, Nat.add_zero]
    intro p hp
    simp [Option.isSome_iff_ne_none.mp (hidentified p hp)]
  · rw [h.matched_eq]
    exact Nat.le_add_right _ _
  · intro hended
    rw [h.served_eq_matched_iff]
    refine forall₂_congr fun t ht => forall_congr' fun hmatch => ?_
    exact Thread.isSome_returned?_iff (hended t ht) hmatch
  · obtain ⟨more, hended, hthreads⟩ := h.exists_drained
    refine ⟨more, ?_⟩
    rw [serve, List.foldl_append]
    exact ⟨hended, hthreads⟩

/-- Surroundings with a rule that matches, and with a rule that needs figures. -/
def twoRules (desk : Desk) : Surroundings where
  desk := desk
  rules := unanswered.rules

/-- A request fails after a match.  Then lookups are answered again, another request returns, and
the matches of both are counted up. -/
def failedAndReturned : List (ShiftEvent Surroundings) :=
  .call (.recommend default) :: List.replicate 3 (.advance 0) ++
  .change (twoRules {}) :: .call (.recommend default) :: List.replicate 4 (.advance 1) ++
  [.work 0, .work 1]

theorem metrics_are_conserved_failedAndReturned :
    let s := serve [⟨⟨.null, .null, .null⟩, []⟩] (twoRules unanswered.desk) failedAndReturned
    s.attempts.length = 2 ∧ s.evaluationsTotal .matched = s.attempts.length ∧
      s.servedTotal .dynamic = 1 ∧ s.servedTotal .static = 1 ∧
      ¬ ∀ t ∈ s.threads, t.hasMatch = true → ∀ why, t.rest ≠ .raise why := by
  intro s
  have hupdates : ∀ u ∈ s.backlog.updates, u.rest.ended = true := by decide +kernel
  have hthreads : ∀ t ∈ s.threads, t.rest.ended = true := by decide +kernel
  have hidentified : ∀ p ∈ s.evaluations, p.1.countedAs?.isSome = true := by decide +kernel
  have hattempts : s.attempts.length = 2 := by decide +kernel
  have hdynamic : s.servedTotal .dynamic = 1 := by decide +kernel
  have hstatic : s.servedTotal .static = 1 := by decide +kernel
  obtain ⟨-, -, -, hdrained, -, -, hfailed, -⟩ := metrics_are_conserved
    [⟨⟨.null, .null, .null⟩, []⟩] (twoRules unanswered.desk) failedAndReturned
  have hmatched : s.evaluationsTotal .matched = s.attempts.length :=
    (hdrained hupdates).2.2 hidentified
  refine ⟨hattempts, hmatched, hdynamic, hstatic, fun hnone => ?_⟩
  have hequal : s.servedTotal .dynamic = s.evaluationsTotal .matched :=
    (hfailed hthreads).mpr hnone
  rw [hdynamic, hmatched, hattempts] at hequal
  cases hequal

end Shift

end Recommender
