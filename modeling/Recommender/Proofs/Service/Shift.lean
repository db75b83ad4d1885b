import Mathlib.Data.List.Basic
import Recommender.Proofs.Service.Backlog
import Recommender.Proofs.Service.Records

/-!
# Waiting for the background

Calls and updates take their turns among each other.  Whoever waits for the background waits for the
updates that are kept when the waiting begins, and for no others: this is enough, since an update is
let go of only after it has ended.

A run is any sequence of events: calls are made and take turns, updates take turns and are let go
of, someone begins to wait or has waited long enough, and the collaborator changes in any way.
-/

namespace Recommender

open Program (Leads Settled)

/-- A call, what it still has to do, and what it has done. -/
structure Thread where
  call : ServiceCall
  rest : Program Backend call.Result
  history : List (Occurrence Backend) := []

/-- Someone who waits for the background. -/
structure Wait where
  /-- The places of the updates that were kept when the waiting began. -/
  awaited : List Nat
  /-- How many updates had been scheduled when the waiting began. -/
  scheduled : Nat
  returned : Bool := false

/-- The calls of the service, its background, and who waits for it. -/
structure Shift (σ : Type) where
  backlog : Backlog σ
  threads : List Thread := []
  waits : List Wait := []

/-- Something that happens among calls and updates. -/
inductive ShiftEvent (σ : Type) where
  /-- An operation is called. -/
  | call (call : ServiceCall)
  /-- A call takes a turn. -/
  | advance (thread : Nat)
  /-- An update takes a turn. -/
  | work (update : Nat)
  /-- An update that has ended is let go of. -/
  | release (update : Nat)
  /-- Someone begins to wait. -/
  | wait
  /-- Someone who waits returns, if all awaited updates have ended. -/
  | wake (wait : Nat)
  /-- The collaborator changes. -/
  | change (state : σ)

variable {σ : Type}

namespace Shift

section

variable (c : Program.Collaborator Backend σ) (catalog : List RuleSet)

/-- Call an operation, which goes on until its first request. -/
def call (call : ServiceCall) (s : Shift σ) : Shift σ :=
  match (call.program catalog).settle (Backlog.scheduling c).recording ⟨s.backlog, []⟩ with
  | (rest, record) =>
    { s with backlog := record.state, threads := s.threads ++ [⟨call, rest, record.history⟩] }

/-- Let a call take a turn. -/
def advance (i : Nat) (s : Shift σ) : Shift σ :=
  match s.threads[i]? with
  | none => s
  | some t =>
    match t.rest.turn (Backlog.scheduling c).recording ⟨s.backlog, t.history⟩ with
    | (rest, record) =>
      { s with
        backlog := record.state
        threads := s.threads.set i ⟨t.call, rest, record.history⟩ }

/-- Let an update take a turn. -/
def work (j : Nat) (s : Shift σ) : Shift σ :=
  match s.backlog.updates[j]? with
  | none => s
  | some u =>
    match u.rest.turn c.recording ⟨s.backlog.state, u.history⟩ with
    | (rest, record) =>
      { s with backlog := { s.backlog with
          state := record.state
          updates := s.backlog.updates.set j ⟨u.id, rest, record.history⟩ } }

/-- Let go of an update that has ended. -/
def release (j : Nat) (s : Shift σ) : Shift σ :=
  if s.backlog.hasEnded j then
    { s with backlog := { s.backlog with kept := s.backlog.kept.filter (· ≠ j) } }
  else s

/-- Begin to wait. -/
def wait (s : Shift σ) : Shift σ :=
  { s with waits := s.waits ++ [⟨s.backlog.kept, s.backlog.updates.length, false⟩] }

/-- Return from waiting, if all awaited updates have ended. -/
def wake (k : Nat) (s : Shift σ) : Shift σ :=
  match s.waits[k]? with
  | none => s
  | some w =>
    if w.awaited.all (s.backlog.hasEnded ·) then
      { s with waits := s.waits.set k { w with returned := true } }
    else s

/-- What an event does. -/
def step (s : Shift σ) : ShiftEvent σ → Shift σ
  | .call operation => s.call c catalog operation
  | .advance i => s.advance c i
  | .work j => s.work c j
  | .release j => s.release j
  | .wait => s.wait
  | .wake k => s.wake k
  | .change state => { s with backlog := { s.backlog with state } }

/-- What events do, one after the other, from a state in which nothing is called or scheduled. -/
def run (start : σ) (events : List (ShiftEvent σ)) : Shift σ :=
  events.foldl (step c catalog) { backlog := { state := start } }

end

end Shift

/-! ## Runs -/

/-- Who waits awaits only updates that had been scheduled; the others of these have ended, and all
of them once the waiting is over. -/
structure Wait.Fits (w : Wait) (b : Backlog σ) : Prop where
  scheduled_le : w.scheduled ≤ b.updates.length
  awaited_lt : ∀ j ∈ w.awaited, j < w.scheduled
  ended : ∀ j < w.scheduled, (j ∈ w.awaited → w.returned = true) → b.hasEnded j = true

theorem Wait.Fits.later {w : Wait} {b b' : Backlog σ} (h : w.Fits b) (hb : b.Later b') :
    w.Fits b' :=
  ⟨Nat.le_trans h.scheduled_le hb.length_le, h.awaited_lt,
    fun j hj hreturned => hb.ended j (h.ended j hj hreturned)⟩

namespace Shift

open Backlog (scheduling)

/-- What holds between events: every call has come as far as its history says, an update was
scheduled for every match that calls have recorded, and what nobody waits for has ended. -/
structure InOrder (c : Program.Collaborator Backend σ) (catalog : List RuleSet) (s : Shift σ) :
    Prop where
  threads : ∀ t ∈ s.threads, Leads (t.call.program catalog) t.history t.rest ∧ t.rest.Settled
  backlog : s.backlog.Sound
  waits : ∀ w ∈ s.waits, w.Fits s.backlog
  scheduled : (s.backlog.updates.map (·.id)).Perm
    (s.threads.flatMap fun t => recordedMatches t.history)

/-- No update and nobody who waits is lost. -/
structure Later (s s' : Shift σ) : Prop where
  backlog : s.backlog.Later s'.backlog
  waits : s.waits.map (·.scheduled) <+: s'.waits.map (·.scheduled)

/-- Where an element of a list brings more than the one in its place, the list brings so much
more. -/
theorem perm_flatMap_set {α β : Type} {l : List α} {i : Nat} {a a' : α} (h : l[i]? = some a)
    (f : α → List β) {more : List β} (ha : f a' = f a ++ more) :
    ((l.set i a').flatMap f).Perm (l.flatMap f ++ more) := by
  induction l generalizing i with
  | nil => cases h
  | cons b rest ih =>
      cases i with
      | zero =>
          cases h
          rw [List.set_cons_zero, List.flatMap_cons, List.flatMap_cons, ha, List.append_assoc,
            List.append_assoc]
          exact List.perm_append_comm.append_left (f a)
      | succ i =>
          rw [List.set_cons_succ, List.flatMap_cons, List.flatMap_cons, List.append_assoc]
          exact (ih h).append_left (f b)

section

variable {c : Program.Collaborator Backend σ} {catalog : List RuleSet} {s : Shift σ}

theorem InOrder.call (h : s.InOrder c catalog) (operation : ServiceCall) :
    (s.call c catalog operation).InOrder c catalog ∧ s.Later (s.call c catalog operation) := by
  obtain ⟨⟨more, hmore, hids⟩, hlater, hsound⟩ :=
    Backlog.follows_settle c (operation.program catalog) ⟨s.backlog, []⟩
  obtain ⟨history, hhistory, hleads⟩ := Program.leads_settle (I := Backend) (scheduling c)
    (operation.program catalog) ⟨s.backlog, []⟩
  have hsettled := Program.settled_settle (I := Backend) (scheduling c).recording
    (operation.program catalog) ⟨s.backlog, []⟩
  rw [Shift.call]
  rcases hrun : (operation.program catalog).settle (scheduling c).recording ⟨s.backlog, []⟩ with
    ⟨rest, record⟩
  rw [hrun] at hmore hids hlater hsound hhistory hleads hsettled
  rw [List.nil_append] at hmore hhistory
  refine ⟨⟨?_, hsound h.backlog, fun w hw => (h.waits w hw).later hlater, ?_⟩, hlater,
    List.prefix_rfl⟩
  · intro t ht
    obtain hold | hnew := List.mem_append.mp ht
    · exact h.threads t hold
    · rw [List.mem_singleton.mp hnew]
      exact ⟨hhistory ▸ hleads, hsettled⟩
  · rw [hids, List.flatMap_append, List.flatMap_singleton, hmore]
    exact h.scheduled.append_right _

theorem InOrder.advance (h : s.InOrder c catalog) (i : Nat) :
    (s.advance c i).InOrder c catalog ∧ s.Later (s.advance c i) := by
  rw [Shift.advance]
  cases hi : s.threads[i]? with
  | none => exact ⟨h, .refl _, List.prefix_rfl⟩
  | some t =>
      obtain ⟨⟨more, hmore, hids⟩, hlater, hsound⟩ :=
        Backlog.follows_turn c t.rest ⟨s.backlog, t.history⟩
      obtain ⟨history, hhistory, hleads⟩ := Program.leads_turn (I := Backend) (scheduling c) t.rest
        ⟨s.backlog, t.history⟩
      have hsettled := Program.settled_turn (I := Backend) (scheduling c).recording t.rest
        ⟨s.backlog, t.history⟩
      dsimp only
      rcases hrun : t.rest.turn (scheduling c).recording ⟨s.backlog, t.history⟩ with ⟨rest, record⟩
      rw [hrun] at hmore hids hlater hsound hhistory hleads hsettled
      refine ⟨⟨?_, hsound h.backlog, fun w hw => (h.waits w hw).later hlater, ?_⟩, hlater,
        List.prefix_rfl⟩
      · intro t' ht'
        obtain hold | rfl := List.mem_or_eq_of_mem_set ht'
        · exact h.threads t' hold
        · have hbefore := (h.threads t (List.mem_of_getElem? hi)).1
          exact ⟨hhistory ▸ hbefore.trans hleads, hsettled⟩
      · have hrecorded : recordedMatches record.history =
            recordedMatches t.history ++ recordedMatches more := by
          rw [hmore, recordedMatches_append]
        rw [hids]
        exact (h.scheduled.append_right _).trans
          (perm_flatMap_set hi (fun t => recordedMatches t.history) hrecorded).symm

theorem InOrder.work (h : s.InOrder c catalog) (j : Nat) :
    (s.work c j).InOrder c catalog ∧ s.Later (s.work c j) := by
  rw [Shift.work]
  cases hj : s.backlog.updates[j]? with
  | none => exact ⟨h, .refl _, List.prefix_rfl⟩
  | some u =>
      obtain ⟨hended, hcounted⟩ :=
        (h.backlog.updates u (List.mem_of_getElem? hj)).turn c s.backlog.state
      dsimp only
      rcases hrun : u.rest.turn c.recording ⟨s.backlog.state, u.history⟩ with ⟨rest, record⟩
      rw [hrun] at hended hcounted
      let worked := s.backlog.worked j ⟨u.id, rest, record.history⟩ record.state
      have hlater : s.backlog.Later worked := Backlog.later_worked hj hended record.state
      have hids : worked.updates.map (·.id) = s.backlog.updates.map (·.id) :=
        Backlog.ids_worked hj record.state
      exact ⟨⟨h.threads, h.backlog.worked hj hended hcounted record.state,
        fun w hw => (h.waits w hw).later hlater, (List.Perm.of_eq hids).trans h.scheduled⟩, hlater,
        List.prefix_rfl⟩

theorem InOrder.release (h : s.InOrder c catalog) (j : Nat) :
    (s.release j).InOrder c catalog ∧ s.Later (s.release j) := by
  rw [Shift.release]
  split
  · next hended =>
    have hlater : s.backlog.Later { s.backlog with kept := s.backlog.kept.filter (· ≠ j) } :=
      ⟨List.prefix_rfl, fun _ h => h⟩
    refine ⟨⟨h.threads, ⟨h.backlog.updates, ?_, ?_⟩, fun w hw => (h.waits w hw).later hlater,
      h.scheduled⟩, hlater, List.prefix_rfl⟩
    · exact fun i hi => h.backlog.places i (List.mem_filter.mp hi).1
    · intro i hi hnot
      by_cases hij : i = j
      · rw [hij]
        exact hended
      · refine h.backlog.kept i hi fun hkept => hnot (List.mem_filter.mpr ⟨hkept, ?_⟩)
        simp [hij]
  · exact ⟨h, .refl _, List.prefix_rfl⟩

theorem InOrder.wait (h : s.InOrder c catalog) : s.wait.InOrder c catalog ∧ s.Later s.wait := by
  refine ⟨⟨h.threads, h.backlog, fun w hw => ?_, h.scheduled⟩, .refl _, ?_⟩
  · obtain hold | hnew := List.mem_append.mp hw
    · exact h.waits w hold
    · rw [List.mem_singleton.mp hnew]
      exact ⟨Nat.le_refl _, h.backlog.places,
        fun j hj hkept => h.backlog.kept j hj fun hmem => nomatch hkept hmem⟩
  · rw [Shift.wait, List.map_append]
    exact List.prefix_append _ _

theorem InOrder.wake (h : s.InOrder c catalog) (k : Nat) :
    (s.wake k).InOrder c catalog ∧ s.Later (s.wake k) := by
  rw [Shift.wake]
  cases hk : s.waits[k]? with
  | none => exact ⟨h, .refl _, List.prefix_rfl⟩
  | some w =>
      dsimp only
      split
      · next hall =>
        refine ⟨⟨h.threads, h.backlog, fun w' hw' => ?_, h.scheduled⟩, .refl _, ?_⟩
        · obtain hold | rfl := List.mem_or_eq_of_mem_set hw'
          · exact h.waits w' hold
          · have hw := h.waits w (List.mem_of_getElem? hk)
            refine ⟨hw.scheduled_le, hw.awaited_lt, fun j hj _ => ?_⟩
            by_cases hmem : j ∈ w.awaited
            · exact List.all_eq_true.mp hall j hmem
            · exact hw.ended j hj fun hawaited => absurd hawaited hmem
        · obtain ⟨hlt, rfl⟩ := List.getElem?_eq_some_iff.mp hk
          have hset : (s.waits.set k { s.waits[k] with returned := true }).map (·.scheduled) =
              s.waits.map (·.scheduled) := by
            have hself := congrArg (List.map (·.scheduled)) (List.set_getElem_self hlt)
            rw [List.map_set] at hself ⊢
            exact hself
          exact ⟨[], by rw [List.append_nil, hset]⟩
      · exact ⟨h, .refl _, List.prefix_rfl⟩

/-- Every event leads from order to order, and loses nothing. -/
theorem InOrder.step (h : s.InOrder c catalog) (e : ShiftEvent σ) :
    (s.step c catalog e).InOrder c catalog ∧ s.Later (s.step c catalog e) := by
  cases e with
  | call operation => exact h.call operation
  | advance i => exact h.advance i
  | work j => exact h.work j
  | release j => exact h.release j
  | wait => exact h.wait
  | wake k => exact h.wake k
  | change state =>
      have hlater := Backlog.later_state s.backlog state
      exact ⟨⟨h.threads, h.backlog.of_state state, fun w hw => (h.waits w hw).later hlater,
        h.scheduled⟩, hlater, List.prefix_rfl⟩

theorem Later.refl (s : Shift σ) : Later s s :=
  ⟨.refl _, List.prefix_rfl⟩

theorem Later.trans {s t u : Shift σ} (h : Later s t) (h' : Later t u) : Later s u :=
  ⟨h.backlog.trans h'.backlog, h.waits.trans h'.waits⟩

/-- Any events lead from order to order, and lose nothing. -/
theorem InOrder.events (h : s.InOrder c catalog) (events : List (ShiftEvent σ)) :
    (events.foldl (Shift.step c catalog) s).InOrder c catalog ∧
      s.Later (events.foldl (Shift.step c catalog) s) := by
  induction events generalizing s with
  | nil => exact ⟨h, .refl s⟩
  | cons e rest ih =>
      obtain ⟨hstep, hlater⟩ := h.step e
      obtain ⟨hrest, hlater'⟩ := ih hstep
      exact ⟨hrest, hlater.trans hlater'⟩

theorem inOrder_run (c : Program.Collaborator Backend σ) (catalog : List RuleSet) (start : σ)
    (events : List (ShiftEvent σ)) : (run c catalog start events).InOrder c catalog := by
  have hstart : InOrder c catalog { backlog := { state := start } } :=
    ⟨nofun, ⟨nofun, nofun, nofun⟩, nofun, .refl []⟩
  exact (hstart.events events).1

/-- After its turn an update has ended. -/
theorem InOrder.hasEnded_work (h : s.InOrder c catalog) {j : Nat}
    (hj : j < s.backlog.updates.length) : (s.work c j).backlog.hasEnded j = true := by
  have hu : s.backlog.updates[j]? = some s.backlog.updates[j] := List.getElem?_eq_getElem hj
  have hended := ((h.backlog.updates _ (List.getElem_mem hj)).turn c s.backlog.state).1
  rw [Shift.work, hu]
  dsimp only
  rw [Backlog.hasEnded, List.getElem?_set_self hj]
  exact hended

/-- Once every update has had a turn, all of them have ended. -/
theorem InOrder.hasEnded_works (h : s.InOrder c catalog) {places : List Nat}
    (hplaces : ∀ j ∈ places, j < s.backlog.updates.length) :
    ∀ j ∈ places,
      ((places.map .work).foldl (Shift.step c catalog) s).backlog.hasEnded j = true := by
  induction places generalizing s with
  | nil => exact nofun
  | cons i rest ih =>
      rw [List.forall_mem_cons] at hplaces
      obtain ⟨hstep, hlater⟩ := h.work i
      have hrest := ih hstep fun j hj =>
        Nat.lt_of_lt_of_le (hplaces.2 j hj) hlater.backlog.length_le
      have hended := (hstep.events (rest.map .work)).2.backlog.ended i
        (h.hasEnded_work hplaces.1)
      exact List.forall_mem_cons.mpr ⟨hended, hrest⟩

theorem run_append_wait (c : Program.Collaborator Backend σ) (catalog : List RuleSet) (start : σ)
    (before after : List (ShiftEvent σ)) : run c catalog start (before ++ .wait :: after) =
      after.foldl (Shift.step c catalog) (run c catalog start before).wait := by
  rw [run, List.foldl_append]
  rfl

/-- Updates that have ended have asked for their matches to be counted up, each of them once. -/
theorem counted_updates {updates : List Update} (hfits : ∀ u ∈ updates, u.Fits)
    (hended : ∀ u ∈ updates, u.rest.ended = true) :
    (updates.flatMap fun u => incrementedIds u.history) = updates.map (·.id) := by
  induction updates with
  | nil => rfl
  | cons u rest ih =>
      rw [List.forall_mem_cons] at hfits hended
      rw [List.flatMap_cons, hfits.1.counted hended.1, ih hfits.2 hended.2]
      rfl

/-- The updates that are scheduled in one state, as a later one has them. -/
def updatesIn (s s' : Shift σ) : List Update :=
  s'.backlog.updates.take s.backlog.updates.length

/-- Who begins to wait is found again in every later state. -/
theorem scheduled_of_later {s' : Shift σ} (hlater : s.wait.Later s') :
    (s'.waits[s.waits.length]?).map (·.scheduled) = some s.backlog.updates.length := by
  have hplace : s.waits.length < (s.wait.waits.map (·.scheduled)).length := by
    simp [Shift.wait]
  rw [← List.getElem?_map, List.prefix_iff_getElem?.mp hlater.waits s.waits.length hplace]
  simp [Shift.wait]

/-- When someone who waited returns, the updates that had been scheduled before have ended. -/
theorem InOrder.ended_of_returned {s' : Shift σ} (h' : s'.InOrder c catalog)
    (hlater : s.wait.Later s') {w : Wait} (hw : s'.waits[s.waits.length]? = some w)
    (hreturned : w.returned = true) : ∀ u ∈ s.updatesIn s', u.rest.ended = true := by
  have hscheduled := scheduled_of_later hlater
  rw [hw, Option.map_some, Option.some.injEq] at hscheduled
  intro u hu
  obtain ⟨j, hj, rfl⟩ := List.mem_take_iff_getElem.mp hu
  have hended := (h'.waits w (List.mem_of_getElem? hw)).ended j (by omega) fun _ => hreturned
  rw [Backlog.hasEnded, List.getElem?_eq_getElem] at hended
  exact hended

theorem ids_updatesIn {s' : Shift σ} (hlater : s.Later s') :
    (s.updatesIn s').map (·.id) = s.backlog.updates.map (·.id) := by
  rw [updatesIn, List.map_take, ← List.length_map (·.id),
    ← List.prefix_iff_eq_take.mp hlater.backlog.ids]

/-- What the calls of a run have matched is what updates were scheduled for. -/
theorem InOrder.ids_perm (h : s.InOrder c catalog) : (s.backlog.updates.map (·.id)).Perm
    (s.threads.flatMap fun t => matchedIds (t.call.evaluations t.history)) := by
  have hmatches : ∀ t ∈ s.threads,
      recordedMatches t.history = matchedIds (t.call.evaluations t.history) :=
    fun t ht => recordedMatches_of_leads (h.threads t ht).1 (h.threads t ht).2
  rw [← List.flatMap_congr hmatches]
  exact h.scheduled

/-- Waiting comes to an end once every update has had a turn. -/
theorem InOrder.exists_returned (h : s.InOrder c catalog) :
    ∃ (events : List (ShiftEvent σ)) (w : Wait),
      (events.foldl (Shift.step c catalog) s.wait).waits[s.waits.length]? = some w ∧
        w.returned = true := by
  obtain ⟨hwait, -⟩ := h.wait
  let places := List.range s.backlog.updates.length
  let t := (places.map .work).foldl (Shift.step c catalog) s.wait
  obtain ⟨ht, hlater⟩ := hwait.events (places.map .work)
  have hended : ∀ j ∈ places, t.backlog.hasEnded j = true :=
    hwait.hasEnded_works fun j hj => List.mem_range.mp hj
  have hscheduled := scheduled_of_later hlater
  cases hw : t.waits[s.waits.length]? with
  | none =>
      rw [hw] at hscheduled
      cases hscheduled
  | some w =>
      rw [hw, Option.map_some, Option.some.injEq] at hscheduled
      have hall : w.awaited.all (t.backlog.hasEnded ·) = true := by
        rw [List.all_eq_true]
        intro j hj
        have hlt := (ht.waits w (List.mem_of_getElem? hw)).awaited_lt j hj
        exact hended j (List.mem_range.mpr (hscheduled ▸ hlt))
      refine ⟨places.map .work ++ [.wake s.waits.length], { w with returned := true }, ?_, rfl⟩
      have hwake : t.wake s.waits.length =
          { t with waits := t.waits.set s.waits.length { w with returned := true } } := by
        simp only [Shift.wake, hw, hall, if_true]
      rw [List.foldl_append]
      show (t.wake s.waits.length).waits[s.waits.length]? = _
      rw [hwake]
      exact List.getElem?_set_self (List.getElem?_eq_some_iff.mp hw).1

end

end Shift

/-! ## Matches -/

namespace Shift

/-- **Every match is handed to the counts once.**  Take any run of calls among each other, against
any collaborator, in which someone begins to wait and returns.  Every update that had been scheduled
before has ended, and what these updates asked to be counted up is the matches that had been found,
one for each evaluation of a rule with an identifier that matched, also where the call failed later;
the calls themselves count nothing up.  Whenever someone begins to wait, the run can go on until
they return.  And the counts after several updates do not depend on the order in which they took
their turns, whichever of them fail. -/
theorem matches_are_counted_once :
    (∀ (σ : Type) (c : Program.Collaborator Backend σ) (catalog : List RuleSet) (start : σ)
      (before after : List (ShiftEvent σ)) (called returned : Shift σ) (w : Wait),
      run c catalog start before = called →
      run c catalog start (before ++ .wait :: after) = returned →
      returned.waits[called.waits.length]? = some w → w.returned = true →
      (∀ u ∈ called.updatesIn returned, u.rest.ended = true) ∧
      ((called.updatesIn returned).flatMap fun u => incrementedIds u.history).Perm
        (called.threads.flatMap fun t => matchedIds (t.call.evaluations t.history)) ∧
      ∀ t ∈ returned.threads, incrementedIds t.history = []) ∧
    (∀ (σ : Type) (c : Program.Collaborator Backend σ) (catalog : List RuleSet) (start : σ)
      (before : List (ShiftEvent σ)), ∃ after w,
      (run c catalog start (before ++ .wait :: after)).waits[
        (run c catalog start before).waits.length]? = some w ∧ w.returned = true) ∧
    ∀ (s : ServiceState) (updates updates' : List (RuleId × Faults)), updates.Perm updates' →
      ∀ id, (s.workOff updates).counts.count? id = (s.workOff updates').counts.count? id := by
  refine ⟨?_, ?_, ?_⟩
  · rintro σ c catalog start before after called returned w rfl rfl hw hreturned
    have hcalled := inOrder_run c catalog start before
    obtain ⟨hwait, hlater⟩ := hcalled.wait
    obtain ⟨hend, hlater'⟩ := hwait.events after
    rw [run_append_wait] at hw ⊢
    have hended := hend.ended_of_returned hlater' hw hreturned
    have hfits : ∀ u ∈ (run c catalog start before).updatesIn _, u.Fits :=
      fun u hu => hend.backlog.updates u (List.mem_of_mem_take hu)
    refine ⟨hended, ?_, fun t ht => incrementedIds_of_leads (hend.threads t ht).1⟩
    rw [counted_updates hfits hended, ids_updatesIn (hlater.trans hlater')]
    exact hcalled.ids_perm
  · intro σ c catalog start before
    obtain ⟨after, w, hw⟩ := (inOrder_run c catalog start before).exists_returned
    refine ⟨after, w, ?_⟩
    rw [run_append_wait]
    exact hw
  · intro s updates updates' hperm id
    rw [ServiceState.count?_workOff, ServiceState.count?_workOff, hperm.countP_eq]

/-- A service with a rule that matches, and with a rule of which no lookup is answered. -/
def unanswered : ServiceState where
  desk := { provider := { faults := [(.lookup .deposits, .connection "down")] } }
  rules := ((({} : RuleStore).save Traffic.debitless).2.save (.sample "Balance" .null
    [.ofTexts "TRANSACTION_SUM_COMPARE_DEPOSIT_WITHDRAW" ["DEBIT", ">"] false])).2

/-- A request fails after a match. -/
def failedRequest : List (ShiftEvent ServiceState) :=
  .call (.recommend default) :: List.replicate 3 (.advance 0)

theorem matches_are_counted_once_failedRequest :
    let called := run ServiceState.collaborator [] unanswered failedRequest
    let returned := run ServiceState.collaborator [] unanswered
      (failedRequest ++ .wait :: [.work 0, .wake 0])
    called.threads.map (·.rest.ended) = [true] ∧
      called.threads.flatMap (fun t => matchedIds (t.call.evaluations t.history)) = [.number 1] ∧
      ((called.updatesIn returned).flatMap fun u => incrementedIds u.history).Perm [.number 1] := by
  intro called returned
  have hended : called.threads.map (·.rest.ended) = [true] := by decide +kernel
  have hmatched : called.threads.flatMap
      (fun t => matchedIds (t.call.evaluations t.history)) = [.number 1] := by decide +kernel
  have hw : returned.waits[called.waits.length]? = some ⟨[0], 1, true⟩ := by rfl
  have hcounted := (matches_are_counted_once.1 ServiceState ServiceState.collaborator [] unanswered
    failedRequest [.work 0, .wake 0] called returned ⟨[0], 1, true⟩ rfl rfl hw rfl).2.1
  rw [hmatched] at hcounted
  exact ⟨hended, hmatched, hcounted⟩

end Shift

end Recommender
