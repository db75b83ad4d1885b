import Recommender.Proofs.Aggregate.Parallel
import Recommender.Proofs.Service.Confinement

/-!
# Match counts stay in the background

What happens to a service is in the foreground or in the background.  In the foreground, operations
are called and go on, the memos are cleared, and figures and faults are changed.  In the background,
matches are counted, counting them is told to fail or to succeed, and the counts are replaced.

Nothing flows from the background to the foreground: two runs of equal foregrounds, from services
that differ in their match counts and in the faults of counting alone, give equal answers, make
equal calls to the provider, and leave equal rules, memos and tallies, whatever their backgrounds.
-/

namespace Recommender

open ServiceState (collaborator)

/-- An operation that is called in the foreground. -/
inductive Demand where
  | serve (call : ServiceCall)
  | listRules

namespace Demand

/-- What an operation ends with. -/
def Result : Demand → Type
  | .serve call => call.Result
  | .listRules => List Rule

/-- The operation. -/
def program (catalog : List RuleSet) : (d : Demand) → Program Backend d.Result
  | .serve call => call.program catalog
  | .listRules => Backend.listRules

end Demand

/-- An operation with what it still has to do. -/
structure Errand where
  demand : Demand
  rest : Program Backend demand.Result

/-- A service, with the operations that were called and what it has answered otherwise. -/
structure Course where
  state : ServiceState
  errands : List Errand := []
  /-- How many values were forgotten each time when the memos were cleared. -/
  cleared : List Nat := []
  /-- How each change of figures ended. -/
  updated : List (Except Failure Unit) := []

/-- Something that happens in the foreground. -/
inductive ForegroundEvent where
  /-- An operation is called. -/
  | demand (d : Demand)
  /-- An operation asks its next request or records its next event. -/
  | advance (errand : Nat)
  /-- The memos are cleared. -/
  | clearCaches
  /-- Figures of the provider are replaced. -/
  | updateFigures (v : Json)
  /-- Operations are told to fail. -/
  | setFaults (faults : Faults)

/-- Something that happens in the background. -/
inductive BackgroundEvent where
  /-- One of the matches that are still to be counted is counted. -/
  | count (place : Nat)
  /-- Counting matches is told to fail from now on, or to succeed. -/
  | disturb (why : Option Failure)
  /-- The match counts are replaced. -/
  | recount (counts : MatchCounts)

namespace ServiceState

/-- Count one of the matches that are still to be counted. -/
def countPending (place : Nat) (s : ServiceState) : ServiceState :=
  match s.pending[place]? with
  | none => s
  | some id => (perform (countMatch id) { s with pending := s.pending.eraseIdx place }).2

/-- Tell the counting of matches to fail, or to succeed. -/
def disturb (why : Option Failure) (s : ServiceState) : ServiceState :=
  match why with
  | some e => s.setFaults (Assoc.put .increment e s.faults)
  | none => s.setFaults (Assoc.remove .increment s.faults)

end ServiceState

namespace Course

/-- Let an operation go on. -/
def advance (i : Nat) (c : Course) : Course :=
  match c.errands[i]? with
  | none => c
  | some e =>
    match e.rest.step collaborator c.state with
    | (rest, state) => { c with state, errands := c.errands.set i ⟨e.demand, rest⟩ }

/-- What an event in the foreground does. -/
def inFront (catalog : List RuleSet) (c : Course) : ForegroundEvent → Course
  | .demand d => { c with errands := c.errands ++ [⟨d, d.program catalog⟩] }
  | .advance i => c.advance i
  | .clearCaches =>
    match c.state.clearCaches with
    | (removed, state) => { c with state, cleared := c.cleared ++ [removed] }
  | .updateFigures v =>
    match c.state.updateFigures v with
    | (result, state) => { c with state, updated := c.updated ++ [result] }
  | .setFaults faults => { c with state := c.state.setFaults faults }

/-- What an event in the background does. -/
def behind (c : Course) : BackgroundEvent → Course
  | .count place => { c with state := c.state.countPending place }
  | .disturb why => { c with state := c.state.disturb why }
  | .recount counts => { c with state := { c.state with counts } }

/-- What an event does. -/
def step (catalog : List RuleSet) (c : Course) : ForegroundEvent ⊕ BackgroundEvent → Course
  | .inl e => c.inFront catalog e
  | .inr e => c.behind e

/-- What events do, one after the other, to a service of which nothing is called. -/
def run (catalog : List RuleSet) (start : ServiceState)
    (events : List (ForegroundEvent ⊕ BackgroundEvent)) : Course :=
  events.foldl (step catalog) { state := start }

/-- What happens in the foreground. -/
def foreground (events : List (ForegroundEvent ⊕ BackgroundEvent)) : List ForegroundEvent :=
  events.filterMap Sum.getLeft?

end Course

/-! ## Services that are alike in front -/

/-- Operations are told to fail alike, but for the counting of matches. -/
def Faults.AlikeElsewhere (f g : Faults) : Prop :=
  ∀ op, op ≠ .increment → f.find? op = g.find? op

theorem alikeForProvider_alikeElsewhere : Faults.AlikeForProvider Faults.AlikeElsewhere :=
  fun h => ⟨fun _ => h _ nofun, h _ nofun⟩

namespace ServiceState

/-- Services that differ at most in their match counts, in the matches that are still to be counted,
and in whether counting them is told to fail. -/
structure AlikeInFront (s t : ServiceState) : Prop where
  desk : s.desk.Parallel Faults.AlikeElsewhere [] [] t.desk
  rules : s.rules = t.rules
  verdicts : s.verdicts = t.verdicts
  served : s.served = t.served

variable {s t u : ServiceState}

theorem AlikeInFront.of_eq (hdesk : s.desk = t.desk) (hrules : s.rules = t.rules)
    (hverdicts : s.verdicts = t.verdicts) (hserved : s.served = t.served) : AlikeInFront s t := by
  refine ⟨?_, hrules, hverdicts, hserved⟩
  rw [hdesk]
  exact ⟨⟨rfl, fun _ _ => rfl, _, rfl, rfl⟩, rfl⟩

theorem AlikeInFront.refl (s : ServiceState) : AlikeInFront s s :=
  .of_eq rfl rfl rfl rfl

theorem AlikeInFront.calls_eq (h : AlikeInFront s t) :
    s.desk.provider.calls = t.desk.provider.calls := by
  obtain ⟨since, hs, ht⟩ := h.desk.provider.calls
  rw [hs, ht]

theorem AlikeInFront.symm (h : AlikeInFront s t) : AlikeInFront t s where
  desk := ⟨⟨h.desk.provider.source.symm, fun op hop => (h.desk.provider.faults op hop).symm,
    _, rfl, h.calls_eq⟩, h.desk.caches.symm⟩
  rules := h.rules.symm
  verdicts := h.verdicts.symm
  served := h.served.symm

theorem AlikeInFront.trans (h : AlikeInFront s t) (h' : AlikeInFront t u) : AlikeInFront s u where
  desk := ⟨⟨h.desk.provider.source.trans h'.desk.provider.source,
    fun op hop => (h.desk.provider.faults op hop).trans (h'.desk.provider.faults op hop),
    _, h.calls_eq.trans h'.calls_eq, rfl⟩, h.desk.caches.trans h'.desk.caches⟩
  rules := h.rules.trans h'.rules
  verdicts := h.verdicts.trans h'.verdicts
  served := h.served.trans h'.served

theorem AlikeInFront.samples_eq (h : AlikeInFront s t) : s.samples = t.samples := by
  rw [samples, samples, h.verdicts, h.served, h.desk.caches]

/-! ## Requests and events -/

/-- What is told to fail fails in both services, and what is done in one is done in the other. -/
theorem AlikeInFront.unlessFaulty {α : Type} {op : Operation} (h : AlikeInFront s t)
    (hop : op ≠ .increment) {act act' : ServiceState → α × ServiceState}
    (hact : (act s).1 = (act' t).1 ∧ AlikeInFront (act s).2 (act' t).2) :
    (s.unlessFaulty op act).1 = (t.unlessFaulty op act').1 ∧
      AlikeInFront (s.unlessFaulty op act).2 (t.unlessFaulty op act').2 := by
  have hfaults : s.faults.find? op = t.faults.find? op := h.desk.provider.faults op hop
  rw [ServiceState.unlessFaulty, ServiceState.unlessFaulty, hfaults]
  cases t.faults.find? op with
  | some e => exact ⟨rfl, h⟩
  | none => exact ⟨congrArg Except.ok hact.1, hact.2⟩

theorem AlikeInFront.of_desk (h : AlikeInFront s t) {d e : Desk}
    (hd : d.Parallel Faults.AlikeElsewhere [] [] e) :
    AlikeInFront { s with desk := d } { t with desk := e } :=
  ⟨hd, h.rules, h.verdicts, h.served⟩

/-- Requests of the foreground do not tell services apart that are alike in front. -/
theorem AlikeInFront.answer (h : AlikeInFront s t) {r : BackendRequest} (hr : r.IsForeground) :
    (s.answer r).1 = (t.answer r).1 ∧ AlikeInFront (s.answer r).2 (t.answer r).2 := by
  cases r with
  | lookup l =>
      obtain ⟨hanswer, hdesk⟩ := h.desk.answer alikeForProvider_alikeElsewhere l
      exact ⟨hanswer, h.of_desk hdesk⟩
  | resolve name =>
      obtain ⟨hanswer, hdesk⟩ := h.desk.resolve alikeForProvider_alikeElsewhere name
      exact ⟨hanswer, h.of_desk hdesk⟩
  | saveRule rule =>
      have hid : (s.rules.save rule).1 = (t.rules.save rule).1 := by rw [h.rules]
      have hrules : (s.rules.save rule).2 = (t.rules.save rule).2 := by rw [h.rules]
      rw [ServiceState.answer, ServiceState.answer]
      exact h.unlessFaulty (by decide) ⟨hid, h.desk, hrules, h.verdicts, h.served⟩
  | listRules =>
      rw [ServiceState.answer, ServiceState.answer]
      exact h.unlessFaulty (by decide) ⟨congrArg RuleStore.toList h.rules, h⟩
  | ruleExists id =>
      rw [ServiceState.answer, ServiceState.answer]
      exact h.unlessFaulty (by decide) ⟨congrArg (RuleStore.contains id) h.rules, h⟩
  | deleteRule id =>
      rw [ServiceState.answer, ServiceState.answer]
      exact h.unlessFaulty (by decide)
        ⟨rfl, h.desk, congrArg (RuleStore.delete id) h.rules, h.verdicts, h.served⟩
  | startCount id =>
      rw [ServiceState.answer, ServiceState.answer]
      exact h.unlessFaulty (by decide) ⟨rfl, h.desk, h.rules, h.verdicts, h.served⟩
  | dropCount id =>
      rw [ServiceState.answer, ServiceState.answer]
      exact h.unlessFaulty (by decide) ⟨rfl, h.desk, h.rules, h.verdicts, h.served⟩
  | increment id => cases hr
  | listCounts => cases hr

theorem AlikeInFront.notice (h : AlikeInFront s t) (e : BackendEvent) :
    AlikeInFront (s.notice e) (t.notice e) := by
  cases e with
  | evaluated v =>
      exact ⟨h.desk, h.rules, congrArg (Tally.count v) h.verdicts, h.served⟩
  | matched id => exact ⟨h.desk, h.rules, h.verdicts, h.served⟩
  | served origin n =>
      exact ⟨h.desk, h.rules, h.verdicts, congrArg (Tally.add 0 origin n) h.served⟩

/-- **The foreground does not notice the background**: programs that are confined to the foreground
go on equally in services that are alike in front. -/
theorem simulates_alikeInFront : Program.Simulates (I := Backend) BackendRequest.IsForeground
    (fun _ => True) collaborator collaborator AlikeInFront where
  answer := fun hr h => h.answer hr
  notice := fun _ h => h.notice _

/-! ## The background -/

/-- Counting a match changes nothing in front. -/
theorem alikeInFront_countPending (place : Nat) (s : ServiceState) :
    AlikeInFront (s.countPending place) s := by
  rw [countPending]
  cases hid : s.pending[place]? with
  | none => exact .refl s
  | some id =>
      dsimp only
      rw [perform_countMatch, ServiceState.answer, ServiceState.unlessFaulty]
      cases Faults.find? _ .increment with
      | some e => exact .of_eq rfl rfl rfl rfl
      | none => exact .of_eq rfl rfl rfl rfl

/-- Disturbing the counting of matches disturbs nothing in front. -/
theorem alikeInFront_disturb (why : Option Failure) (s : ServiceState) :
    AlikeInFront (s.disturb why) s := by
  have hfaults : ∀ op, op ≠ .increment → (s.disturb why).faults.find? op = s.faults.find? op := by
    intro op hop
    cases why with
    | some e => exact Assoc.find?_put_ne hop e s.faults
    | none => exact Assoc.find?_remove_ne hop s.faults
  cases why <;> exact ⟨⟨⟨rfl, hfaults, _, rfl, rfl⟩, rfl⟩, rfl, rfl, rfl⟩

end ServiceState

/-! ## Runs -/

theorem confined_demand (catalog : List RuleSet) (d : Demand) :
    (d.program catalog).Confined BackendRequest.IsForeground (fun _ => True) := by
  cases d with
  | serve call => exact confined_program catalog call
  | listRules => exact Program.confined_request trivial

namespace Course

/-- Courses with equal foregrounds: alike services, equal operations that are confined to the
foreground, and equal answers. -/
structure Alike (a b : Course) : Prop where
  state : a.state.AlikeInFront b.state
  errands : a.errands = b.errands
  confined : ∀ e ∈ a.errands, e.rest.Confined BackendRequest.IsForeground (fun _ => True)
  cleared : a.cleared = b.cleared
  updated : a.updated = b.updated

variable {a b c : Course}

theorem Alike.symm (h : Alike a b) : Alike b a :=
  ⟨h.state.symm, h.errands.symm, h.errands ▸ h.confined, h.cleared.symm, h.updated.symm⟩

theorem Alike.trans (h : Alike a b) (h' : Alike b c) : Alike a c :=
  ⟨h.state.trans h'.state, h.errands.trans h'.errands, h.confined, h.cleared.trans h'.cleared,
    h.updated.trans h'.updated⟩

theorem Alike.advance (h : Alike a b) (i : Nat) : Alike (a.advance i) (b.advance i) := by
  rw [Course.advance, Course.advance, ← h.errands]
  cases hi : a.errands[i]? with
  | none => exact h
  | some e =>
      have he := h.confined e (List.mem_of_getElem? hi)
      obtain ⟨hrest, hstate⟩ := ServiceState.simulates_alikeInFront.step he h.state
      have hconfined := he.step collaborator a.state
      dsimp only
      refine ⟨hstate, ?_, ?_, h.cleared, h.updated⟩
      · rw [hrest]
      · intro e' he'
        obtain hold | rfl := List.mem_or_eq_of_mem_set he'
        · exact h.confined e' hold
        · exact hconfined

/-- Events in the foreground lead from equal foregrounds to equal foregrounds. -/
theorem Alike.inFront (h : Alike a b) (catalog : List RuleSet) (e : ForegroundEvent) :
    Alike (a.inFront catalog e) (b.inFront catalog e) := by
  cases e with
  | demand d =>
      refine ⟨h.state, ?_, ?_, h.cleared, h.updated⟩
      · simp only [Course.inFront, h.errands]
      · intro e he
        obtain hold | hnew := List.mem_append.mp he
        · exact h.confined e hold
        · rw [List.mem_singleton.mp hnew]
          exact confined_demand catalog d
  | advance i => exact h.advance i
  | clearCaches =>
      obtain ⟨hremoved, hdesk⟩ := h.state.desk.clear
      refine ⟨h.state.of_desk hdesk, h.errands, h.confined, ?_, h.updated⟩
      show a.cleared ++ [a.state.desk.clear.1] = b.cleared ++ [b.state.desk.clear.1]
      rw [h.cleared, hremoved]
  | updateFigures v =>
      obtain ⟨hresult, hdesk⟩ := h.state.desk.updateFigures v
      refine ⟨h.state.of_desk hdesk, h.errands, h.confined, h.cleared, ?_⟩
      show a.updated ++ [(a.state.desk.updateFigures v).1] =
        b.updated ++ [(b.state.desk.updateFigures v).1]
      rw [h.updated, hresult]
  | setFaults faults =>
      have hdesk := h.state.desk
      exact ⟨⟨⟨⟨hdesk.provider.source, fun _ _ => rfl, hdesk.provider.calls⟩, hdesk.caches⟩,
        h.state.rules, h.state.verdicts, h.state.served⟩, h.errands, h.confined, h.cleared,
        h.updated⟩

/-- Events in the background change nothing in front. -/
theorem Alike.behind (h : Alike a b) (e : BackgroundEvent) : Alike (a.behind e) b := by
  have hstate : (a.behind e).state.AlikeInFront a.state := by
    cases e with
    | count place => exact ServiceState.alikeInFront_countPending place a.state
    | disturb why => exact ServiceState.alikeInFront_disturb why a.state
    | recount counts => exact .of_eq rfl rfl rfl rfl
  cases e <;> exact ⟨hstate.trans h.state, h.errands, h.confined, h.cleared, h.updated⟩

/-- Only what happens in the foreground matters in front. -/
theorem Alike.events (h : Alike a b) (catalog : List RuleSet)
    (events : List (ForegroundEvent ⊕ BackgroundEvent)) :
    Alike (events.foldl (Course.step catalog) a)
      ((foreground events).foldl (Course.inFront catalog) b) := by
  induction events generalizing a b with
  | nil => exact h
  | cons e rest ih =>
      cases e with
      | inl e => exact ih (h.inFront catalog e)
      | inr e => exact ih (h.behind e)

/-- **Match counts never influence recommendations.**  Take two runs of equal foregrounds from
services that differ at most in their match counts, in the matches that are still to be counted, and
in whether counting them is told to fail.  Whatever happens in their backgrounds, every operation
has come to the same answer or the same rest, the memos were cleared and the figures changed with
the same results, the provider has been called equally, and the services have equal figures, rules,
memos, tallies and samples. -/
theorem counting_stays_in_the_background (catalog : List RuleSet) {s t : ServiceState}
    (hstart : s.AlikeInFront t) {events events' : List (ForegroundEvent ⊕ BackgroundEvent)}
    (hevents : foreground events = foreground events') :
    (run catalog s events).errands = (run catalog t events').errands ∧
      (run catalog s events).cleared = (run catalog t events').cleared ∧
      (run catalog s events).updated = (run catalog t events').updated ∧
      (run catalog s events).state.desk.provider.calls =
        (run catalog t events').state.desk.provider.calls ∧
      (run catalog s events).state.desk.provider.source =
        (run catalog t events').state.desk.provider.source ∧
      (run catalog s events).state.desk.caches = (run catalog t events').state.desk.caches ∧
      (run catalog s events).state.rules = (run catalog t events').state.rules ∧
      (run catalog s events).state.verdicts = (run catalog t events').state.verdicts ∧
      (run catalog s events).state.served = (run catalog t events').state.served ∧
      (run catalog s events).state.samples = (run catalog t events').state.samples := by
  have hbegin : Alike { state := s } { state := t } := ⟨hstart, rfl, nofun, rfl, rfl⟩
  have hsame : Alike { state := t } { state := t } := ⟨.refl t, rfl, nofun, rfl, rfl⟩
  have hfirst := hbegin.events catalog events
  have hsecond := hsame.events catalog events'
  rw [hevents] at hfirst
  have h : Alike (run catalog s events) (run catalog t events') := hfirst.trans hsecond.symm
  exact ⟨h.errands, h.cleared, h.updated, h.state.calls_eq, h.state.desk.provider.source,
    h.state.desk.caches, h.state.rules, h.state.verdicts, h.state.served, h.state.samples_eq⟩

/-- A service with a rule that matches, and a count of five for it. -/
def counting : ServiceState where
  rules := (({} : RuleStore).save Traffic.debitless).2
  counts := ⟨({} : ById Nat).put (.number 1) 5⟩

/-- The same service without counts, and with counting told to fail. -/
def notCounting : ServiceState where
  desk := { provider := { faults := [(.increment, .connection "down")] } }
  rules := (({} : RuleStore).save Traffic.debitless).2

/-- A request is served, and its match is counted; then the memos are cleared. -/
def served : List (ForegroundEvent ⊕ BackgroundEvent) :=
  .inl (.demand (.serve (.recommend default))) :: List.replicate 6 (.inl (.advance 0)) ++
    [.inr (.count 0), .inl .clearCaches]

/-- The same request is served, and its match is never counted. -/
def servedOnly : List (ForegroundEvent ⊕ BackgroundEvent) :=
  .inl (.demand (.serve (.recommend default))) :: List.replicate 6 (.inl (.advance 0)) ++
    [.inl .clearCaches]

theorem counting_stays_in_the_background_served :
    counting.AlikeInFront notCounting ∧ foreground served = foreground servedOnly ∧
      (run [] counting served).errands.map (·.rest.ended) = [true] ∧
      (run [] counting served).errands = (run [] notCounting servedOnly).errands ∧
      (run [] counting served).cleared = (run [] notCounting servedOnly).cleared ∧
      (run [] counting served).state.counts.count? (.number 1) = some 6 ∧
      (run [] notCounting servedOnly).state.counts.count? (.number 1) = none := by
  have hfaults : Faults.AlikeElsewhere [] [(.increment, .connection "down")] := by
    intro op hop
    simp [Faults.find?, Assoc.find?, Ne.symm hop]
  have hstart : counting.AlikeInFront notCounting :=
    ⟨⟨⟨rfl, hfaults, [], rfl, rfl⟩, rfl⟩, rfl, rfl, rfl⟩
  have hevents : foreground served = foreground servedOnly := rfl
  obtain ⟨herrands, hcleared, -⟩ := counting_stays_in_the_background [] hstart hevents
  exact ⟨hstart, hevents, by decide +kernel, herrands, hcleared, by decide +kernel,
    by decide +kernel⟩

end Course

end Recommender
