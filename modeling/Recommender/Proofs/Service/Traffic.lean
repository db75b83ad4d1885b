import Recommender.Proofs.Service.Conduct

/-!
# Calls of the service among each other

The service answers many calls at once.  What a call still has to do is its *strand*; a strand goes
on by one request or event at a time, and between two of its steps other strands may go on, matches
may be counted, and the provider, its memos and what operations are told to fail may change in any
way.  A run is any sequence of such events.

Every state of every run is sound, since each strand keeps to the ledger.  So no match count is
lost, reset or given to another rule.
-/

namespace Recommender

open ServiceState (recorder)

/-- A call of an operation of the service. -/
inductive ServiceCall where
  | add (r : Rule)
  | delete (id : RuleId)
  | recommend (user : Uuid)
  | recommendByName (name : Json)

namespace ServiceCall

/-- What a call ends with. -/
def Result : ServiceCall → Type
  | .add _ => Rule
  | .delete _ => Unit
  | .recommend _ => List Recommendation
  | .recommendByName _ => Uuid × List Recommendation

/-- The operation that is called. -/
def program (catalog : List RuleSet) : (c : ServiceCall) → Program Backend c.Result
  | .add r => addRule r
  | .delete id => deleteRule id
  | .recommend user => Recommender.recommend catalog user
  | .recommendByName name => Recommender.recommendByName catalog name

end ServiceCall

/-- Counting a match is one request, whose failure is dropped. -/
theorem countMatch_eq (id : RuleId) :
    countMatch id = .ask (.increment id) fun _ => .done () := by
  have hnext : (fun answer : Except Failure Unit =>
      ((Program.ofExcept answer : Program Backend Unit).attempt.bind fun _ => .done ())) =
        fun _ => (.done () : Program Backend Unit) := by
    funext answer
    cases answer <;> rfl
  exact congrArg (Program.ask (I := Backend) (BackendRequest.increment id)) hnext

theorem ServiceState.perform_countMatch (id : RuleId) (s : ServiceState) :
    s.perform (countMatch id) = (.ok (), (s.answer (.increment id)).2) := by
  rw [countMatch_eq]
  rfl

/-- A call with what it still has to do. -/
structure Strand where
  call : ServiceCall
  rest : Program Backend call.Result

/-- The service with its history and the strands of all calls, also of those that have ended. -/
structure Traffic where
  record : Recorded Backend ServiceState := ⟨{}, []⟩
  strands : List Strand := []

/-- Something that happens among calls. -/
inductive TrafficEvent where
  /-- An operation is called. -/
  | call (c : ServiceCall)
  /-- A strand asks its next request or records its next event. -/
  | advance (strand : Nat)
  /-- One of the matches that are still to be counted is counted. -/
  | count (place : Nat)
  /-- The provider or its memos change, or what operations are told to fail. -/
  | change (desk : Desk)

namespace Traffic

/-- Let a strand go on. -/
def advance (i : Nat) (t : Traffic) : Traffic :=
  match t.strands[i]? with
  | none => t
  | some s =>
    match s.rest.step recorder t.record with
    | (rest, record) => ⟨record, t.strands.set i ⟨s.call, rest⟩⟩

/-- Leave a match out of those that are still to be counted. -/
def forget (place : Nat) (s : Recorded Backend ServiceState) : Recorded Backend ServiceState :=
  { s with state := { s.state with pending := s.state.pending.eraseIdx place } }

/-- Count one of the matches that are still to be counted. -/
def count (place : Nat) (t : Traffic) : Traffic :=
  match t.record.state.pending[place]? with
  | none => t
  | some id => { t with record := ((countMatch id).run recorder (forget place t.record)).2 }

/-- Put another desk in place. -/
def change (desk : Desk) (t : Traffic) : Traffic :=
  { t with record := { t.record with state := { t.record.state with desk } } }

/-- What an event does. -/
def step (catalog : List RuleSet) (t : Traffic) : TrafficEvent → Traffic
  | .call c => { t with strands := t.strands ++ [⟨c, c.program catalog⟩] }
  | .advance i => t.advance i
  | .count place => t.count place
  | .change desk => t.change desk

/-- What events do, one after the other, to a service with empty stores. -/
def run (catalog : List RuleSet) (events : List TrafficEvent) : Traffic :=
  events.foldl (step catalog) {}

theorem advance_of_strand {t : Traffic} {i : Nat} {s : Strand} (h : t.strands[i]? = some s) :
    t.advance i = ⟨(s.rest.step recorder t.record).2,
      t.strands.set i ⟨s.call, (s.rest.step recorder t.record).1⟩⟩ := by
  simp only [advance, h]

theorem advance_of_none {t : Traffic} {i : Nat} (h : t.strands[i]? = none) : t.advance i = t := by
  simp only [advance, h]

theorem run_countMatch (id : RuleId) (s : Recorded Backend ServiceState) :
    (countMatch id).run recorder s = (.ok (), (recorder.answer (.increment id) s).2) := by
  rw [countMatch_eq]
  rfl

theorem count_of_pending {t : Traffic} {place : Nat} {id : RuleId}
    (h : t.record.state.pending[place]? = some id) :
    t.count place =
      { t with record := (recorder.answer (.increment id) (forget place t.record)).2 } := by
  simp only [count, h, run_countMatch]

theorem count_of_none {t : Traffic} {place : Nat} (h : t.record.state.pending[place]? = none) :
    t.count place = t := by
  simp only [count, h]

/-! ## Soundness -/

open ServiceState (Sound Later Proper Anyhow follows_answer)

/-- The state is sound, and each strand goes on to keep to the ledger. -/
structure InOrder (t : Traffic) : Prop where
  record : Sound t.record
  strands : ∀ s ∈ t.strands, Proper s.rest t.record

theorem keeps_anyhow {α : Type} :
    ServiceState.ledger.Keeps (Anyhow : α → Recorded Backend ServiceState → Prop) :=
  fun _ _ => trivial

/-- Strands are still in order in a later state. -/
theorem proper_of_later {strands : List Strand} {r r' : Recorded Backend ServiceState}
    (h : ∀ s ∈ strands, Proper s.rest r) (hlater : Later r r') : ∀ s ∈ strands, Proper s.rest r' :=
  fun s hs => (h s hs).later keeps_anyhow hlater

theorem proper_program (catalog : List RuleSet) (c : ServiceCall)
    (r : Recorded Backend ServiceState) : Proper (c.program catalog) r := by
  cases c with
  | add rule => exact ServiceState.proper_addRule rule r
  | delete id => exact ServiceState.proper_deleteRule id r
  | recommend user => exact ServiceState.proper_recommend catalog user r
  | recommendByName name => exact ServiceState.proper_recommendByName catalog name r

/-- Nothing is handed out, counted or pending at the start. -/
theorem sound_start : Sound (⟨{}, []⟩ : Recorded Backend ServiceState) where
  numbered :=
    { rules := RuleStore.numbered_empty
      accepted := List.forall_mem_nil _
      increasing := List.Pairwise.nil
      issued := fun n => by
        rw [handedOut, List.filterMap_nil]
        exact iff_of_false List.not_mem_nil (RuleStore.not_issued_empty n)
      gone := fun _ h => by
        obtain ⟨n, -, hn⟩ := h.1
        exact absurd hn (RuleStore.not_issued_empty n) }
  tallied :=
    { counts := List.forall_mem_nil _
      pending := List.forall_mem_nil _
      exact := fun _ _ => rfl
      present := fun id => iff_of_false Bool.false_ne_true (not_counted_nil id)
      touched := List.forall_mem_nil _
      dropped := List.forall_mem_nil _ }

theorem InOrder.advance {t : Traffic} (h : t.InOrder) (i : Nat) : (t.advance i).InOrder := by
  cases hi : t.strands[i]? with
  | none =>
      rw [advance_of_none hi]
      exact h
  | some s =>
      have hs := h.strands s (List.mem_of_getElem? hi)
      obtain ⟨hsound, hlater, hrest⟩ := hs.step keeps_anyhow h.record
      rw [advance_of_strand hi]
      refine ⟨hsound, fun s' hs' => ?_⟩
      obtain hold | rfl := List.mem_or_eq_of_mem_set hs'
      · exact proper_of_later h.strands hlater s' hold
      · exact hrest

theorem later_forget (place : Nat) (r : Recorded Backend ServiceState) :
    Later r (forget place r) :=
  .of_eq rfl rfl

theorem InOrder.count {t : Traffic} (h : t.InOrder) (place : Nat) : (t.count place).InOrder := by
  cases hp : t.record.state.pending[place]? with
  | none =>
      rw [count_of_none hp]
      exact h
  | some id =>
      have hforget : Sound (forget place t.record) :=
        h.record.of_eq rfl rfl rfl fun _ hid => List.mem_of_mem_eraseIdx hid
      have hask := h.record.tallied.pending id (List.mem_of_getElem? hp)
      have hfollows := follows_answer (.increment id) (forget place t.record)
      have hlater := (later_forget place t.record).trans hfollows.later
      rw [count_of_pending hp]
      exact ⟨hfollows.sound hask hforget, proper_of_later h.strands hlater⟩

theorem InOrder.change {t : Traffic} (h : t.InOrder) (desk : Desk) : (t.change desk).InOrder :=
  ⟨h.record.of_eq rfl rfl rfl fun _ hid => hid, proper_of_later h.strands (.of_eq rfl rfl)⟩

/-- Every event leads from order to order. -/
theorem InOrder.step {t : Traffic} (h : t.InOrder) (catalog : List RuleSet) (e : TrafficEvent) :
    (t.step catalog e).InOrder := by
  cases e with
  | call c =>
      refine ⟨h.record, fun s hs => ?_⟩
      obtain hold | hnew := List.mem_append.mp hs
      · exact h.strands s hold
      · rw [List.mem_singleton.mp hnew]
        exact proper_program catalog c t.record
  | advance i => exact h.advance i
  | count place => exact h.count place
  | change desk => exact h.change desk

/-- Every state of every run is in order. -/
theorem inOrder_run (catalog : List RuleSet) (events : List TrafficEvent) :
    (run catalog events).InOrder :=
  List.foldlRecOn events (step catalog) ⟨sound_start, nofun⟩ fun _ h e _ => h.step catalog e

/-! ## Match counts -/

/-- **No match count is lost, reset or given to another rule.**  In every state of every run, with
any calls among each other and any failures, the numbers that the rule store has handed out are
strictly increasing; every rule of the store has one of them, and its count, which is zero while it
is absent, is the number of matches that were counted for it. -/
theorem counts_are_exact (catalog : List RuleSet) (events : List TrafficEvent) :
    (handedOut (run catalog events).record.history).Pairwise (· < ·) ∧
      ∀ id, (run catalog events).record.state.rules.contains id = true →
        (∃ n ∈ handedOut (run catalog events).record.history, id.key = .number n) ∧
        ((run catalog events).record.state.counts.count? id).getD 0 =
          increments id (run catalog events).record.history := by
  obtain ⟨hnumbered, htallied⟩ := (inOrder_run catalog events).record
  refine ⟨hnumbered.increasing, fun id hid => ⟨?_, ?_⟩⟩
  · obtain ⟨n, hkey, hn⟩ := hnumbered.rules.issued_of_contains hid
    exact ⟨n, (hnumbered.issued n).mpr hn, hkey⟩
  · refine htallied.exact id fun hretired => ?_
    rw [hretired.2] at hid
    cases hid

/-- A rule for all users without debit transactions. -/
def debitless : Rule :=
  .sample "Debitless" .null [.ofTexts "USER_OF" ["DEBIT"] true]

/-- A rule is saved and matches a user; the match is counted before the count is started. -/
def earlyMatch : List TrafficEvent :=
  .call (.add debitless) :: .advance 0 ::
  .call (.recommend default) :: List.replicate 6 (.advance 1) ++ [.count 0, .advance 0]

theorem counts_are_exact_earlyMatch :
    (run [] earlyMatch).record.state.rules.contains (.number 1) = true ∧
      increments (.number 1) (run [] earlyMatch).record.history = 1 ∧
      ((run [] earlyMatch).record.state.counts.count? (.number 1)).getD 0 = 1 := by
  have hcontains : (run [] earlyMatch).record.state.rules.contains (.number 1) = true := by
    decide +kernel
  have hone : increments (.number 1) (run [] earlyMatch).record.history = 1 := by
    decide +kernel
  have hexact := ((counts_are_exact [] earlyMatch).2 (.number 1) hcontains).2
  exact ⟨hcontains, hone, hexact.trans hone⟩

end Traffic

end Recommender
