import Recommender.Proofs.Service.Traffic

/-!
# Deleted rules and their counts

Adding a rule is saving it and then starting its count, and deleting one is taking it out of the
store and then dropping its count: each of these pairs *owes* its second request as soon as the
first one is answered, and other calls may go on in between.  Once all calls have ended, and no
store has failed, nothing is owed any more.

Nothing asks whether a rule still exists when a match is counted late, or a count is started late.
Either of them brings the count of a rule back whose deletion has ended, and this is the only way in
which counts and rules come apart.
-/

namespace Recommender

open ServiceState (recorder Later follows_answer follows_notice)

/-- A request to a store, which fails only if it is told to. -/
def BackendRequest.toStore : BackendRequest → Bool
  | .lookup _ | .resolve _ => false
  | _ => true

namespace Occurrence

/-- No store has failed. -/
def undisturbed : Occurrence Backend → Bool
  | .asked r (.error _) => !BackendRequest.toStore r
  | _ => true

/-- The request that has to follow.  A rule that is deleted because its count could not be started
owes one as well, but only where a store has failed. -/
def owes? : Occurrence Backend → Option BackendRequest
  | .asked (.saveRule _) (.ok n) => some (.startCount (.number n))
  | .asked (.deleteRule id) (.ok _) => some (.dropCount id)
  | _ => none

end Occurrence

/-- Only requests to stores are owed. -/
theorem toStore_of_owes {o : Occurrence Backend} {owed : BackendRequest}
    (h : o.owes? = some owed) : owed.toStore = true := by
  rw [Occurrence.owes?.eq_def] at h
  split at h
  · cases h
    rfl
  · cases h
    rfl
  · cases h

/-- Whoever is handed a number owes the start of its count. -/
theorem owes_of_handedOut {o : Occurrence Backend} {n : Int} (h : o.handedOut? = some n) :
    o.owes? = some (.startCount (.number n)) := by
  obtain ⟨r, m, rfl⟩ | ⟨id, rfl⟩ | ⟨hnone, -⟩ := o.rulesAfter_cases
  · cases h
    rfl
  · cases h
  · rw [hnone] at h
    cases h

/-! ## Programs that pay what they owe -/

section

variable {α β : Type}

/-- A program asks at once what it owes, as long as no store fails. -/
def Tidy : Program Backend α → Prop
  | .done _ | .raise _ => True
  | .ask r next => ∀ answer, (Occurrence.asked r answer).undisturbed = true →
      (∀ owed, (Occurrence.asked r answer).owes? = some owed →
        (next answer).Asks (I := Backend) owed) ∧ Tidy (next answer)
  | .emit _ next => Tidy next

theorem Tidy.bind {p : Program Backend α} {f : α → Program Backend β} (hp : Tidy p)
    (hf : ∀ a, Tidy (f a)) : Tidy (p.bind f) := by
  induction p with
  | done a => exact hf a
  | raise e => trivial
  | ask r next ih =>
      intro answer hanswer
      obtain ⟨howed, hrest⟩ := hp answer hanswer
      exact ⟨fun owed h => (howed owed h).bind f, ih answer hrest⟩
  | emit e next ih => exact ih hp

theorem Tidy.attempt {p : Program Backend α} (h : Tidy p) : Tidy p.attempt := by
  induction p with
  | done a => trivial
  | raise e => trivial
  | ask r next ih =>
      intro answer hanswer
      obtain ⟨howed, hrest⟩ := h answer hanswer
      exact ⟨fun owed ho => (howed owed ho).attempt, ih answer hrest⟩
  | emit e next ih => exact ih h

theorem tidy_ofExcept (result : Except Failure α) :
    Tidy (.ofExcept result : Program Backend α) := by
  cases result <;> trivial

/-- Requests that owe nothing are tidy. -/
theorem tidy_request {r : BackendRequest} (h : ∀ answer, (Occurrence.asked r answer).owes? = none) :
    Tidy (Program.request (I := Backend) r) := by
  intro answer _
  refine ⟨fun owed howed => ?_, tidy_ofExcept answer⟩
  rw [h answer] at howed
  cases howed

theorem tidy_judge (p : Program Judgement α) : Tidy (Backend.judge p) := by
  rw [Backend.judge]
  induction p with
  | done a => trivial
  | raise e => trivial
  | ask l next ih =>
      have hlookup : Tidy (Program.request (I := Backend) (.lookup l)) := tidy_request fun _ => rfl
      exact hlookup.attempt.bind ih
  | emit v next ih => exact ih

/-! ## The operations of the service -/

theorem tidy_storeRule (r : Rule) : Tidy (storeRule r) := by
  intro saved hsaved
  cases saved with
  | error e => cases hsaved
  | ok n =>
      refine ⟨fun owed howed => ?_, fun started hstarted => ?_⟩
      · cases howed
        exact ⟨_, rfl⟩
      · refine ⟨nofun, ?_⟩
        cases started with
        | error e => cases hstarted
        | ok _ => trivial

theorem tidy_addRule (r : Rule) : Tidy (addRule r) := by
  rw [addRule]
  split
  · trivial
  · split
    · trivial
    · exact tidy_storeRule r

theorem tidy_deleteRule (id : RuleId) : Tidy (deleteRule id) := by
  intro present _
  refine ⟨nofun, ?_⟩
  cases present with
  | error e => trivial
  | ok present =>
      cases present with
      | false => trivial
      | true =>
          intro deleted _
          cases deleted with
          | error e => exact ⟨nofun, trivial⟩
          | ok _ =>
              refine ⟨fun owed howed => ?_, tidy_request fun _ => rfl⟩
              cases howed
              exact ⟨_, rfl⟩

theorem tidy_dynamicRecommendations (user : Uuid) (rules : List Rule) :
    Tidy (dynamicRecommendations user rules) := by
  induction rules with
  | nil => trivial
  | cons r rest ih =>
      refine (tidy_judge (r.evaluate user)).bind fun result => ?_
      split
      · have hmatch : Tidy (recordMatch r.countedAs?) := by
          cases r.countedAs? <;> trivial
        exact hmatch.bind fun _ => ih.bind fun _ => trivial
      · exact ih

theorem tidy_staticRecommendations (user : Uuid) (catalog : List RuleSet) :
    Tidy (staticRecommendations user catalog) := by
  induction catalog with
  | nil => trivial
  | cons s rest ih =>
      exact (tidy_judge (s.recommend user)).bind fun _ => ih.bind fun _ => trivial

theorem tidy_recommend (catalog : List RuleSet) (user : Uuid) : Tidy (recommend catalog user) :=
  (tidy_request fun _ => rfl).bind fun rules =>
    (tidy_dynamicRecommendations user rules).bind fun _ =>
      (tidy_staticRecommendations user catalog).bind fun _ => trivial

theorem tidy_recommendByName (catalog : List RuleSet) (name : Json) :
    Tidy (recommendByName catalog name) := by
  have hresolve : Tidy (resolveUser name) := by
    rw [resolveUser]
    split
    · refine (tidy_request fun _ => rfl).bind fun user => ?_
      cases user <;> trivial
    · trivial
  exact hresolve.bind fun user => (tidy_recommend catalog user).bind fun _ => trivial

theorem tidy_program (catalog : List RuleSet) (c : ServiceCall) : Tidy (c.program catalog) := by
  cases c with
  | add r => exact tidy_addRule r
  | delete id => exact tidy_deleteRule id
  | recommend user => exact tidy_recommend catalog user
  | recommendByName name => exact tidy_recommendByName catalog name

/-! ## Single steps -/

variable {p : Program Backend α} {s : Recorded Backend ServiceState}

/-- The state after a step of a program comes after the one before. -/
theorem later_step (p : Program Backend α) (s : Recorded Backend ServiceState) :
    Later s (p.step recorder s).2 := by
  cases p with
  | done a => exact .refl s
  | raise e => exact .refl s
  | ask r next => exact (follows_answer r s).later
  | emit e next => exact (follows_notice e s).later

/-- What a program asks next is asked in its next step. -/
theorem asked_of_asks {r : BackendRequest} (h : p.Asks (I := Backend) r) :
    ∃ answer, Occurrence.asked r answer ∈ (p.step recorder s).2.history := by
  obtain ⟨next, rfl⟩ := h
  exact ⟨_, List.mem_append_right _ List.mem_cons_self⟩

/-- After a step a tidy program is tidy, and asks what has come to be owed. -/
theorem Tidy.step (h : Tidy p)
    (hstores : ∀ o ∈ (p.step recorder s).2.history, o.undisturbed = true) :
    Tidy (p.step recorder s).1 ∧
      ∀ o ∈ (p.step recorder s).2.history, o ∈ s.history ∨
        ∀ owed, o.owes? = some owed → (p.step recorder s).1.Asks (I := Backend) owed := by
  cases p with
  | done a => exact ⟨h, fun o ho => .inl ho⟩
  | raise e => exact ⟨h, fun o ho => .inl ho⟩
  | ask r next =>
      have hanswer := hstores _ (List.mem_append_right _ List.mem_cons_self)
      obtain ⟨howed, hrest⟩ := h _ hanswer
      refine ⟨hrest, fun o ho => ?_⟩
      obtain hold | hnew := List.mem_append.mp ho
      · exact .inl hold
      · rw [List.mem_singleton.mp hnew]
        exact .inr howed
  | emit e next =>
      refine ⟨h, fun o ho => ?_⟩
      obtain hold | hnew := List.mem_append.mp ho
      · exact .inl hold
      · rw [List.mem_singleton.mp hnew]
        exact .inr nofun

end

namespace Traffic

/-- A request was asked, or some strand asks it next. -/
def Covers (t : Traffic) (r : BackendRequest) : Prop :=
  (∃ answer, .asked r answer ∈ t.record.history) ∨ ∃ s ∈ t.strands, s.rest.Asks (I := Backend) r

/-- Strands are tidy, and what is owed was asked or is asked next. -/
structure Solvent (t : Traffic) : Prop where
  tidy : ∀ s ∈ t.strands, Tidy s.rest
  covered : ∀ o ∈ t.record.history, ∀ owed, o.owes? = some owed → t.Covers owed

/-- No store has failed in a run. -/
def Undisturbed (t : Traffic) : Prop :=
  ∀ o ∈ t.record.history, o.undisturbed = true

/-- All calls have ended. -/
def Idle (t : Traffic) : Prop :=
  ∀ s ∈ t.strands, s.rest.ended = true

/-- The state after an event comes after the one before. -/
theorem later_event (catalog : List RuleSet) (t : Traffic) (e : TrafficEvent) :
    Later t.record (t.step catalog e).record := by
  cases e with
  | call c => exact .refl t.record
  | advance i =>
      rw [step]
      cases hi : t.strands[i]? with
      | none =>
          rw [advance_of_none hi]
          exact .refl t.record
      | some s =>
          rw [advance_of_strand hi]
          exact later_step s.rest t.record
  | count place =>
      rw [step]
      cases hp : t.record.state.pending[place]? with
      | none =>
          rw [count_of_none hp]
          exact .refl t.record
      | some id =>
          rw [count_of_pending hp]
          exact (later_forget place t.record).trans (follows_answer (.increment id) _).later
  | change desk => exact .of_eq rfl rfl

/-- What is covered stays so when a strand goes on. -/
theorem Covers.advance {t : Traffic} {r : BackendRequest} (h : t.Covers r) (i : Nat) :
    (t.advance i).Covers r := by
  cases hi : t.strands[i]? with
  | none =>
      rw [advance_of_none hi]
      exact h
  | some s =>
      rw [advance_of_strand hi]
      obtain ⟨answer, hmem⟩ | ⟨s', hs', hasks⟩ := h
      · exact .inl ⟨answer, (later_step s.rest t.record).history.mem hmem⟩
      · obtain ⟨j, hj⟩ := List.mem_iff_getElem?.mp hs'
        by_cases hji : i = j
        · -- It is the strand in question that has asked.
          subst hji
          obtain rfl : s = s' := Option.some.inj (hi.symm.trans hj)
          exact .inl (asked_of_asks hasks)
        · refine .inr ⟨s', List.mem_of_getElem? (i := j) ?_, hasks⟩
          rw [List.getElem?_set_ne hji, hj]

theorem Solvent.advance {t : Traffic} (h : t.Solvent) (i : Nat)
    (hstores : (t.advance i).Undisturbed) : (t.advance i).Solvent := by
  have hcovered := fun o ho owed howed => (h.covered o ho owed howed).advance i
  cases hi : t.strands[i]? with
  | none =>
      rw [advance_of_none hi]
      exact h
  | some s =>
      rw [advance_of_strand hi] at hstores hcovered ⊢
      obtain ⟨htidy, hnew⟩ := (h.tidy s (List.mem_of_getElem? hi)).step hstores
      refine ⟨fun s' hs' => ?_, fun o ho owed howed => ?_⟩
      · obtain hold | rfl := List.mem_or_eq_of_mem_set hs'
        · exact h.tidy s' hold
        · exact htidy
      · obtain hold | hasks := hnew o ho
        · exact hcovered o hold owed howed
        · obtain ⟨hlength, -⟩ := List.getElem?_eq_some_iff.mp hi
          exact .inr ⟨_, List.mem_set hlength _, hasks owed howed⟩

/-- Counting a match owes nothing. -/
theorem Solvent.count {t : Traffic} (h : t.Solvent) (place : Nat) : (t.count place).Solvent := by
  cases hp : t.record.state.pending[place]? with
  | none =>
      rw [count_of_none hp]
      exact h
  | some id =>
      rw [count_of_pending hp]
      have hfollows := follows_answer (.increment id) (forget place t.record)
      refine ⟨h.tidy, fun o ho owed howed => ?_⟩
      rw [hfollows.history] at ho
      obtain hold | hnew := List.mem_append.mp ho
      · obtain ⟨answer, hmem⟩ | hasks := h.covered o hold owed howed
        · exact .inl ⟨answer, hfollows.later.history.mem hmem⟩
        · exact .inr hasks
      · rw [List.mem_singleton.mp hnew] at howed
        cases howed

/-- As long as no store fails, every event leads to a state in which what is owed is covered. -/
theorem Solvent.step {t : Traffic} (h : t.Solvent) (catalog : List RuleSet) (e : TrafficEvent)
    (hstores : (t.step catalog e).Undisturbed) : (t.step catalog e).Solvent := by
  cases e with
  | call c =>
      refine ⟨fun s hs => ?_, fun o ho owed howed => ?_⟩
      · obtain hold | hnew := List.mem_append.mp hs
        · exact h.tidy s hold
        · rw [List.mem_singleton.mp hnew]
          exact tidy_program catalog c
      · obtain hasked | ⟨s, hs, hasks⟩ := h.covered o ho owed howed
        · exact .inl hasked
        · exact .inr ⟨s, List.mem_append_left _ hs, hasks⟩
  | advance i => exact h.advance i hstores
  | count place => exact h.count place
  | change desk => exact ⟨h.tidy, h.covered⟩

theorem later_run (catalog : List RuleSet) (events : List TrafficEvent) (t : Traffic) :
    Later t.record (events.foldl (step catalog) t).record := by
  induction events generalizing t with
  | nil => exact .refl t.record
  | cons e rest ih => exact (later_event catalog t e).trans (ih _)

/-- In a run in which no store has failed, what is owed is covered. -/
theorem solvent_run (catalog : List RuleSet) (events : List TrafficEvent)
    (hstores : (run catalog events).Undisturbed) : (run catalog events).Solvent := by
  have hfold : ∀ t : Traffic, t.Solvent → (events.foldl (Traffic.step catalog) t).Undisturbed →
      (events.foldl (Traffic.step catalog) t).Solvent := by
    clear hstores
    induction events with
    | nil => exact fun t ht _ => ht
    | cons e rest ih =>
        intro t ht hstores
        refine ih _ (ht.step catalog e fun o ho => hstores o ?_) hstores
        exact (later_run catalog rest _).history.mem ho
  exact hfold {} ⟨List.forall_mem_nil _, List.forall_mem_nil _⟩ hstores

/-- Once all calls have ended, and no store has failed, what is owed was done. -/
theorem Solvent.done {t : Traffic} (h : t.Solvent) (hstores : t.Undisturbed) (hidle : t.Idle)
    {o : Occurrence Backend} {owed : BackendRequest} (ho : o ∈ t.record.history)
    (howed : o.owes? = some owed) : ∃ a, .asked owed (.ok a) ∈ t.record.history := by
  obtain ⟨answer, hmem⟩ | ⟨s, hs, hasks⟩ := h.covered o ho owed howed
  · cases answer with
    | ok a => exact ⟨a, hmem⟩
    | error e =>
        have hfailed : (!owed.toStore) = true := hstores _ hmem
        rw [toStore_of_owes howed] at hfailed
        cases hfailed
  · have hended := hidle s hs
    rw [hasks.not_ended] at hended
    cases hended

/-! ## Counts that come back -/

/-- A count was dropped, and was started or counted up again afterwards. -/
def Revived (id : RuleId) (history : List (Occurrence Backend)) : Prop :=
  (∃ o ∈ history, o.drops id.key = true) ∧ Counted id history

section

variable {t : Traffic}

/-- The rule of a count that was dropped is gone. -/
theorem not_contains_of_dropped (h : t.InOrder) {id : RuleId}
    (hdrop : ∃ o ∈ t.record.history, o.drops id.key = true) :
    t.record.state.rules.contains id = false := by
  obtain ⟨o, ho, hid⟩ := hdrop
  exact (h.record.tallied.dropped o ho id hid).2

/-- Once all calls have ended, every rule has its count. -/
theorem counted_of_contains (h : t.InOrder) (hs : t.Solvent) (hstores : t.Undisturbed)
    (hidle : t.Idle) {n : Int} (hn : t.record.state.rules.contains (.number n) = true) :
    Counted (.number n) t.record.history := by
  obtain ⟨m, hkey, hissued⟩ := h.record.numbered.rules.issued_of_contains hn
  cases hkey
  obtain ⟨o, ho, hhanded⟩ := List.mem_filterMap.mp ((h.record.numbered.issued n).mpr hissued)
  obtain ⟨a, hstarted⟩ := hs.done hstores hidle ho (owes_of_handedOut hhanded)
  refine counted_of_touches hstarted (decide_eq_true rfl) fun o' ho' => ?_
  rw [← Bool.not_eq_true]
  intro hdrop
  rw [not_contains_of_dropped h ⟨o', ho', hdrop⟩] at hn
  cases hn

/-- Once all calls have ended, the count of every rule that is gone was dropped. -/
theorem dropped_of_retired (h : t.InOrder) (hs : t.Solvent) (hstores : t.Undisturbed)
    (hidle : t.Idle) {id : RuleId} (hid : t.record.state.rules.Retired id) :
    ∃ o ∈ t.record.history, o.drops id.key = true := by
  obtain ⟨other, hkey, hmem⟩ := h.record.numbered.gone id hid
  obtain ⟨a, hdropped⟩ := hs.done hstores hidle hmem rfl
  exact ⟨_, hdropped, decide_eq_true hkey⟩

end

/-- **Counts and rules come apart exactly where a dropped count comes back.**  Take any run in which
no store has failed and all calls have ended.  Then the counts can be listed, a number is listed
with a count exactly if a rule of this number is listed or the count of this number was dropped and
came back, and of these never both. -/
theorem count_listed_iff (catalog : List RuleSet) (events : List TrafficEvent)
    (hstores : (run catalog events).Undisturbed) (hidle : (run catalog events).Idle) :
    ∃ stats, (run catalog events).record.state.counts.toList = .ok stats ∧
      (∀ stat ∈ stats, ∃ n, stat.ruleId = .number n) ∧
      ∀ n, ((∃ stat ∈ stats, stat.ruleId = .number n) ↔
          (∃ r ∈ (run catalog events).record.state.rules.toList, r.id = .int n) ∨
            Revived (.number n) (run catalog events).record.history) ∧
        ¬ ((∃ r ∈ (run catalog events).record.state.rules.toList, r.id = .int n) ∧
          Revived (.number n) (run catalog events).record.history) := by
  have horder := inOrder_run catalog events
  have hsolvent := solvent_run catalog events hstores
  obtain ⟨hnumbered, htallied⟩ := horder.record
  obtain ⟨stats, hstats, hlisted⟩ := htallied.counts.exists_toList
  refine ⟨stats, hstats, fun stat hstat => ?_, fun n => ⟨?_, ?_⟩⟩
  · obtain ⟨n, hid, -⟩ := (hlisted stat.ruleId).mp ⟨stat, hstat, rfl⟩
    exact ⟨n, hid⟩
  · have hcount : (∃ stat ∈ stats, stat.ruleId = .number n) ↔
        Counted (.number n) (run catalog events).record.history := by
      rw [hlisted, ← htallied.present]
      exact ⟨fun ⟨_, _, h⟩ => h, fun h => ⟨n, rfl, h⟩⟩
    rw [hcount, ← hnumbered.rules.contains_iff]
    constructor
    · intro hcounted
      obtain ⟨before, o, after, heq, htouch, -⟩ := id hcounted
      have hmem : o ∈ (run catalog events).record.history :=
        heq ▸ List.mem_append_right before List.mem_cons_self
      have hissued := htallied.touched o hmem (.number n) htouch
      cases hcontains : (run catalog events).record.state.rules.contains (.number n) with
      | true => exact .inl rfl
      | false =>
          exact .inr ⟨dropped_of_retired horder hsolvent hstores hidle ⟨hissued, hcontains⟩,
            hcounted⟩
    · rintro (hcontains | hrevived)
      · exact counted_of_contains horder hsolvent hstores hidle hcontains
      · exact hrevived.2
  · rintro ⟨hrule, hrevived⟩
    rw [← hnumbered.rules.contains_iff, not_contains_of_dropped horder hrevived.1] at hrule
    cases hrule

/-- A rule is added and matches a user; it is deleted, and then the match is counted. -/
def lateMatch : List TrafficEvent :=
  .call (.add debitless) :: List.replicate 2 (.advance 0) ++
  .call (.recommend default) :: List.replicate 6 (.advance 1) ++
  .call (.delete (.number 1)) :: List.replicate 3 (.advance 2) ++ [.count 0]

theorem count_listed_iff_lateMatch :
    (run [] lateMatch).Undisturbed ∧ (run [] lateMatch).Idle ∧
      (run [] lateMatch).record.state.pending = [] ∧
      (run [] lateMatch).record.state.rules.toList.isEmpty = true ∧
      ∃ stats, (run [] lateMatch).record.state.counts.toList = .ok stats ∧
        ∃ stat ∈ stats, stat.ruleId = .number 1 := by
  have hstores : (run [] lateMatch).Undisturbed := by
    rw [Undisturbed]
    decide +kernel
  have hidle : (run [] lateMatch).Idle := by
    rw [Idle]
    decide +kernel
  have hcounted : Counted (.number 1) (run [] lateMatch).record.history :=
    ⟨_, .asked (.increment (.number 1)) (.ok ()), [], rfl, rfl, List.forall_mem_nil _⟩
  have hdropped : ∃ o ∈ (run [] lateMatch).record.history,
      o.drops (RuleId.key (.number 1)) = true := by
    decide +kernel
  obtain ⟨stats, hstats, -, hlisted⟩ := count_listed_iff [] lateMatch hstores hidle
  exact ⟨hstores, hidle, rfl, rfl, stats, hstats, (hlisted 1).1.mpr (.inr ⟨hdropped, hcounted⟩)⟩

end Traffic

end Recommender
