import Recommender.Proofs.Memo.Provenance

/-!
# Callers that wait

Once a load has ended there is work to do: the memo takes notice of the outcome, and each of the
callers that wait for the load has its turn.  A session is *quiet* when all such work is done.  From
every state work leads to a quiet session, since each piece of it leaves less to do.

In a quiet session nobody waits in vain.  A caller is bound to the load that its request has met,
for its own key, and stays so when the memo is cleared and when another load of the key takes the
place of the first one in the table of loads in flight: it waits exactly as long as its load is
unsettled, and all callers of a load go on with its outcome.
-/

namespace Recommender

/-- The number of the load that a request joins or begins. -/
def Lookout.load? {V : Type} : Lookout V → Option Nat
  | .remembered _ => none
  | .joined n => some n
  | .began t => some t.number

/-- A load has ended, and nobody has been told. -/
def LoadStage.isCompleted {V : Type} : LoadStage V → Bool
  | .completed _ => true
  | _ => false

def Caller.isWaiting {V : Type} : Caller V → Bool
  | .waiting _ => true
  | _ => false

/-- Whether an event is a request. -/
def SessionEvent.isRequest {V : Type} : SessionEvent V → Bool
  | .request _ => true
  | _ => false

/-- Whether an event is work that a load which has ended leaves to do. -/
def SessionEvent.isWork {V : Type} : SessionEvent V → Bool
  | .settle _ => true
  | .resume _ => true
  | _ => false

/-- Putting an element that does not count in the place of one that does lowers the count. -/
theorem countP_set_lt {α : Type} {p : α → Bool} {l : List α} {i : Nat} {a b : α}
    (hi : l[i]? = some a) (ha : p a = true) (hb : p b = false) :
    (l.set i b).countP p < l.countP p := by
  obtain ⟨hlt, rfl⟩ := List.getElem?_eq_some_iff.mp hi
  have hpos : 0 < l.countP p := List.countP_pos_iff.mpr ⟨_, List.getElem_mem hlt, ha⟩
  rw [List.countP_set hlt, ha, hb]
  simp only [if_true, Bool.false_eq_true, if_false]
  omega

namespace Session

variable {V : Type}

/-- All work is done: no piece of it changes anything any more. -/
def Quiet (s : Session V) : Prop :=
  ∀ e : SessionEvent V, e.isWork = true → s.step e = s

/-! ## Quiet sessions -/

/-- A turn changes something only for a caller whose load has settled. -/
theorem resume_cases (s : Session V) (i : Nat) :
    s.resume i = s ∨
    ∃ n o, s.callers[i]? = some (.waiting n) ∧ s.settlement? n = some o ∧
      s.resume i = { s with callers := s.callers.set i (.finished o) } := by
  rw [resume, List.modify_eq_set_getElem?]
  cases hc : s.callers[i]? with
  | none => exact .inl rfl
  | some c =>
      have hsame : s.callers.set i c = s.callers := by
        obtain ⟨hlt, rfl⟩ := List.getElem?_eq_some_iff.mp hc
        exact List.set_getElem_self hlt
      have hstay : s.afterResuming c = c →
          { s with callers := s.callers.set i (s.afterResuming c) } = s := by
        intro h
        rw [h, hsame]
      cases c with
      | waiting n =>
          cases hs : s.settlement? n with
          | none => exact .inl (hstay (by rw [afterResuming, hs]; rfl))
          | some o => exact .inr ⟨n, o, rfl, hs, by simp [afterResuming, hs]⟩
      | finished o => exact .inl (hstay rfl)
      | cancelled => exact .inl (hstay rfl)

/-- In a quiet session every load that has ended has settled. -/
theorem Quiet.settlement?_eq {s : Session V} (h : s.Quiet) (n : Nat) :
    s.settlement? n = s.outcome? n := by
  cases hl : s.loads[n]? with
  | none => rw [settlement?, outcome?, hl]; rfl
  | some l =>
      obtain ⟨t, stage⟩ := l
      rw [settlement?_of_loads hl, outcome?_of_loads hl]
      cases stage with
      | running => rfl
      | settled o => rfl
      | completed o =>
          -- The load could still settle, and that would show.
          have hsame : s.settle n = s := h (.settle n) rfl
          have hsettled := settlement?_settle_of_completed hl n
          rw [if_pos rfl, hsame, settlement?_of_loads hl] at hsettled
          cases hsettled

/-- In a quiet session nobody waits for a load that has settled. -/
theorem Quiet.unsettled {s : Session V} (h : s.Quiet) {i n : Nat}
    (hi : s.callers[i]? = some (.waiting n)) : s.settlement? n = none := by
  have hturn := callers_step (.resume i) hi
  rw [h (.resume i) rfl, hi, afterEvent, if_pos rfl, afterResuming] at hturn
  cases hs : s.settlement? n with
  | none => rfl
  | some o => rw [hs] at hturn; cases hturn

/-- A session is quiet when every load that has ended has settled and nobody waits for a load that
has. -/
theorem quiet_iff (s : Session V) :
    s.Quiet ↔ (∀ n, s.settlement? n = s.outcome? n) ∧
      ∀ i n : Nat, s.callers[i]? = some (.waiting n) → s.settlement? n = none := by
  constructor
  · exact fun h => ⟨h.settlement?_eq, fun _ _ => h.unsettled⟩
  · rintro ⟨hloads, hcallers⟩ e he
    cases e with
    | settle n =>
        obtain hsame | ⟨t, o, hl, -⟩ := s.settle_cases n
        · exact hsame
        · have hn := hloads n
          rw [settlement?_of_loads hl, outcome?_of_loads hl] at hn
          cases hn
    | resume i =>
        obtain hsame | ⟨n, o, hi, hs, -⟩ := s.resume_cases i
        · exact hsame
        · rw [hcallers i n hi] at hs
          cases hs
    | request key => cases he
    | complete load o => cases he
    | cancel caller => cases he
    | clear => cases he

/-- At most so many pieces of work are left: one for each load that has ended and not settled, and
one for each caller that waits. -/
def workLeft (s : Session V) : Nat :=
  s.loads.countP (·.stage.isCompleted) + s.callers.countP (·.isWaiting)

/-- Work that changes anything leaves less to do. -/
theorem workLeft_step_lt {s : Session V} {e : SessionEvent V} (he : e.isWork = true)
    (h : s.step e ≠ s) : (s.step e).workLeft < s.workLeft := by
  cases e with
  | settle n =>
      obtain hsame | ⟨t, o, hl, hset⟩ := s.settle_cases n
      · exact absurd hsame h
      · rw [step, hset]
        exact Nat.add_lt_add_right (countP_set_lt hl rfl rfl) _
  | resume i =>
      obtain hsame | ⟨n, o, hi, -, hset⟩ := s.resume_cases i
      · exact absurd hsame h
      · rw [step, hset]
        exact Nat.add_lt_add_left (countP_set_lt hi rfl rfl) _
  | request key => cases he
  | complete load o => cases he
  | cancel caller => cases he
  | clear => cases he

/-- Work leads to a quiet session. -/
theorem exists_quiet (s : Session V) :
    ∃ work : List (SessionEvent V), (∀ e ∈ work, e.isWork = true) ∧ (s.run work).Quiet := by
  induction hleft : s.workLeft using Nat.strong_induction_on generalizing s with
  | _ left ih =>
      subst hleft
      by_cases hq : s.Quiet
      · exact ⟨[], by simp, hq⟩
      · rw [Quiet] at hq
        push Not at hq
        obtain ⟨e, he, hne⟩ := hq
        obtain ⟨work, hwork, hquiet⟩ := ih _ (workLeft_step_lt he hne) (s.step e) rfl
        refine ⟨e :: work, ?_, hquiet⟩
        rintro e' (_ | ⟨_, hmem⟩)
        · exact he
        · exact hwork e' hmem

/-! ## What becomes of a caller -/

/-- An event leaves a caller where it stands, lets it go on with the outcome of its load, or cancels
it while it waits. -/
theorem afterEvent_cases (s : Session V) (i : Nat) (c : Caller V) (e : SessionEvent V) :
    s.afterEvent i c e = c ∨
    (∃ n o, c = .waiting n ∧ s.settlement? n = some o ∧ s.afterEvent i c e = .finished o) ∨
    (∃ n, c = .waiting n ∧ e = .cancel i ∧ s.afterEvent i c e = .cancelled) := by
  cases e with
  | resume j =>
      by_cases hj : j = i
      · cases c with
        | waiting n =>
            cases hs : s.settlement? n with
            | none => exact .inl (by rw [afterEvent, if_pos hj, afterResuming, hs]; rfl)
            | some o =>
                refine .inr (.inl ⟨n, o, rfl, hs, ?_⟩)
                rw [afterEvent, if_pos hj, afterResuming, hs]
                rfl
        | finished o => exact .inl (if_pos hj)
        | cancelled => exact .inl (if_pos hj)
      · exact .inl (if_neg hj)
  | cancel j =>
      by_cases hj : j = i
      · cases c with
        | waiting n => exact .inr (.inr ⟨n, rfl, by rw [hj], if_pos hj⟩)
        | finished o => exact .inl (if_pos hj)
        | cancelled => exact .inl (if_pos hj)
      · exact .inl (if_neg hj)
  | request key => exact .inl rfl
  | complete load o => exact .inl rfl
  | settle load => exact .inl rfl
  | clear => exact .inl rfl

/-- A run leaves a caller where it stands, lets it go on with the outcome of its load, or cancels it
while it waits. -/
theorem callers_run_cases {s : Session V} {i : Nat} {c : Caller V} (h : s.callers[i]? = some c)
    (events : List (SessionEvent V)) :
    (s.run events).callers[i]? = some c ∨
    (∃ n o, c = .waiting n ∧ (s.run events).settlement? n = some o ∧
      (s.run events).callers[i]? = some (.finished o)) ∨
    (∃ n, c = .waiting n ∧ .cancel i ∈ events ∧
      (s.run events).callers[i]? = some .cancelled) := by
  induction events generalizing s c with
  | nil => exact .inl h
  | cons e rest ih =>
      have hnext := callers_step e h
      obtain hsame | ⟨n, o, rfl, hs, hgone⟩ | ⟨n, rfl, rfl, hgone⟩ := s.afterEvent_cases i c e
      · rw [hsame] at hnext
        obtain hkept | hfinished | ⟨n, hc, hmem, hcancelled⟩ := ih hnext
        · exact .inl hkept
        · exact .inr (.inl hfinished)
        · exact .inr (.inr ⟨n, hc, List.mem_cons_of_mem e hmem, hcancelled⟩)
      · rw [hgone] at hnext
        obtain hkept | ⟨n', o', hc, -⟩ | ⟨n', hc, -⟩ := ih hnext
        · have hext := (s.extends_step e).trans ((s.step e).extends_run rest)
          exact .inr (.inl ⟨n, o, rfl, hext.settlement n o hs, hkept⟩)
        · cases hc
        · cases hc
      · rw [hgone] at hnext
        obtain hkept | ⟨n', o', hc, -⟩ | ⟨n', hc, -⟩ := ih hnext
        · exact .inr (.inr ⟨n, rfl, List.mem_cons_self, hkept⟩)
        · cases hc
        · cases hc

/-! ## Where callers come from -/

/-- Where a caller stands that has just requested a key. -/
def newcomer (s : Session V) (key : String) : Caller V :=
  match (s.memo.request key).1 with
  | .remembered v => .finished (.value v)
  | .joined n => s.joining n
  | .began t => .waiting t.number

theorem callers_request (s : Session V) (key : String) :
    (s.request key).callers = s.callers ++ [s.newcomer key] := by
  unfold request newcomer
  split <;> simp_all

theorem getElem?_callers_request (s : Session V) (key : String) :
    (s.request key).callers[s.callers.length]? = some (s.newcomer key) := by
  rw [callers_request, List.getElem?_concat_length]

/-- A caller that meets a load is bound to it, whether it has begun the load or joins it. -/
theorem newcomer_of_load? {s : Session V} (h : s.Coherent) {key : String} {n : Nat}
    (hn : (s.memo.request key).1.load? = some n) : s.newcomer key = s.joining n := by
  unfold newcomer
  obtain ⟨v, hv⟩ | ⟨m, he, hm⟩ | hl := s.memo.lookout_cases key
  · rw [Memo.request_of_remembered hv] at hn
    cases hn
  · rw [Memo.request_of_inFlight he hm] at hn ⊢
    rw [← Option.some.inj hn]
  · rw [Memo.request_of_lacks hl] at hn ⊢
    have hlen : n = s.loads.length := by rw [← h.begun_eq, ← Option.some.inj hn]
    have hnone : s.outcome? n = none := by simp [outcome?, hlen]
    rw [joining, hnone, ← Option.some.inj hn]
    rfl

/-- A request brings a caller, and no other event does. -/
theorem length_callers_step (s : Session V) (e : SessionEvent V) :
    (s.step e).callers.length = s.callers.length + e.isRequest.toNat := by
  cases e with
  | request key => rw [step, callers_request, List.length_append]; rfl
  | complete load o => obtain he | ⟨t, -, he⟩ := s.complete_cases load o <;> rw [step, he] <;> rfl
  | settle load => obtain he | ⟨t, o, -, he⟩ := s.settle_cases load <;> rw [step, he] <;> rfl
  | resume i => exact List.length_modify ..
  | cancel i => exact List.length_modify ..
  | clear => rfl

/-- Whoever is a caller after an event was one before, or has come by it. -/
theorem callers_step_cases {s : Session V} {e : SessionEvent V} {i : Nat} {c : Caller V}
    (h : (s.step e).callers[i]? = some c) :
    (∃ c', s.callers[i]? = some c' ∧ c = s.afterEvent i c' e) ∨
    (∃ key, e = .request key ∧ i = s.callers.length ∧ c = s.newcomer key) := by
  by_cases hi : i < s.callers.length
  · have hold := List.getElem?_eq_getElem hi
    exact .inl ⟨_, hold, Option.some.inj (h.symm.trans (callers_step e hold))⟩
  · have hlt := (List.getElem?_eq_some_iff.mp h).1
    rw [length_callers_step] at hlt
    cases e with
    | request key =>
        have hone : (SessionEvent.request key : SessionEvent V).isRequest.toNat = 1 := rfl
        obtain rfl : i = s.callers.length := by omega
        exact .inr ⟨key, rfl, rfl, Option.some.inj (h.symm.trans (s.getElem?_callers_request key))⟩
    | _ => exact absurd hlt hi

/-- Every caller has come by a request. -/
theorem exists_request {events : List (SessionEvent V)} {i : Nat} {c : Caller V}
    (h : (reached events).callers[i]? = some c) :
    ∃ before key after, events = before ++ .request key :: after ∧
      (reached before).callers.length = i := by
  induction events using List.reverseRecOn generalizing c with
  | nil => simp [reached] at h
  | append_singleton events e ih =>
      rw [reached_concat] at h
      obtain ⟨c', hc', -⟩ | ⟨key, rfl, rfl, -⟩ := callers_step_cases h
      · obtain ⟨before, key, after, rfl, hlen⟩ := ih hc'
        exact ⟨before, key, after ++ [e], by simp, hlen⟩
      · exact ⟨events, key, [], rfl, rfl⟩

/-- Whoever waits, waits for a load of the key that it has requested. -/
theorem exists_request_of_waiting {events : List (SessionEvent V)} {i n : Nat}
    (hi : (reached events).callers[i]? = some (.waiting n)) :
    ∃ before key after, events = before ++ .request key :: after ∧
      (reached before).callers.length = i ∧ (reached events).keyOf? n = some key := by
  obtain ⟨before, key, after, rfl, rfl⟩ := exists_request hi
  obtain ⟨c, hc, hserves, -⟩ := serves_request before key
  obtain ⟨c', hc', hserves', -⟩ := serves_run hc hserves after
  rw [reached_append, run_cons] at hi ⊢
  have heq : c' = .waiting n := Option.some.inj (hc'.symm.trans hi)
  rw [heq] at hserves'
  exact ⟨before, key, after, rfl, rfl, hserves'.2⟩

/-- A caller that has met a load is bound to it through every run: it waits for the load, has gone
on with its outcome, or was cancelled. -/
theorem caller_of_load? {s : Session V} (h : s.Coherent) {key : String} {n : Nat}
    (hn : (s.memo.request key).1.load? = some n) (after : List (SessionEvent V)) :
    ((s.request key).run after).callers[s.callers.length]? = some (.waiting n) ∨
    (∃ o, ((s.request key).run after).outcome? n = some o ∧
      ((s.request key).run after).callers[s.callers.length]? = some (.finished o)) ∨
    (.cancel s.callers.length ∈ after ∧
      ((s.request key).run after).callers[s.callers.length]? = some .cancelled) := by
  have hnew := s.getElem?_callers_request key
  rw [newcomer_of_load? h hn, joining] at hnew
  cases ho : s.outcome? n with
  | some o =>
      have hext := (s.extends_request key).trans ((s.request key).extends_run after)
      rw [ho] at hnew
      obtain hkept | ⟨m, p, hc, -⟩ | ⟨m, hc, -⟩ := callers_run_cases hnew after
      · exact .inr (.inl ⟨o, hext.outcome n o ho, hkept⟩)
      · cases hc
      · cases hc
  | none =>
      rw [ho] at hnew
      obtain hkept | ⟨m, o, hc, hs, hgone⟩ | ⟨m, -, hmem, hgone⟩ := callers_run_cases hnew after
      · exact .inl hkept
      · cases hc
        exact .inr (.inl ⟨o, outcome?_of_settlement? hs, hgone⟩)
      · exact .inr (.inr ⟨hmem, hgone⟩)

/-! ## Quiet sessions have no lost callers -/

/-- In a quiet session a caller that has met a load waits if the load is unsettled and otherwise has
gone on with its outcome, unless the caller was cancelled. -/
theorem caller_of_quiet {s : Session V} (h : s.Coherent) {key : String} {n : Nat}
    (hn : (s.memo.request key).1.load? = some n) {after : List (SessionEvent V)}
    (hq : ((s.request key).run after).Quiet) :
    ∃ c, ((s.request key).run after).callers[s.callers.length]? = some c ∧
      (c = (((s.request key).run after).settlement? n).elim (.waiting n) .finished ∨
        c = .cancelled ∧ .cancel s.callers.length ∈ after) := by
  obtain hwaits | ⟨o, ho, hgone⟩ | ⟨hmem, hgone⟩ := caller_of_load? h hn after
  · have hs := hq.unsettled hwaits
    exact ⟨_, hwaits, .inl (by rw [hs]; rfl)⟩
  · have hs := (hq.settlement?_eq n).trans ho
    exact ⟨_, hgone, .inl (by rw [hs]; rfl)⟩
  · exact ⟨_, hgone, .inr ⟨rfl, hmem⟩⟩

/-- **No caller is lost**, whatever has happened in whatever order.  The work that is left leads to
a quiet session; and in a quiet session whoever waits, waits for a load of its own key that has not
ended; the callers that have met a load, be it by beginning or by joining it, all wait if it is
unsettled and have all gone on with its outcome if it has settled, unless they were cancelled; and
if every load that has begun has settled, then nobody waits and no load is in flight. -/
theorem no_caller_is_lost (events : List (SessionEvent V)) :
    (∃ work : List (SessionEvent V), (∀ e ∈ work, e.isWork = true) ∧
      (reached (events ++ work)).Quiet) ∧
    ((reached events).Quiet →
      (∀ i n : Nat, (reached events).callers[i]? = some (.waiting n) →
        (reached events).outcome? n = none ∧
        ∃ before key after, events = before ++ .request key :: after ∧
          (reached before).callers.length = i ∧ (reached events).keyOf? n = some key) ∧
      (∀ before key after n, events = before ++ .request key :: after →
        ((reached before).memo.request key).1.load? = some n →
        ∃ c, (reached events).callers[(reached before).callers.length]? = some c ∧
          (c = ((reached events).settlement? n).elim (.waiting n) .finished ∨
            c = .cancelled ∧ .cancel (reached before).callers.length ∈ after)) ∧
      ((∀ n < (reached events).loads.length, (reached events).settlement? n ≠ none) →
        (∀ i n : Nat, (reached events).callers[i]? ≠ some (.waiting n)) ∧
        (reached events).memo.inFlight = [])) := by
  constructor
  · obtain ⟨work, hwork, hq⟩ := exists_quiet (reached events)
    exact ⟨work, hwork, by rwa [reached_append]⟩
  · intro hq
    refine ⟨?_, ?_, fun hall => ⟨?_, ?_⟩⟩
    · intro i n hi
      exact ⟨by rw [← hq.settlement?_eq, hq.unsettled hi], exists_request_of_waiting hi⟩
    · rintro before key after n rfl hn
      rw [reached_append] at hq ⊢
      exact caller_of_quiet (coherent_reached before) hn hq
    · intro i n hi
      obtain ⟨-, key, -, -, -, hkey⟩ := exists_request_of_waiting hi
      rw [keyOf?, Option.map_eq_some_iff] at hkey
      obtain ⟨t, ht, -⟩ := hkey
      exact hall n (lt_length_of_ticket? ht) (hq.unsettled hi)
    · have h := coherent_reached events
      rw [List.eq_nil_iff_forall_not_mem]
      rintro ⟨key, n⟩ hmem
      obtain ⟨⟨t, ht, -, -⟩, hs⟩ :=
        (h.inFlight_iff key n).mp (Assoc.find?_eq_some_of_mem h.nodup_inFlight hmem)
      exact hall n (lt_length_of_ticket? ht) hs

/-- A caller waits for a load that a clearing has taken out of the table, while a newer load of its
key has come and has settled. -/
def displaced : List (SessionEvent Nat) :=
  [.request "k", .clear, .request "k", .complete 1 (.value 2), .settle 1, .resume 1]

/-- The load that was displaced settles too. -/
def caughtUp : List (SessionEvent Nat) :=
  displaced ++ [.complete 0 (.value 1), .settle 0, .resume 0]

theorem quiet_displaced : (reached displaced).Quiet := by
  refine (quiet_iff _).mpr ⟨?_, ?_⟩
  · rintro (_ | _ | n) <;> rfl
  · rintro (_ | _ | i) n h
    · cases h
      rfl
    · cases h
    · cases h

theorem quiet_caughtUp : (reached caughtUp).Quiet := by
  refine (quiet_iff _).mpr ⟨?_, ?_⟩
  · rintro (_ | _ | n) <;> rfl
  · rintro (_ | _ | i) n h <;> cases h

theorem no_caller_is_lost_displaced :
    (reached displaced).outcome? 0 = none ∧ (reached displaced).memo.inFlight = [] ∧
      (reached displaced).callers[1]? = some (.finished (.value 2)) ∧
      (∀ i n : Nat, (reached caughtUp).callers[i]? ≠ some (.waiting n)) := by
  obtain ⟨-, hquiet⟩ := no_caller_is_lost displaced
  obtain ⟨hwaiting, hbound, -⟩ := hquiet quiet_displaced
  obtain ⟨-, hquiet'⟩ := no_caller_is_lost caughtUp
  obtain ⟨-, -, hsettled⟩ := hquiet' quiet_caughtUp
  have hlen : (reached caughtUp).loads.length = 2 := rfl
  have hall : ∀ n < (reached caughtUp).loads.length, (reached caughtUp).settlement? n ≠ none := by
    rintro (_ | _ | n) hn
    · exact nofun
    · exact nofun
    · omega
  obtain ⟨c, hc, hfinished | ⟨-, hmem⟩⟩ :=
    hbound [.request "k", .clear] "k" [.complete 1 (.value 2), .settle 1, .resume 1] 1 rfl rfl
  · rw [hfinished] at hc
    exact ⟨(hwaiting 0 0 rfl).1, rfl, hc, (hsettled hall).1⟩
  · simp at hmem

end Session

end Recommender
