import Recommender.Proofs.Memo.Coherence

/-!
# Where values and answers come from

A session is looked at together with the events that led to it.  A load is *fresh* if it began after
the last of these events that cleared the memo; loads are numbered in the order in which they begin,
so the fresh ones are those from some number on.

What the memo remembers are values of fresh loads, and a caller is answered with the outcome of a
load that was fresh when the caller came, whatever happens between its coming and its answer.
-/

namespace Recommender

/-- Whether an event clears the memo. -/
def SessionEvent.isClear {V : Type} : SessionEvent V → Bool
  | .clear => true
  | _ => false

namespace Session

variable {V : Type}

/-- The session that events lead to from nothing on. -/
def reached (events : List (SessionEvent V)) : Session V :=
  ({} : Session V).run events

/-- The events up to the last one that clears the memo. -/
def upToClear (events : List (SessionEvent V)) : List (SessionEvent V) :=
  events.rdropWhile fun e => !e.isClear

/-- The number of the first load that begins after the last clearing. -/
def firstFresh (events : List (SessionEvent V)) : Nat :=
  (reached (upToClear events)).loads.length

/-- The key of a load. -/
def keyOf? (s : Session V) (n : Nat) : Option String :=
  (s.ticket? n).map (·.key)

/-- A load of a key, from number `since` on, has ended with an outcome. -/
def Provides (s : Session V) (key : String) (since : Nat) (o : Outcome V) : Prop :=
  ∃ n, since ≤ n ∧ s.keyOf? n = some key ∧ s.outcome? n = some o

/-! ## Fresh loads -/

theorem reached_append (first second : List (SessionEvent V)) :
    reached (first ++ second) = (reached first).run second :=
  run_append _ first second

theorem reached_concat (events : List (SessionEvent V)) (e : SessionEvent V) :
    reached (events ++ [e]) = (reached events).step e :=
  reached_append events [e]

theorem coherent_reached (events : List (SessionEvent V)) : (reached events).Coherent :=
  coherent_start.run events

theorem firstFresh_concat_clear (events : List (SessionEvent V)) :
    firstFresh (events ++ [.clear]) = (reached events).loads.length := by
  have hup : upToClear (events ++ [.clear]) = events ++ [.clear] :=
    List.rdropWhile_concat_neg _ _ _ (by simp [SessionEvent.isClear])
  rw [firstFresh, hup, reached_concat]
  rfl

theorem firstFresh_concat (events : List (SessionEvent V)) {e : SessionEvent V}
    (h : e ≠ .clear) : firstFresh (events ++ [e]) = firstFresh events := by
  have hup : upToClear (events ++ [e]) = upToClear events := by
    refine List.rdropWhile_concat_pos _ _ _ ?_
    cases e <;> simp_all [SessionEvent.isClear]
  rw [firstFresh, hup, firstFresh]

theorem firstFresh_le (events : List (SessionEvent V)) :
    firstFresh events ≤ (reached events).loads.length := by
  obtain ⟨rest, hrest⟩ := List.rdropWhile_prefix (fun e : SessionEvent V => !e.isClear) events
  have hext := (reached (upToClear events)).extends_run rest
  rw [← reached_append, upToClear, hrest] at hext
  exact hext.length_le

/-- A load belongs to the current generation exactly if it is fresh. -/
theorem generation_eq_iff (events : List (SessionEvent V)) {n : Nat} {t : LoadTicket}
    (h : (reached events).ticket? n = some t) :
    t.generation = (reached events).memo.generation ↔ firstFresh events ≤ n := by
  induction events using List.reverseRecOn generalizing t with
  | nil => simp [reached, ticket?] at h
  | append_singleton events e ih =>
      rw [reached_concat] at h ⊢
      by_cases hc : e = .clear
      · subst hc
        have hle := (coherent_reached events).generation_le n t h
        have hlt : n < (reached events).loads.length := lt_length_of_ticket? h
        have hgen : ((reached events).step .clear).memo.generation =
            (reached events).memo.generation + 1 := rfl
        rw [firstFresh_concat_clear, hgen]
        omega
      · rw [generation_step hc, firstFresh_concat events hc]
        obtain hold | ⟨-, -, hn, ht⟩ := ticket?_step h
        · exact ih hold
        · have hle := firstFresh_le events
          rw [ht, hn]
          simp only [true_iff]
          exact hle

/-- The loads of a key in the current generation are its fresh loads. -/
theorem current_iff (events : List (SessionEvent V)) (key : String) (n : Nat) :
    (reached events).Current key n ↔
      firstFresh events ≤ n ∧ (reached events).keyOf? n = some key := by
  simp only [Current, keyOf?, Option.map_eq_some_iff]
  constructor
  · rintro ⟨t, ht, hk, hg⟩
    exact ⟨(generation_eq_iff events ht).mp hg, t, ht, hk⟩
  · rintro ⟨hn, t, ht, hk⟩
    exact ⟨t, ht, hk, (generation_eq_iff events ht).mpr hn⟩

theorem keyOf?_of_ticket? {s : Session V} {n : Nat} {t : LoadTicket} (h : s.ticket? n = some t) :
    s.keyOf? n = some t.key := by
  rw [keyOf?, h, Option.map_some]

namespace Extends

variable {s s' : Session V}

theorem keyOf? (h : s.Extends s') {n : Nat} {key : String} (hk : s.keyOf? n = some key) :
    s'.keyOf? n = some key := by
  rw [Session.keyOf?, Option.map_eq_some_iff] at hk
  obtain ⟨t, ht, rfl⟩ := hk
  exact keyOf?_of_ticket? (h.ticket n t ht)

theorem provides (h : s.Extends s') {key : String} {since : Nat} {o : Outcome V}
    (hp : s.Provides key since o) : s'.Provides key since o := by
  obtain ⟨n, hn, hk, ho⟩ := hp
  exact ⟨n, hn, h.keyOf? hk, h.outcome n o ho⟩

end Extends

/-- The values remembered are values of fresh loads. -/
theorem provides_of_entry (events : List (SessionEvent V)) {key : String} {v : V}
    (h : Assoc.find? key (reached events).memo.entries = some v) :
    (reached events).Provides key (firstFresh events) (.value v) := by
  obtain ⟨n, hn, hs⟩ := ((coherent_reached events).entries_iff key v).mp h
  obtain ⟨hfresh, hkey⟩ := (current_iff events key n).mp hn
  exact ⟨n, hfresh, hkey, outcome?_of_settlement? hs⟩

/-- The loads in flight are fresh. -/
theorem fresh_of_inFlight (events : List (SessionEvent V)) {key : String} {n : Nat}
    (h : Assoc.find? key (reached events).memo.inFlight = some n) :
    firstFresh events ≤ n ∧ (reached events).keyOf? n = some key :=
  (current_iff events key n).mp (((coherent_reached events).inFlight_iff key n).mp h).1

/-- A load that is not fresh settles without a trace in the memo. -/
theorem memo_settle_of_not_fresh (events : List (SessionEvent V)) {n : Nat}
    (h : n < firstFresh events) :
    ((reached events).settle n).memo = (reached events).memo := by
  obtain he | ⟨t, o, hl, he⟩ := (reached events).settle_cases n
  · rw [he]
  · have hco := coherent_reached events
    have ht := ticket?_of_loads hl
    have hgen : t.generation ≠ (reached events).memo.generation := by
      rw [ne_eq, generation_eq_iff events ht]
      omega
    have hin : Assoc.find? t.key (reached events).memo.inFlight ≠ some t.number := by
      rw [hco.number_eq n t ht]
      intro hin
      have hle := (fresh_of_inFlight events hin).1
      omega
    have hsame : (reached events).memo.settle t o = (reached events).memo := by
      cases o <;> simp only [Memo.settle, if_neg hin, if_neg hgen]
    rw [he, hsame]

/-! ## Callers -/

/-- What has become of a caller of a key is due to loads of the key from number `since` on. -/
def Serves (s : Session V) (key : String) (since : Nat) : Caller V → Prop
  | .waiting n => since ≤ n ∧ s.keyOf? n = some key
  | .finished o => s.Provides key since o
  | .cancelled => True

theorem Extends.serves {s s' : Session V} (h : s.Extends s') {key : String} {since : Nat}
    {c : Caller V} (hc : s.Serves key since c) : s'.Serves key since c := by
  cases c with
  | waiting n => exact ⟨hc.1, h.keyOf? hc.2⟩
  | finished o => exact h.provides hc
  | cancelled => trivial

/-- Where a caller stands after an event. -/
def afterEvent (s : Session V) (caller : Nat) (c : Caller V) : SessionEvent V → Caller V
  | .resume n => if n = caller then s.afterResuming c else c
  | .cancel n => if n = caller then c.afterCancelling else c
  | _ => c

theorem callers_step {s : Session V} (e : SessionEvent V) {caller : Nat} {c : Caller V}
    (h : s.callers[caller]? = some c) :
    (s.step e).callers[caller]? = some (s.afterEvent caller c e) := by
  have hlt : caller < s.callers.length := (List.getElem?_eq_some_iff.mp h).1
  cases e with
  | request key =>
      obtain ⟨v, hv⟩ | ⟨n, he, hn⟩ | hl := s.memo.lookout_cases key
      · rw [step, request_of_remembered hv, List.getElem?_append_left hlt, h]
        rfl
      · rw [step, request_of_inFlight he hn, List.getElem?_append_left hlt, h]
        rfl
      · rw [step, request_of_lacks hl, List.getElem?_append_left hlt, h]
        rfl
  | complete load o =>
      obtain he | ⟨t, -, he⟩ := s.complete_cases load o <;> rw [step, he] <;> exact h
  | settle load =>
      obtain he | ⟨t, o, -, he⟩ := s.settle_cases load <;> rw [step, he] <;> exact h
  | resume n => grind [step, resume, afterEvent]
  | cancel n => grind [step, cancel, afterEvent]
  | clear => exact h

/-- An event does not let a caller go on with anything but the load that it waits for. -/
theorem serves_step {s : Session V} (e : SessionEvent V) (caller : Nat) {c : Caller V}
    {key : String} {since : Nat} (hc : s.Serves key since c) :
    (s.step e).Serves key since (s.afterEvent caller c e) := by
  refine (s.extends_step e).serves ?_
  cases e with
  | resume n =>
      rw [afterEvent]
      split
      · cases c with
        | waiting m =>
            rw [afterResuming]
            cases hs : s.settlement? m with
            | none => exact hc
            | some o => exact ⟨m, hc.1, hc.2, outcome?_of_settlement? hs⟩
        | finished o => exact hc
        | cancelled => trivial
      · exact hc
  | cancel n =>
      rw [afterEvent]
      split
      · cases c with
        | waiting m => trivial
        | finished o => exact hc
        | cancelled => trivial
      · exact hc
  | request key => exact hc
  | complete load o => exact hc
  | settle load => exact hc
  | clear => exact hc

/-- No event but its own cancellation makes a caller a cancelled one. -/
theorem cancelled_of_afterEvent {s : Session V} {e : SessionEvent V} {caller : Nat} {c : Caller V}
    (h : s.afterEvent caller c e = .cancelled) : c = .cancelled ∨ e = .cancel caller := by
  cases e with
  | resume n =>
      rw [afterEvent] at h
      split at h
      · cases c with
        | waiting m =>
            rw [afterResuming] at h
            cases hs : s.settlement? m <;> rw [hs] at h <;> cases h
        | finished o => cases h
        | cancelled => exact .inl rfl
      · exact .inl h
  | cancel n =>
      rw [afterEvent] at h
      split at h
      · next hn => exact .inr (by rw [hn])
      · exact .inl h
  | request key => exact .inl h
  | complete load o => exact .inl h
  | settle load => exact .inl h
  | clear => exact .inl h

/-- A caller that loads of its key serve is served by them through every run. -/
theorem serves_run {s : Session V} {caller : Nat} {c : Caller V} {key : String} {since : Nat}
    (h : s.callers[caller]? = some c) (hc : s.Serves key since c)
    (events : List (SessionEvent V)) :
    ∃ c', (s.run events).callers[caller]? = some c' ∧ (s.run events).Serves key since c' ∧
      (c' = .cancelled → c = .cancelled ∨ .cancel caller ∈ events) := by
  induction events generalizing s c with
  | nil => exact ⟨c, h, hc, .inl⟩
  | cons e rest ih =>
      obtain ⟨c', hc', hserves, hcan⟩ :=
        ih (callers_step e h) (serves_step e caller hc)
      refine ⟨c', hc', hserves, fun hx => ?_⟩
      obtain hmid | hmem := hcan hx
      · obtain hold | he := cancelled_of_afterEvent hmid
        · exact .inl hold
        · exact .inr (he ▸ List.mem_cons_self)
      · exact .inr (List.mem_cons_of_mem e hmem)

/-- A caller that has just come stands where the fresh loads of its key have put it. -/
theorem serves_request (events : List (SessionEvent V)) (key : String) :
    ∃ c, ((reached events).request key).callers[(reached events).callers.length]? = some c ∧
      ((reached events).request key).Serves key (firstFresh events) c ∧ c ≠ .cancelled := by
  have hext := (reached events).extends_request key
  obtain ⟨v, hv⟩ | ⟨n, he, hn⟩ | hl := (reached events).memo.lookout_cases key
  · refine ⟨.finished (.value v), ?_, hext.provides (provides_of_entry events hv), nofun⟩
    rw [request_of_remembered hv, List.getElem?_concat_length]
  · obtain ⟨hfresh, hkey⟩ := fresh_of_inFlight events hn
    refine ⟨(reached events).joining n, ?_, ?_⟩
    · rw [request_of_inFlight he hn, List.getElem?_concat_length]
    · rw [joining]
      cases ho : (reached events).outcome? n with
      | none => exact ⟨⟨hfresh, hext.keyOf? hkey⟩, nofun⟩
      | some o => exact ⟨hext.provides ⟨n, hfresh, hkey, ho⟩, nofun⟩
  · have hbegun := (coherent_reached events).begun_eq
    refine ⟨.waiting (reached events).memo.begun, ?_, ⟨?_, ?_⟩, nofun⟩
    · rw [request_of_lacks hl, List.getElem?_concat_length]
    · rw [hbegun]
      exact firstFresh_le events
    · have ht := ticket?_request_of_lacks hl (reached events).loads.length
      rw [if_pos rfl] at ht
      rw [hbegun]
      exact keyOf?_of_ticket? ht

/-- **Values and answers are fresh**, whatever happens in whatever order: the memo remembers values
of fresh loads only; a caller of a key is answered, unless it was cancelled, with the outcome of a
load of the key that was fresh when the caller came; and a load that is not fresh any more leaves no
trace in the memo when it settles, also while a fresh load of its key is in flight. -/
theorem values_and_answers_are_fresh (events : List (SessionEvent V)) :
    (∀ key v, (key, v) ∈ (reached events).memo.entries →
      (reached events).Provides key (firstFresh events) (.value v)) ∧
    (∀ before key after, events = before ++ .request key :: after →
      ∃ c, (reached events).callers[(reached before).callers.length]? = some c ∧
        (reached events).Serves key (firstFresh before) c ∧
        (c = .cancelled → .cancel (reached before).callers.length ∈ after)) ∧
    (∀ n < firstFresh events, ((reached events).settle n).memo = (reached events).memo) := by
  refine ⟨?_, ?_, fun n hn => memo_settle_of_not_fresh events hn⟩
  · intro key v hmem
    have hnodup := (coherent_reached events).nodup_entries
    exact provides_of_entry events (Assoc.find?_eq_some_of_mem hnodup hmem)
  · rintro before key after rfl
    obtain ⟨c, hc, hserves, hne⟩ := serves_request before key
    obtain ⟨c', hc', hserves', hcan⟩ := serves_run hc hserves after
    rw [reached_append, run_cons]
    refine ⟨c', hc', hserves', fun hx => ?_⟩
    obtain hold | hmem := hcan hx
    · exact absurd hold hne
    · exact hmem

/-- A load that is overtaken by a clearing and by a fresh load of its key. -/
def overtaken : List (SessionEvent Nat) :=
  [.request "k", .clear, .request "k", .complete 1 (.value 2), .settle 1, .request "k",
    .complete 0 (.value 1), .settle 0, .resume 0, .resume 1]

theorem values_and_answers_are_fresh_overtaken :
    (reached overtaken).Provides "k" 1 (.value 2) ∧
      (reached overtaken).callers =
        [.finished (.value 1), .finished (.value 2), .finished (.value 2)] ∧
      (∃ c, (reached overtaken).callers[1]? = some c ∧ (reached overtaken).Serves "k" 1 c) ∧
      ((reached overtaken).settle 0).memo = (reached overtaken).memo := by
  obtain ⟨hvalues, hanswers, hstale⟩ := values_and_answers_are_fresh overtaken
  obtain ⟨c, hc, hserves, -⟩ := hanswers [.request "k", .clear] "k" _ rfl
  exact ⟨hvalues "k" 2 (by decide), by rfl, ⟨c, hc, hserves⟩, hstale 0 (by decide)⟩

end Session

end Recommender
