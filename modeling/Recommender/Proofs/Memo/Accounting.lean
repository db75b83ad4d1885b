import Recommender.Proofs.Aggregate.Snapshot
import Recommender.Proofs.Memo.SingleFlight
import Recommender.Proofs.Memo.Waiting

/-!
# The books of a memo

A memo counts what its requests have met, and it tells how many values it forgets.  These figures
balance in every session: each request is a hit or a miss, each miss has begun a load or joined one,
and each value that a load has brought in time, before the memo was cleared, is remembered or was
counted when it was forgotten.
-/

namespace Recommender

/-- The count of a result in the samples; a result that was never met is not sampled. -/
def RequestCounts.sampled (c : RequestCounts) (result : String) : Nat :=
  (Assoc.find? result c.nonzero).getD 0

theorem RequestCounts.sampled_hit (c : RequestCounts) : c.sampled "hit" = c.hit := by
  grind [sampled, nonzero, Assoc.find?]

theorem RequestCounts.sampled_miss (c : RequestCounts) : c.sampled "miss" = c.miss := by
  grind [sampled, nonzero, Assoc.find?]

theorem RequestCounts.sampled_coalesced (c : RequestCounts) :
    c.sampled "coalesced" = c.coalesced := by
  grind [sampled, nonzero, Assoc.find?]

/-- Settling a load touches nothing but the values and the loads in flight. -/
theorem Memo.settle_eq {V : Type} (m : Memo V) (t : LoadTicket) (o : Outcome V) :
    m.settle t o =
      { m with entries := (m.settle t o).entries, inFlight := (m.settle t o).inFlight } := by
  cases o <;> simp only [Memo.settle] <;> split_ifs <;> rfl

namespace Session

variable {V : Type}

/-! ## Requests -/

/-- So many requests have been made, and all of them are accounted for. -/
structure Balanced (s : Session V) (requests : Nat) : Prop where
  total : s.memo.hits + s.memo.misses = requests
  hits_eq : s.memo.hits = s.memo.counts.hit
  misses_eq : s.memo.misses = s.memo.counts.miss + s.memo.counts.coalesced
  begun_eq : s.memo.counts.miss = s.loads.length

namespace Balanced

variable {s : Session V} {requests : Nat}

theorem of_eq (h : s.Balanced requests) {s' : Session V} (hh : s'.memo.hits = s.memo.hits)
    (hm : s'.memo.misses = s.memo.misses) (hc : s'.memo.counts = s.memo.counts)
    (hl : s'.loads.length = s.loads.length) : s'.Balanced requests := by
  obtain ⟨htotal, hhits, hmisses, hbegun⟩ := h
  exact ⟨by rw [hh, hm, htotal], by rw [hh, hc, hhits], by rw [hm, hc, hmisses],
    by rw [hc, hl, hbegun]⟩

/-- A request is a hit, joins a load or begins one. -/
theorem request (h : s.Balanced requests) (key : String) :
    (s.request key).Balanced (requests + 1) := by
  obtain ⟨htotal, hhits, hmisses, hbegun⟩ := h
  obtain ⟨v, hv⟩ | ⟨n, he, hn⟩ | hl := s.memo.lookout_cases key
  · rw [request_of_remembered hv, Memo.request_of_remembered hv]
    refine ⟨?_, ?_, hmisses, hbegun⟩ <;> dsimp only <;> omega
  · rw [request_of_inFlight he hn, Memo.request_of_inFlight he hn]
    refine ⟨?_, hhits, ?_, hbegun⟩ <;> dsimp only <;> omega
  · rw [request_of_lacks hl, Memo.request_of_lacks hl]
    refine ⟨?_, hhits, ?_, ?_⟩
    · dsimp only
      omega
    · dsimp only
      omega
    · rw [List.length_append, List.length_singleton, ← hbegun]

/-- Every event keeps the books. -/
theorem step (h : s.Balanced requests) (e : SessionEvent V) :
    (s.step e).Balanced (requests + e.isRequest.toNat) := by
  cases e with
  | request key => exact h.request key
  | complete load o =>
      obtain he | ⟨t, -, he⟩ := s.complete_cases load o <;> rw [Session.step, he]
      · exact h
      · exact h.of_eq rfl rfl rfl (List.length_set ..)
  | settle load =>
      obtain he | ⟨t, o, -, he⟩ := s.settle_cases load <;> rw [Session.step, he]
      · exact h
      · rw [Memo.settle_eq]
        exact h.of_eq rfl rfl rfl (List.length_set ..)
  | resume caller => exact h.of_eq rfl rfl rfl rfl
  | cancel caller => exact h.of_eq rfl rfl rfl rfl
  | clear => exact h.of_eq rfl rfl rfl rfl

end Balanced

theorem balanced_reached (events : List (SessionEvent V)) :
    (reached events).Balanced (events.countP SessionEvent.isRequest) := by
  induction events using List.reverseRecOn with
  | nil => exact ⟨rfl, rfl, rfl, rfl⟩
  | append_singleton events e ih =>
      have hcount : [e].countP SessionEvent.isRequest = e.isRequest.toNat := by
        cases e <;> rfl
      rw [reached_concat, List.countP_append, hcount]
      exact ih.step e

/-! ## Where loads come from -/

/-- Clearing begins a generation that lasts. -/
theorem generation_lt_of_clear {s : Session V} {later : List (SessionEvent V)}
    (h : .clear ∈ later) : s.memo.generation < (s.run later).memo.generation := by
  induction later using List.reverseRecOn with
  | nil => cases h
  | append_singleton later e ih =>
      have hle : s.memo.generation ≤ (s.run later).memo.generation := by
        by_cases hmem : .clear ∈ later
        · exact Nat.le_of_lt (ih hmem)
        · exact Nat.le_of_eq (generation_run hmem).symm
      rw [run_append, run_cons, run_nil]
      by_cases he : e = .clear
      · subst he
        exact Nat.lt_succ_of_le hle
      · rw [generation_step he]
        refine ih ?_
        obtain hmem | hlast := List.mem_append.mp h
        · exact hmem
        · exact absurd (List.mem_singleton.mp hlast).symm he

/-- Every load was begun by a request for its key, in the generation of that moment. -/
theorem exists_beginning {events : List (SessionEvent V)} {n : Nat} {t : LoadTicket}
    (h : (reached events).ticket? n = some t) :
    ∃ before during, events = before ++ .request t.key :: during ∧
      n = (reached before).loads.length ∧ (reached before).memo.Lacks t.key ∧
      t.generation = (reached before).memo.generation := by
  induction events using List.reverseRecOn with
  | nil => simp [reached, ticket?] at h
  | append_singleton events e ih =>
      rw [reached_concat] at h
      obtain hold | ⟨hl, rfl, hn, ht⟩ := ticket?_step h
      · obtain ⟨before, during, rfl, hrest⟩ := ih hold
        exact ⟨before, during ++ [e], by simp, hrest⟩
      · exact ⟨events, [], rfl, hn, hl, by rw [ht]⟩

/-- A load that was begun by a request keeps the ticket that it got. -/
theorem ticket?_of_begins {before : List (SessionEvent V)} {key : String}
    (h : (reached before).Begins (.request key) key) (during : List (SessionEvent V)) :
    (reached (before ++ .request key :: during)).ticket? (reached before).loads.length =
      some ⟨(reached before).memo.begun, key, (reached before).memo.generation⟩ := by
  have hbegun : (reached (before ++ [.request key])).ticket? (reached before).loads.length =
      some ⟨(reached before).memo.begun, key, (reached before).memo.generation⟩ := by
    rw [reached_concat, step, ticket?_request_of_lacks ((begins_iff_lacks ..).mp h).2, if_pos rfl]
  have hkept := (extends_run (reached (before ++ [.request key])) during).ticket _ _ hbegun
  rwa [← reached_append, List.append_assoc, List.singleton_append] at hkept

/-- A load of the current generation was begun after the last clearing. -/
theorem Current.exists_beginning {events : List (SessionEvent V)} {key : String} {n : Nat}
    (h : (reached events).Current key n) :
    ∃ before during, events = before ++ .request key :: during ∧
      (reached before).Begins (.request key) key ∧ (reached before).loads.length = n ∧
      .clear ∉ during := by
  obtain ⟨t, ht, rfl, hg⟩ := h
  obtain ⟨before, during, rfl, hn, hlacks, hbegun⟩ := Session.exists_beginning ht
  refine ⟨before, during, rfl, (begins_iff_lacks ..).mpr ⟨rfl, hlacks⟩, hn.symm, fun hclear => ?_⟩
  have hlt := generation_lt_of_clear (s := reached before)
    (List.mem_cons_of_mem (.request t.key) hclear)
  rw [← reached_append, ← hg, hbegun] at hlt
  exact Nat.lt_irrefl _ hlt

/-- A load that was begun after the last clearing belongs to the current generation. -/
theorem current_of_begins {before during : List (SessionEvent V)} {key : String}
    (h : (reached before).Begins (.request key) key) (hclear : .clear ∉ during) :
    (reached (before ++ .request key :: during)).Current key (reached before).loads.length := by
  refine ⟨_, ticket?_of_begins h during, rfl, ?_⟩
  rw [reached_append, generation_run]
  simpa using hclear

/-! ## Values brought in time -/

/-- A load has ended with a value and can settle in its own generation. -/
def Ripe (s : Session V) (n : Nat) : Prop :=
  ∃ t v, s.loads[n]? = some ⟨t, .completed (.value v)⟩ ∧ t.generation = s.memo.generation

/-- A load has begun with a request and settled with a value, and the memo was not cleared between
the two. -/
def SucceededInTime (events : List (SessionEvent V)) (n : Nat) : Prop :=
  ∃ before key during after v, events = before ++ .request key :: (during ++ .settle n :: after) ∧
    (reached before).Begins (.request key) key ∧ (reached before).loads.length = n ∧
    (reached (before ++ .request key :: during)).settlement? n = none ∧
    (reached (before ++ .request key :: (during ++ [.settle n]))).settlement? n =
      some (.value v) ∧
    .clear ∉ during

theorem SucceededInTime.exists_settlement? {events : List (SessionEvent V)} {n : Nat}
    (h : SucceededInTime events n) : ∃ o, (reached events).settlement? n = some o := by
  obtain ⟨before, key, during, after, v, rfl, -, -, -, hs, -⟩ := h
  have hsplit : before ++ .request key :: (during ++ .settle n :: after) =
      (before ++ .request key :: (during ++ [.settle n])) ++ after := by simp
  rw [hsplit, reached_append]
  exact ⟨_, (extends_run _ after).settlement n _ hs⟩

theorem SucceededInTime.concat {events : List (SessionEvent V)} {n : Nat}
    (h : SucceededInTime events n) (e : SessionEvent V) : SucceededInTime (events ++ [e]) n := by
  obtain ⟨before, key, during, after, v, rfl, hrest⟩ := h
  exact ⟨before, key, during, after ++ [e], v, by simp, hrest⟩

/-- A ripe load succeeds in time when it settles. -/
theorem Ripe.succeededInTime {events : List (SessionEvent V)} {n : Nat}
    (h : (reached events).Ripe n) : SucceededInTime (events ++ [.settle n]) n := by
  obtain ⟨t, v, hl, hg⟩ := h
  have hcurrent : (reached events).Current t.key n := ⟨t, ticket?_of_loads hl, rfl, hg⟩
  obtain ⟨before, during, rfl, hbegins, hn, hclear⟩ := hcurrent.exists_beginning
  have hsettled := settlement?_settle_of_completed hl n
  rw [if_pos rfl] at hsettled
  refine ⟨before, t.key, during, [], v, by simp, hbegins, hn, settlement?_of_loads hl, ?_, hclear⟩
  rw [← List.cons_append, ← List.append_assoc, reached_concat]
  exact hsettled

/-- A load that an event lets succeed in time was ripe, and the event lets it settle. -/
theorem succeededInTime_concat_cases {events : List (SessionEvent V)} {e : SessionEvent V}
    {n : Nat} (h : SucceededInTime (events ++ [e]) n) :
    SucceededInTime events n ∨ (e = .settle n ∧ (reached events).Ripe n) := by
  obtain ⟨before, key, during, after, v, hevents, hbegins, hn, hnone, hs, hclear⟩ := h
  obtain rfl | ⟨after, last, rfl⟩ := List.eq_nil_or_concat after
  · rw [← List.cons_append, ← List.append_assoc] at hevents hs
    obtain ⟨rfl, hlast⟩ := List.append_inj' hevents rfl
    rw [reached_concat] at hs
    obtain hsame | ⟨t, o, hl, -⟩ :=
      (reached (before ++ .request key :: during)).settle_cases n
    · rw [step, hsame, hnone] at hs
      cases hs
    · rw [step, settlement?_settle_of_completed hl, if_pos rfl] at hs
      obtain ⟨t', ht, -, hg⟩ := current_of_begins hbegins hclear
      rw [hn, ticket?_of_loads hl] at ht
      cases ht
      rw [Option.some.inj hs] at hl
      exact .inr ⟨List.singleton_inj.mp hlast, t, v, hl, hg⟩
  · rw [List.concat_eq_append, ← List.cons_append, ← List.append_assoc, ← List.cons_append,
      ← List.append_assoc] at hevents
    obtain ⟨rfl, -⟩ := List.append_inj' hevents rfl
    exact .inl ⟨before, key, during, after, v, by simp, hbegins, hn, hnone, hs, hclear⟩

/-! ## Values forgotten -/

/-- How many values the memo says to have forgotten in a run. -/
def forgotten (s : Session V) : List (SessionEvent V) → Nat
  | [] => 0
  | e :: rest => (if e.isClear then s.memo.clear.1 else 0) + (s.step e).forgotten rest

theorem forgotten_concat (s : Session V) (events : List (SessionEvent V)) (e : SessionEvent V) :
    s.forgotten (events ++ [e]) =
      s.forgotten events + if e.isClear then (s.run events).memo.clear.1 else 0 := by
  induction events generalizing s with
  | nil => simp [forgotten]
  | cons first rest ih =>
      rw [List.cons_append, forgotten, ih, forgotten, run_cons, Nat.add_assoc]

/-- A ripe load brings a value when it settles. -/
theorem Ripe.length_entries {s : Session V} (h : s.Coherent) {n : Nat} (hn : s.Ripe n) :
    (s.settle n).memo.entries.length = s.memo.entries.length + 1 := by
  obtain ⟨t, v, hl, hg⟩ := hn
  have hinFlight := (h.inFlight_iff t.key n).mpr
    ⟨⟨t, ticket?_of_loads hl, rfl, hg⟩, settlement?_of_loads hl⟩
  have hnew : t.key ∉ Assoc.keys s.memo.entries :=
    Assoc.find?_eq_none_iff.mp (h.find?_entries_of_inFlight hinFlight)
  obtain hsame | ⟨t', o, hl', he⟩ := s.settle_cases n
  · have hsettled := settlement?_settle_of_completed hl n
    rw [if_pos rfl, hsame, settlement?_of_loads hl] at hsettled
    cases hsettled
  · rw [hl] at hl'
    cases hl'
    rw [he, Memo.entries_settle, if_pos hg, Outcome.value?, Option.elim_some, Assoc.length_put,
      if_neg hnew]

/-- Apart from ripe loads that settle, no event changes how many values have been brought. -/
theorem length_entries_step {s : Session V} {e : SessionEvent V}
    (h : ∀ n, e = .settle n → ¬ s.Ripe n) :
    (s.step e).memo.entries.length + (if e.isClear then s.memo.clear.1 else 0) =
      s.memo.entries.length := by
  cases e with
  | request key =>
      obtain ⟨v, hv⟩ | ⟨n, he, hn⟩ | hl := s.memo.lookout_cases key
      · rw [step, request_of_remembered hv, Memo.request_of_remembered hv]
        rfl
      · rw [step, request_of_inFlight he hn, Memo.request_of_inFlight he hn]
        rfl
      · rw [step, request_of_lacks hl, Memo.request_of_lacks hl]
        rfl
  | complete load o => obtain he | ⟨t, -, he⟩ := s.complete_cases load o <;> rw [step, he] <;> rfl
  | settle load =>
      obtain he | ⟨t, o, hl, he⟩ := s.settle_cases load
      · rw [step, he]
        rfl
      · have hsame : (s.memo.settle t o).entries = s.memo.entries := by
          rw [Memo.entries_settle]
          split
          · next hg =>
              cases o with
              | value v => exact absurd ⟨t, v, hl, hg⟩ (h load rfl)
              | failed e => rfl
              | cancelled => rfl
          · rfl
        rw [step, he, hsame]
        rfl
  | resume caller => rfl
  | cancel caller => rfl
  | clear => exact Nat.zero_add _

/-- The values remembered and the values forgotten are those of the loads that have succeeded in
time. -/
theorem exists_loads (events : List (SessionEvent V)) :
    ∃ loads : List Nat, loads.Nodup ∧ (∀ n, n ∈ loads ↔ SucceededInTime events n) ∧
      (reached events).memo.entries.length + ({} : Session V).forgotten events = loads.length := by
  induction events using List.reverseRecOn with
  | nil =>
      refine ⟨[], .nil, fun n => ⟨nofun, ?_⟩, rfl⟩
      rintro ⟨before, key, during, after, v, hevents, -⟩
      simp at hevents
  | append_singleton events e ih =>
      obtain ⟨loads, hnodup, hmem, hlength⟩ := ih
      rw [forgotten_concat, reached_concat]
      by_cases hripe : ∃ n, e = .settle n ∧ (reached events).Ripe n
      · obtain ⟨n, rfl, hn⟩ := hripe
        have hnew : n ∉ loads := by
          intro hold
          obtain ⟨o, ho⟩ := ((hmem n).mp hold).exists_settlement?
          obtain ⟨t, v, hl, -⟩ := hn
          rw [settlement?_of_loads hl] at ho
          cases ho
        refine ⟨loads ++ [n], ?_, fun m => ⟨?_, ?_⟩, ?_⟩
        · exact List.nodup_append.mpr ⟨hnodup, List.nodup_singleton n,
            fun a ha b hb hab => hnew (List.mem_singleton.mp hb ▸ hab ▸ ha)⟩
        · intro hm
          obtain hold | hlast := List.mem_append.mp hm
          · exact ((hmem m).mp hold).concat _
          · rw [List.mem_singleton.mp hlast]
            exact hn.succeededInTime
        · intro hm
          obtain hold | ⟨heq, -⟩ := succeededInTime_concat_cases hm
          · exact List.mem_append_left _ ((hmem m).mpr hold)
          · cases heq
            exact List.mem_append_right _ List.mem_cons_self
        · have hone := Ripe.length_entries (coherent_reached events) hn
          rw [step, hone, List.length_append, List.length_singleton, ← hlength]
          simp only [SessionEvent.isClear, Bool.false_eq_true, if_false]
          omega
      · have hkept := length_entries_step (s := reached events) (e := e)
          fun n he hn => hripe ⟨n, he, hn⟩
        refine ⟨loads, hnodup, fun m => ⟨fun hm => ((hmem m).mp hm).concat e, ?_⟩, ?_⟩
        · intro hm
          obtain hold | hlast := succeededInTime_concat_cases hm
          · exact (hmem m).mpr hold
          · exact absurd ⟨m, hlast⟩ hripe
        · change _ + (({} : Session V).forgotten events +
            if e.isClear then (reached events).memo.clear.1 else 0) = _
          omega

/-- **The books of a memo balance**, whatever happens in whatever order.  Hits and misses are as many
as the requests; the hits are those sampled, the misses are those sampled as having begun a load or
joined one, and as many as are sampled as having begun a load have begun one.  The values that are
remembered, with all that were forgotten, are as many as the loads that have succeeded without a
clearing between their beginning and their settling.  Clearing changes neither hits nor misses, and
clearing the memos of the five families forgets what each of them forgets. -/
theorem books_balance (events : List (SessionEvent V)) (c : Caches) :
    (reached events).memo.hits + (reached events).memo.misses =
        events.countP SessionEvent.isRequest ∧
    (reached events).memo.hits = (reached events).memo.counts.sampled "hit" ∧
    (reached events).memo.misses = (reached events).memo.counts.sampled "miss" +
        (reached events).memo.counts.sampled "coalesced" ∧
    (reached events).memo.counts.sampled "miss" = (reached events).loads.length ∧
    (∃ loads : List Nat, loads.Nodup ∧ (∀ n, n ∈ loads ↔ SucceededInTime events n) ∧
      (reached events).memo.entries.length + ({} : Session V).forgotten events = loads.length) ∧
    (reached (events ++ [.clear])).memo.hits = (reached events).memo.hits ∧
    (reached (events ++ [.clear])).memo.misses = (reached events).memo.misses ∧
    c.clear.1 = (Family.all.map fun f => (c.memo f).clear.1).sum := by
  obtain ⟨htotal, hhits, hmisses, hbegun⟩ := balanced_reached events
  rw [RequestCounts.sampled_hit, RequestCounts.sampled_miss, RequestCounts.sampled_coalesced,
    reached_concat]
  exact ⟨htotal, hhits, hmisses, hbegun, exists_loads events, rfl, rfl, c.fst_clear⟩

end Session

end Recommender
