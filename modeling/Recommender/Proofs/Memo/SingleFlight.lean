import Recommender.Proofs.Memo.Provenance

/-!
# One load at a time

Between two clearings a key is loaded again only after every load of it in this interval has failed.
So at most one of them succeeds; from then on the value is the answer to every request for the key,
and until the next clearing no other value takes its place.
-/

namespace Recommender

namespace Session

variable {V : Type}

/-- An event begins a load of a key. -/
def Begins (s : Session V) (e : SessionEvent V) (key : String) : Prop :=
  (s.step e).keyOf? s.loads.length = some key

/-! ## When loads begin -/

/-- A load begins where the memo lacks the key that is requested. -/
theorem begins_iff_lacks (s : Session V) (e : SessionEvent V) (key : String) :
    s.Begins e key ↔ e = .request key ∧ s.memo.Lacks key := by
  constructor
  · intro h
    rw [Begins, keyOf?, Option.map_eq_some_iff] at h
    obtain ⟨t, ht, rfl⟩ := h
    obtain hold | ⟨hl, he, -, -⟩ := ticket?_step ht
    · exact absurd (lt_length_of_ticket? hold) (Nat.lt_irrefl _)
    · exact ⟨he, hl⟩
  · rintro ⟨rfl, hl⟩
    have ht := ticket?_request_of_lacks hl s.loads.length
    rw [if_pos rfl] at ht
    exact keyOf?_of_ticket? ht

/-- A request begins a load exactly if every fresh load of the key has failed. -/
theorem lacks_iff_failed (events : List (SessionEvent V)) (key : String) :
    (reached events).memo.Lacks key ↔
      ∀ n, firstFresh events ≤ n → (reached events).keyOf? n = some key →
        (reached events).Failed n := by
  rw [(coherent_reached events).lacks_iff]
  constructor
  · intro h n hn hk
    exact h n ((current_iff events key n).mpr ⟨hn, hk⟩)
  · intro h n hc
    obtain ⟨hn, hk⟩ := (current_iff events key n).mp hc
    exact h n hn hk

/-! ## Runs without a clearing or without requests for a key -/

theorem generation_run {s : Session V} {later : List (SessionEvent V)} (h : .clear ∉ later) :
    (s.run later).memo.generation = s.memo.generation := by
  induction later generalizing s with
  | nil => rfl
  | cons e rest ih =>
      rw [List.mem_cons, not_or] at h
      have he : e ≠ .clear := fun hc => h.1 hc.symm
      rw [run_cons, ih h.2, generation_step he]

theorem Current.run {s : Session V} {key : String} {n : Nat} (h : s.Current key n)
    {later : List (SessionEvent V)} (hc : .clear ∉ later) : (s.run later).Current key n := by
  obtain ⟨t, ht, hk, hg⟩ := h
  exact ⟨t, (s.extends_run later).ticket n t ht, hk, by rw [generation_run hc, hg]⟩

theorem Failed.run {s : Session V} {n : Nat} (h : s.Failed n) (later : List (SessionEvent V)) :
    (s.run later).Failed n := by
  obtain ⟨o, ho, hv⟩ := h
  exact ⟨o, (s.extends_run later).settlement n o ho, hv⟩

/-- Without a request for a key no load of it begins. -/
theorem ticket?_of_run {s : Session V} {n : Nat} {t : LoadTicket} {later : List (SessionEvent V)}
    (h : .request t.key ∉ later) (ht : (s.run later).ticket? n = some t) :
    s.ticket? n = some t := by
  induction later generalizing s with
  | nil => exact ht
  | cons e rest ih =>
      rw [List.mem_cons, not_or] at h
      obtain hold | ⟨-, he, -, -⟩ := ticket?_step (ih h.2 ht)
      · exact hold
      · exact absurd he.symm h.1

theorem Current.of_run {s : Session V} {key : String} {n : Nat} {later : List (SessionEvent V)}
    (hc : .clear ∉ later) (hr : .request key ∉ later) (h : (s.run later).Current key n) :
    s.Current key n := by
  obtain ⟨t, ht, rfl, hg⟩ := h
  exact ⟨t, ticket?_of_run hr ht, rfl, by rw [hg, generation_run hc]⟩

/-! ## At most one load succeeds -/

/-- Of the loads of a key in one generation at most one succeeds, even if they settle later. -/
theorem eq_of_succeeded {s : Session V} (h : s.Coherent) {key : String} {n m : Nat}
    (hn : s.Current key n) (hm : s.Current key m) (later : List (SessionEvent V)) {v w : V}
    (hv : (s.run later).outcome? n = some (.value v))
    (hw : (s.run later).outcome? m = some (.value w)) : n = m :=
  h.eq_of_not_failed hn hm (fun hf => not_failed_of_succeeded hv (hf.run later))
    fun hf => not_failed_of_succeeded hw (hf.run later)

/-- Once a load of a key has succeeded, its value is the answer to a request for the key, and no
load begins. -/
theorem request_of_succeeded {s : Session V} (h : s.Coherent) {key : String} {n : Nat} {v : V}
    (hn : s.Current key n) (hv : s.outcome? n = some (.value v)) :
    (s.request key).loads = s.loads ∧
      (s.request key).callers = s.callers ++ [.finished (.value v)] := by
  have hnot := not_failed_of_succeeded hv
  obtain ⟨w, hw⟩ | ⟨m, he, hm⟩ | hl := s.memo.lookout_cases key
  · obtain ⟨m, hc, hs⟩ := (h.entries_iff key w).mp hw
    have hout := outcome?_of_settlement? hs
    have heq : m = n := h.eq_of_not_failed hc hn (not_failed_of_succeeded hout) hnot
    rw [heq, hv, Option.some.injEq] at hout
    rw [request_of_remembered hw, hout]
    exact ⟨rfl, rfl⟩
  · obtain ⟨hc, hs⟩ := (h.inFlight_iff key m).mp hm
    have heq : m = n := h.eq_of_not_failed hc hn (not_failed_of_unsettled hs) hnot
    rw [request_of_inFlight he hm, joining, heq, hv]
    exact ⟨rfl, rfl⟩
  · exact absurd ((h.lacks_iff key).mp hl n hn) hnot

/-- A value that is remembered stays until the next clearing. -/
theorem find?_entries_run {s : Session V} (h : s.Coherent) {key : String} {v : V}
    (hv : Assoc.find? key s.memo.entries = some v) {later : List (SessionEvent V)}
    (hc : .clear ∉ later) : Assoc.find? key (s.run later).memo.entries = some v := by
  obtain ⟨n, hn, hs⟩ := (h.entries_iff key v).mp hv
  refine ((h.run later).entries_iff key v).mpr ⟨n, hn.run hc, ?_⟩
  exact (s.extends_run later).settlement n _ hs

/-- Once a load of a key has failed, the next request for the key begins another one. -/
theorem lacks_of_failed {s : Session V} (h : s.Coherent) {key : String} {n : Nat}
    (hn : s.Current key n) (hs : s.settlement? n = none) {later : List (SessionEvent V)}
    (hc : .clear ∉ later) (hr : .request key ∉ later) (hf : (s.run later).Failed n) :
    (s.run later).memo.Lacks key := by
  rw [(h.run later).lacks_iff]
  intro m hm
  have hm' := hm.of_run hc hr
  by_cases hmf : s.Failed m
  · exact hmf.run later
  · rw [h.eq_of_not_failed hm' hn hmf (not_failed_of_unsettled hs)]
    exact hf

/-- **Single flight**, in every run up to some point and from there on: a load of a key begins
exactly if the key is requested and every load of it since the last clearing has settled without a
value; at most one of them succeeds, also if it settles later; once one has, its value is the answer
to every request for the key, and no load begins; what is remembered are the values of the fresh
loads that have settled, and they stay until the next clearing; and after a load of the key has
failed, the next request for the key begins another one. -/
theorem fresh_loads_fly_alone (events : List (SessionEvent V)) (key : String) :
    (∀ e, (reached events).Begins e key ↔ e = .request key ∧
      ∀ n, firstFresh events ≤ n → (reached events).keyOf? n = some key →
        (reached events).Failed n) ∧
    (∀ n m v w later, firstFresh events ≤ n → (reached events).keyOf? n = some key →
      firstFresh events ≤ m → (reached events).keyOf? m = some key →
      (reached (events ++ later)).outcome? n = some (.value v) →
      (reached (events ++ later)).outcome? m = some (.value w) → n = m) ∧
    (∀ n v, firstFresh events ≤ n → (reached events).keyOf? n = some key →
      (reached events).outcome? n = some (.value v) →
      ((reached events).request key).loads = (reached events).loads ∧
      ((reached events).request key).callers =
        (reached events).callers ++ [.finished (.value v)]) ∧
    (∀ v, Assoc.find? key (reached events).memo.entries = some v ↔
      ∃ n, firstFresh events ≤ n ∧ (reached events).keyOf? n = some key ∧
        (reached events).settlement? n = some (.value v)) ∧
    (∀ v later, Assoc.find? key (reached events).memo.entries = some v → .clear ∉ later →
      Assoc.find? key (reached (events ++ later)).memo.entries = some v) ∧
    (∀ n later, firstFresh events ≤ n → (reached events).keyOf? n = some key →
      (reached events).settlement? n = none → .clear ∉ later → .request key ∉ later →
      (reached (events ++ later)).Failed n →
      (reached (events ++ later)).Begins (.request key) key) := by
  have h := coherent_reached events
  have hcur : ∀ {n}, firstFresh events ≤ n → (reached events).keyOf? n = some key →
      (reached events).Current key n := fun hn hk => (current_iff events key _).mpr ⟨hn, hk⟩
  refine ⟨?_, ?_, ?_, ?_, ?_, ?_⟩
  · intro e
    rw [begins_iff_lacks, lacks_iff_failed]
  · intro n m v w later hn hk hm hk' hv hw
    rw [reached_append] at hv hw
    exact eq_of_succeeded h (hcur hn hk) (hcur hm hk') later hv hw
  · intro n v hn hk hv
    exact request_of_succeeded h (hcur hn hk) hv
  · intro v
    rw [h.entries_iff]
    simp only [current_iff, and_assoc]
  · intro v later hv hc
    rw [reached_append]
    exact find?_entries_run h hv hc
  · intro n later hn hk hs hc hr hf
    rw [reached_append] at hf ⊢
    rw [begins_iff_lacks]
    exact ⟨rfl, lacks_of_failed h (hcur hn hk) hs hc hr hf⟩

/-- A load that is cancelled, and the next one of its key, which succeeds with zero. -/
def retried : List (SessionEvent Nat) :=
  [.request "k", .complete 0 .cancelled, .settle 0, .request "k", .complete 1 (.value 0)]

theorem fresh_loads_fly_alone_retried :
    (reached (retried.take 3)).Begins (.request "k") "k" ∧
      ((reached retried).request "k").loads = (reached retried).loads ∧
      ((reached retried).request "k").callers =
        (reached retried).callers ++ [.finished (.value 0)] := by
  obtain ⟨-, -, -, -, -, hretry⟩ := fresh_loads_fly_alone (retried.take 1) "k"
  obtain ⟨-, -, hanswer, -⟩ := fresh_loads_fly_alone retried "k"
  have hbegins := hretry 0 [.complete 0 .cancelled, .settle 0] (by decide) rfl rfl
    (by simp) (by simp) ⟨.cancelled, rfl, rfl⟩
  exact ⟨hbegins, hanswer 1 0 (by decide) rfl rfl⟩

end Session

end Recommender
