import Mathlib
import Recommender.Memo.Session

/-!
# Coherent sessions

What a memo keeps is little: values and load numbers by key, and a generation.  A session is
*coherent* when this little agrees with the loads that have begun: exactly the unsettled loads of
the current generation are in flight, exactly the values of the settled ones are remembered, and a
load begins only after every load of its key and generation before it has failed.

Every event keeps a session coherent, and no event takes back what has happened to a load.
-/

namespace Recommender

namespace Session

variable {V : Type}

/-! ## What events do to loads -/

theorem request_of_remembered {s : Session V} {key : String} {v : V}
    (h : Assoc.find? key s.memo.entries = some v) :
    s.request key = { s with
      memo := (s.memo.request key).2
      callers := s.callers ++ [.finished (.value v)] } := by
  simp only [request, Memo.request_of_remembered h]

theorem request_of_inFlight {s : Session V} {key : String} {n : Nat}
    (h : Assoc.find? key s.memo.entries = none) (hf : Assoc.find? key s.memo.inFlight = some n) :
    s.request key = { s with
      memo := (s.memo.request key).2
      callers := s.callers ++ [s.joining n] } := by
  simp only [request, Memo.request_of_inFlight h hf]

theorem request_of_lacks {s : Session V} {key : String} (h : s.memo.Lacks key) :
    s.request key = {
      memo := (s.memo.request key).2
      loads := s.loads ++ [{ ticket := ⟨s.memo.begun, key, s.memo.generation⟩ }]
      callers := s.callers ++ [.waiting s.memo.begun] } := by
  simp only [request, Memo.request_of_lacks h]

/-- A load completes only if it is running. -/
theorem complete_cases (s : Session V) (load : Nat) (o : Outcome V) :
    s.complete load o = s ∨
    ∃ t, s.loads[load]? = some ⟨t, .running⟩ ∧
      s.complete load o = { s with loads := s.loads.set load ⟨t, .completed o⟩ } := by
  unfold complete
  split
  · next t h => exact .inr ⟨t, h, rfl⟩
  · exact .inl rfl

/-- A load settles only if it has completed. -/
theorem settle_cases (s : Session V) (load : Nat) :
    s.settle load = s ∨
    ∃ t o, s.loads[load]? = some ⟨t, .completed o⟩ ∧
      s.settle load = { s with
        memo := s.memo.settle t o
        loads := s.loads.set load ⟨t, .settled o⟩ } := by
  unfold settle
  split
  · next t o h => exact .inr ⟨t, o, h, rfl⟩
  · exact .inl rfl

/-! ## What a session shows of its loads -/

theorem ticket?_of_loads {s : Session V} {n : Nat} {l : Load V} (h : s.loads[n]? = some l) :
    s.ticket? n = some l.ticket := by
  simp only [ticket?, h, Option.map_some]

theorem outcome?_of_loads {s : Session V} {n : Nat} {l : Load V} (h : s.loads[n]? = some l) :
    s.outcome? n = l.stage.outcome? := by
  simp only [outcome?, h, Option.bind_some]

theorem settlement?_of_loads {s : Session V} {n : Nat} {l : Load V} (h : s.loads[n]? = some l) :
    s.settlement? n = l.stage.settlement? := by
  simp only [settlement?, h, Option.bind_some]

theorem lt_length_of_ticket? {s : Session V} {n : Nat} {t : LoadTicket}
    (h : s.ticket? n = some t) : n < s.loads.length := by
  rw [ticket?, Option.map_eq_some_iff] at h
  obtain ⟨l, hl, -⟩ := h
  exact (List.getElem?_eq_some_iff.mp hl).1

theorem exists_ticket? {s : Session V} {n : Nat} (h : n < s.loads.length) :
    ∃ t, s.ticket? n = some t :=
  ⟨_, ticket?_of_loads (List.getElem?_eq_getElem h)⟩

/-- A load that has settled has ended. -/
theorem outcome?_of_settlement? {s : Session V} {n : Nat} {o : Outcome V}
    (h : s.settlement? n = some o) : s.outcome? n = some o := by
  rw [settlement?, Option.bind_eq_some_iff] at h
  obtain ⟨l, hl, ho⟩ := h
  rw [outcome?_of_loads hl]
  cases hs : l.stage with
  | running => rw [hs] at ho; cases ho
  | completed p => rw [hs] at ho; cases ho
  | settled p => rw [hs] at ho; exact ho

theorem ticket?_request_of_lacks {s : Session V} {key : String} (h : s.memo.Lacks key) (n : Nat) :
    (s.request key).ticket? n =
      if n = s.loads.length then some ⟨s.memo.begun, key, s.memo.generation⟩ else s.ticket? n := by
  rw [request_of_lacks h]
  grind [ticket?]

theorem settlement?_request_of_lacks {s : Session V} {key : String} (h : s.memo.Lacks key)
    (n : Nat) : (s.request key).settlement? n = s.settlement? n := by
  rw [request_of_lacks h]
  grind [settlement?, LoadStage.settlement?]

theorem outcome?_request_of_lacks {s : Session V} {key : String} (h : s.memo.Lacks key)
    (n : Nat) : (s.request key).outcome? n = s.outcome? n := by
  rw [request_of_lacks h]
  grind [outcome?, LoadStage.outcome?]

/-- A request does not begin a load of a key that the memo does not lack. -/
theorem loads_request_of_not_lacks {s : Session V} {key : String} (h : ¬ s.memo.Lacks key) :
    (s.request key).loads = s.loads := by
  obtain ⟨v, hv⟩ | ⟨n, he, hn⟩ | hl := s.memo.lookout_cases key
  · rw [request_of_remembered hv]
  · rw [request_of_inFlight he hn]
  · exact absurd hl h

@[simp] theorem ticket?_complete (s : Session V) (load : Nat) (o : Outcome V) (n : Nat) :
    (s.complete load o).ticket? n = s.ticket? n := by
  obtain h | ⟨t, hl, h⟩ := s.complete_cases load o <;> rw [h]
  grind [ticket?]

@[simp] theorem settlement?_complete (s : Session V) (load : Nat) (o : Outcome V) (n : Nat) :
    (s.complete load o).settlement? n = s.settlement? n := by
  obtain h | ⟨t, hl, h⟩ := s.complete_cases load o <;> rw [h]
  grind [settlement?, LoadStage.settlement?]

@[simp] theorem ticket?_settle (s : Session V) (load n : Nat) :
    (s.settle load).ticket? n = s.ticket? n := by
  obtain h | ⟨t, o, hl, h⟩ := s.settle_cases load <;> rw [h]
  grind [ticket?]

@[simp] theorem outcome?_settle (s : Session V) (load n : Nat) :
    (s.settle load).outcome? n = s.outcome? n := by
  obtain h | ⟨t, o, hl, h⟩ := s.settle_cases load <;> rw [h]
  grind [outcome?, LoadStage.outcome?]

theorem settlement?_settle_of_completed {s : Session V} {load : Nat} {t : LoadTicket}
    {o : Outcome V} (h : s.loads[load]? = some ⟨t, .completed o⟩) (n : Nat) :
    (s.settle load).settlement? n = if n = load then some o else s.settlement? n := by
  grind [settle, settlement?, LoadStage.settlement?]

/-- Only a request begins a load, for its key and in the current generation. -/
theorem ticket?_step {s : Session V} {e : SessionEvent V} {n : Nat} {t : LoadTicket}
    (h : (s.step e).ticket? n = some t) :
    s.ticket? n = some t ∨
      (s.memo.Lacks t.key ∧ e = .request t.key ∧ n = s.loads.length ∧
        t = ⟨s.memo.begun, t.key, s.memo.generation⟩) := by
  cases e with
  | request key =>
      by_cases hl : s.memo.Lacks key
      · rw [step, ticket?_request_of_lacks hl] at h
        split at h
        · next hn =>
            have ht := (Option.some.inj h).symm
            have hk : t.key = key := by rw [ht]
            rw [hk]
            exact .inr ⟨hl, rfl, hn, ht⟩
        · exact .inl h
      · rw [step, ticket?, loads_request_of_not_lacks hl] at h
        exact .inl h
  | complete load o =>
      rw [step, ticket?_complete] at h
      exact .inl h
  | settle load =>
      rw [step, ticket?_settle] at h
      exact .inl h
  | resume caller => exact .inl h
  | cancel caller => exact .inl h
  | clear => exact .inl h

/-- Only clearing begins a generation. -/
theorem generation_step {s : Session V} {e : SessionEvent V} (h : e ≠ .clear) :
    (s.step e).memo.generation = s.memo.generation := by
  cases e with
  | request key =>
      obtain ⟨v, hv⟩ | ⟨n, he, hn⟩ | hl := s.memo.lookout_cases key
      · rw [step, request_of_remembered hv, Memo.request_of_remembered hv]
      · rw [step, request_of_inFlight he hn, Memo.request_of_inFlight he hn]
      · rw [step, request_of_lacks hl, Memo.request_of_lacks hl]
  | complete load o =>
      obtain he | ⟨t, -, he⟩ := s.complete_cases load o <;> rw [step, he]
  | settle load =>
      obtain he | ⟨t, o, -, he⟩ := s.settle_cases load <;> rw [step, he]
      exact Memo.generation_settle ..
  | resume caller => rfl
  | cancel caller => rfl
  | clear => exact absurd rfl h

/-! ## Coherence -/

/-- A load for a key belongs to the current generation. -/
def Current (s : Session V) (key : String) (n : Nat) : Prop :=
  ∃ t, s.ticket? n = some t ∧ t.key = key ∧ t.generation = s.memo.generation

/-- A load has settled without a value. -/
def Failed (s : Session V) (n : Nat) : Prop :=
  ∃ o, s.settlement? n = some o ∧ o.value? = none

theorem not_failed_of_unsettled {s : Session V} {n : Nat} (h : s.settlement? n = none) :
    ¬ s.Failed n := by
  rintro ⟨o, ho, -⟩
  rw [h] at ho
  cases ho

theorem not_failed_of_succeeded {s : Session V} {n : Nat} {v : V}
    (h : s.outcome? n = some (.value v)) : ¬ s.Failed n := by
  rintro ⟨o, ho, hv⟩
  rw [outcome?_of_settlement? ho, Option.some.injEq] at h
  rw [h] at hv
  cases hv

/-- The memo agrees with the loads that have begun. -/
structure Coherent (s : Session V) : Prop where
  begun_eq : s.memo.begun = s.loads.length
  number_eq : ∀ n t, s.ticket? n = some t → t.number = n
  generation_le : ∀ n t, s.ticket? n = some t → t.generation ≤ s.memo.generation
  inFlight_iff : ∀ key n, Assoc.find? key s.memo.inFlight = some n ↔
    s.Current key n ∧ s.settlement? n = none
  entries_iff : ∀ key v, Assoc.find? key s.memo.entries = some v ↔
    ∃ n, s.Current key n ∧ s.settlement? n = some (.value v)
  /-- A load begins only after every earlier one of its key and generation has failed. -/
  earlier_failed : ∀ n m t t', n < m → s.ticket? n = some t → s.ticket? m = some t' →
    t.key = t'.key → t.generation = t'.generation → s.Failed n
  nodup_entries : (Assoc.keys s.memo.entries).Nodup
  nodup_inFlight : (Assoc.keys s.memo.inFlight).Nodup

namespace Coherent

variable {s : Session V}

/-- Coherence is about what the memo keeps and about the loads. -/
theorem of_eq {s' : Session V} (h : s.Coherent) (he : s'.memo.entries = s.memo.entries)
    (hf : s'.memo.inFlight = s.memo.inFlight) (hg : s'.memo.generation = s.memo.generation)
    (hb : s'.memo.begun = s.memo.begun) (hl : s'.loads.length = s.loads.length)
    (ht : ∀ n, s'.ticket? n = s.ticket? n) (hs : ∀ n, s'.settlement? n = s.settlement? n) :
    s'.Coherent := by
  have hc : ∀ key n, s'.Current key n ↔ s.Current key n := by
    intro key n
    rw [Current, Current, ht, hg]
  refine ⟨by rw [hb, hl, h.begun_eq], ?_, ?_, ?_, ?_, ?_, he ▸ h.nodup_entries,
    hf ▸ h.nodup_inFlight⟩
  · intro n t hn
    exact h.number_eq n t (ht n ▸ hn)
  · intro n t hn
    rw [hg]
    exact h.generation_le n t (ht n ▸ hn)
  · intro key n
    rw [hf, hs, hc, h.inFlight_iff]
  · intro key v
    rw [he, h.entries_iff]
    simp only [hc, hs]
  · intro n m t t' hlt hn hm
    rw [Failed, hs]
    exact h.earlier_failed n m t t' hlt (ht n ▸ hn) (ht m ▸ hm)

/-- Of the loads of one key and generation, only one has not failed. -/
theorem eq_of_not_failed (h : s.Coherent) {key : String} {n m : Nat} (hn : s.Current key n)
    (hm : s.Current key m) (hn' : ¬ s.Failed n) (hm' : ¬ s.Failed m) : n = m := by
  obtain ⟨t, ht, hk, hg⟩ := hn
  obtain ⟨t', ht', hk', hg'⟩ := hm
  obtain hlt | heq | hlt := Nat.lt_trichotomy n m
  · exact absurd (h.earlier_failed n m t t' hlt ht ht' (hk.trans hk'.symm) (hg.trans hg'.symm)) hn'
  · exact heq
  · exact absurd (h.earlier_failed m n t' t hlt ht' ht (hk'.trans hk.symm) (hg'.trans hg.symm)) hm'

/-- No value of a key is remembered while a load of it is in flight. -/
theorem find?_entries_of_inFlight (h : s.Coherent) {key : String} {n : Nat}
    (hn : Assoc.find? key s.memo.inFlight = some n) : Assoc.find? key s.memo.entries = none := by
  obtain ⟨hcur, hnone⟩ := (h.inFlight_iff key n).mp hn
  cases he : Assoc.find? key s.memo.entries with
  | none => rfl
  | some v =>
      obtain ⟨m, hm, hs⟩ := (h.entries_iff key v).mp he
      have heq := h.eq_of_not_failed hm hcur
        (not_failed_of_succeeded (outcome?_of_settlement? hs)) (not_failed_of_unsettled hnone)
      rw [heq, hnone] at hs
      cases hs

/-- The memo lacks a key exactly when every load of it in the current generation has failed. -/
theorem lacks_iff (h : s.Coherent) (key : String) :
    s.memo.Lacks key ↔ ∀ n, s.Current key n → s.Failed n := by
  constructor
  · intro hl n hn
    cases hs : s.settlement? n with
    | none =>
        have hin := (h.inFlight_iff key n).mpr ⟨hn, hs⟩
        rw [hl.2] at hin
        cases hin
    | some o =>
        cases ho : o.value? with
        | none => exact ⟨o, hs, ho⟩
        | some v =>
            rw [Outcome.value?_eq_some.mp ho] at hs
            have hin := (h.entries_iff key v).mpr ⟨n, hn, hs⟩
            rw [hl.1] at hin
            cases hin
  · intro hall
    constructor
    · cases he : Assoc.find? key s.memo.entries with
      | none => rfl
      | some v =>
          obtain ⟨n, hn, hs⟩ := (h.entries_iff key v).mp he
          exact absurd (hall n hn) (not_failed_of_succeeded (outcome?_of_settlement? hs))
    · cases hf : Assoc.find? key s.memo.inFlight with
      | none => rfl
      | some n =>
          obtain ⟨hn, hs⟩ := (h.inFlight_iff key n).mp hf
          exact absurd (hall n hn) (not_failed_of_unsettled hs)

end Coherent

/-- After a request, a load belongs to the current generation as before, or is the one begun. -/
theorem current_request_iff {s : Session V} {key : String} (hl : s.memo.Lacks key)
    (other : String) (n : Nat) :
    (s.request key).Current other n ↔
      s.Current other n ∨ (n = s.loads.length ∧ other = key) := by
  have hg : (s.request key).memo.generation = s.memo.generation := by
    rw [request_of_lacks hl, Memo.request_of_lacks hl]
  have hnew : s.ticket? s.loads.length = none := by
    cases ht : s.ticket? s.loads.length with
    | none => rfl
    | some t => exact absurd (lt_length_of_ticket? ht) (Nat.lt_irrefl _)
  rw [Current, Current, hg]
  by_cases hn : n = s.loads.length
  · subst hn
    simp only [ticket?_request_of_lacks hl, if_true, hnew]
    grind
  · simp only [ticket?_request_of_lacks hl, if_neg hn]
    grind

namespace Coherent

variable {s : Session V}

theorem request_of_lacks (h : s.Coherent) {key : String} (hl : s.memo.Lacks key) :
    (s.request key).Coherent := by
  have hnew : s.settlement? s.loads.length = none := by simp [settlement?]
  have hloads : (s.request key).loads.length = s.loads.length + 1 := by
    rw [Session.request_of_lacks hl, List.length_append, List.length_singleton]
  have hbegun : (s.request key).memo.begun = s.memo.begun + 1 := by
    rw [Session.request_of_lacks hl, Memo.request_of_lacks hl]
  have hgen : (s.request key).memo.generation = s.memo.generation := by
    rw [Session.request_of_lacks hl, Memo.request_of_lacks hl]
  have hent : (s.request key).memo.entries = s.memo.entries := by
    rw [Session.request_of_lacks hl, Memo.request_of_lacks hl]
  have hinf : (s.request key).memo.inFlight = s.memo.inFlight ++ [(key, s.loads.length)] := by
    rw [Session.request_of_lacks hl, Memo.request_of_lacks hl, h.begun_eq]
  refine ⟨by rw [hbegun, hloads, h.begun_eq], ?_, ?_, ?_, ?_, ?_, hent ▸ h.nodup_entries, ?_⟩
  · intro n t hn
    rw [ticket?_request_of_lacks hl] at hn
    split at hn
    · next heq => rw [← Option.some.inj hn, heq, h.begun_eq]
    · exact h.number_eq n t hn
  · intro n t hn
    rw [hgen]
    rw [ticket?_request_of_lacks hl] at hn
    split at hn
    · have ht := Option.some.inj hn
      subst ht
      exact Nat.le_refl _
    · exact h.generation_le n t hn
  · intro other n
    rw [hinf, Assoc.find?_append, settlement?_request_of_lacks hl, current_request_iff hl]
    by_cases hk : other = key
    · subst hk
      have hnone : ¬ (s.Current other n ∧ s.settlement? n = none) := by
        rw [← h.inFlight_iff, hl.2]
        exact nofun
      rw [hl.2, Option.none_or]
      simp only [Assoc.find?, if_true, Option.some.injEq]
      constructor
      · rintro rfl
        exact ⟨.inr ⟨rfl, trivial⟩, hnew⟩
      · rintro ⟨hc | ⟨rfl, -⟩, hs⟩
        · exact absurd ⟨hc, hs⟩ hnone
        · rfl
    · have hko : ¬ key = other := fun he => hk he.symm
      simp only [Assoc.find?, if_neg hko, Option.or_none, hk, and_false, or_false]
      exact h.inFlight_iff other n
  · intro other v
    rw [hent, h.entries_iff]
    simp only [settlement?_request_of_lacks hl, current_request_iff hl]
    constructor
    · rintro ⟨n, hc, hs⟩
      exact ⟨n, .inl hc, hs⟩
    · rintro ⟨n, hc | ⟨rfl, -⟩, hs⟩
      · exact ⟨n, hc, hs⟩
      · rw [hnew] at hs
        cases hs
  · intro n m t t' hlt hn hm hkey hg
    rw [Failed, settlement?_request_of_lacks hl]
    rw [ticket?_request_of_lacks hl] at hn hm
    have hlen : m ≤ s.loads.length := by
      split at hm
      · next heq => omega
      · exact Nat.le_of_lt (lt_length_of_ticket? hm)
    rw [if_neg (by omega)] at hn
    split at hm
    · have ht' := Option.some.inj hm
      rw [← ht'] at hkey hg
      exact (h.lacks_iff key).mp hl n ⟨t, hn, hkey, hg⟩
    · exact h.earlier_failed n m t t' hlt hn hm hkey hg
  · have hkey : key ∉ Assoc.keys s.memo.inFlight := Assoc.find?_eq_none_iff.mp hl.2
    rw [hinf, Assoc.keys, List.map_append, List.nodup_append]
    refine ⟨h.nodup_inFlight, by simp, ?_⟩
    rintro a ha b hb rfl
    simp only [List.map_cons, List.map_nil, List.mem_singleton] at hb
    exact hkey (hb ▸ ha)

/-- A request for a key keeps a session coherent. -/
theorem request (h : s.Coherent) (key : String) : (s.request key).Coherent := by
  obtain ⟨v, hv⟩ | ⟨n, he, hn⟩ | hl := s.memo.lookout_cases key
  · rw [request_of_remembered hv, Memo.request_of_remembered hv]
    exact h.of_eq rfl rfl rfl rfl rfl (fun _ => rfl) fun _ => rfl
  · rw [request_of_inFlight he hn, Memo.request_of_inFlight he hn]
    exact h.of_eq rfl rfl rfl rfl rfl (fun _ => rfl) fun _ => rfl
  · exact h.request_of_lacks hl

theorem complete (h : s.Coherent) (load : Nat) (o : Outcome V) : (s.complete load o).Coherent := by
  have ht := s.ticket?_complete load o
  have hs := s.settlement?_complete load o
  obtain he | ⟨t, -, he⟩ := s.complete_cases load o
  · rw [he]
    exact h
  · rw [he] at ht hs ⊢
    exact h.of_eq rfl rfl rfl rfl (List.length_set ..) ht hs

/-- Clearing leaves every load behind in an earlier generation. -/
theorem clear (h : s.Coherent) : s.clear.Coherent := by
  have hnone : ∀ key n, ¬ s.clear.Current key n := by
    rintro key n ⟨t, ht, -, hg⟩
    have hle := h.generation_le n t ht
    have hg' : t.generation = s.memo.generation + 1 := hg
    omega
  refine ⟨h.begun_eq, h.number_eq, ?_, ?_, ?_, h.earlier_failed, .nil, .nil⟩
  · intro n t hn
    exact Nat.le_succ_of_le (h.generation_le n t hn)
  · intro key n
    simp only [hnone, false_and, iff_false]
    intro hin
    cases hin
  · intro key v
    simp only [hnone, false_and, exists_false, iff_false]
    intro hfound
    cases hfound

/-- The load that settles belongs to the current generation exactly if its ticket says so. -/
theorem current_completed_iff {load : Nat} {t : LoadTicket} {o : Outcome V}
    (hl : s.loads[load]? = some ⟨t, .completed o⟩) (key : String) :
    s.Current key load ↔ t.key = key ∧ t.generation = s.memo.generation := by
  simp only [Current, ticket?_of_loads hl, Option.some.injEq, exists_eq_left']

/-- After a load has settled, exactly the loads are in flight that are still unsettled. -/
theorem find?_inFlight_settle (h : s.Coherent) {load : Nat} {t : LoadTicket} {o : Outcome V}
    (hl : s.loads[load]? = some ⟨t, .completed o⟩) (key : String) (n : Nat) :
    Assoc.find? key (s.memo.settle t o).inFlight = some n ↔
      Assoc.find? key s.memo.inFlight = some n ∧ n ≠ load := by
  have hnum : t.number = load := h.number_eq load t (ticket?_of_loads hl)
  rw [Memo.inFlight_settle, hnum]
  by_cases hin : Assoc.find? t.key s.memo.inFlight = some load
  · rw [if_pos hin]
    by_cases hk : key = t.key
    · rw [hk, Assoc.find?_remove_self, hin]
      simp only [reduceCtorEq, Option.some.injEq, false_iff, not_and, ne_eq,
        Decidable.not_not]
      exact fun he => he.symm
    · rw [Assoc.find?_remove_ne hk]
      constructor
      · intro hf
        refine ⟨hf, fun hn => hk ?_⟩
        rw [hn, h.inFlight_iff] at hf
        exact ((current_completed_iff hl key).mp hf.1).1.symm
      · exact fun hf => hf.1
  · rw [if_neg hin]
    constructor
    · intro hf
      refine ⟨hf, fun hn => hin ?_⟩
      rw [hn] at hf
      have hkey := ((current_completed_iff hl key).mp ((h.inFlight_iff key load).mp hf).1).1
      rw [hkey]
      exact hf
    · exact fun hf => hf.1

/-- After a load has settled, its value is remembered if it succeeded in its own generation, and
other keys are remembered as before. -/
theorem find?_entries_settle (h : s.Coherent) {load : Nat} {t : LoadTicket} {o : Outcome V}
    (hl : s.loads[load]? = some ⟨t, .completed o⟩) (key : String) (v : V) :
    Assoc.find? key (s.memo.settle t o).entries = some v ↔
      Assoc.find? key s.memo.entries = some v ∨ (s.Current key load ∧ o = .value v) := by
  have hload : s.settlement? load = none := settlement?_of_loads hl
  rw [Memo.entries_settle, current_completed_iff hl]
  by_cases hg : t.generation = s.memo.generation
  · rw [if_pos hg]
    cases ho : o.value? with
    | none =>
        have hne : o ≠ .value v := by
          rintro rfl
          cases ho
        simp only [Option.elim_none, hne, and_false, or_false]
    | some w =>
        rw [Outcome.value?_eq_some.mp ho, Option.elim_some]
        by_cases hk : key = t.key
        · have hempty := h.find?_entries_of_inFlight ((h.inFlight_iff t.key load).mpr
            ⟨(current_completed_iff hl t.key).mpr ⟨rfl, hg⟩, hload⟩)
          rw [hk, Assoc.find?_put_self, hempty]
          simp only [hg, reduceCtorEq, false_or, true_and, Option.some.injEq,
            Outcome.value.injEq]
        · rw [Assoc.find?_put_ne hk]
          have hk' : ¬ t.key = key := fun he => hk he.symm
          simp only [hk', false_and, or_false]
  · rw [if_neg hg]
    simp only [hg, and_false, false_and, or_false]

/-- Settling a load keeps a session coherent. -/
theorem settle (h : s.Coherent) (load : Nat) : (s.settle load).Coherent := by
  obtain he | ⟨t, o, hl, he⟩ := s.settle_cases load
  · rw [he]
    exact h
  have hload : s.settlement? load = none := settlement?_of_loads hl
  have hgen : (s.settle load).memo.generation = s.memo.generation := by
    rw [he, Memo.generation_settle]
  have hcur : ∀ key n, (s.settle load).Current key n ↔ s.Current key n := by
    intro key n
    rw [Current, Current, ticket?_settle, hgen]
  have hmemo : (s.settle load).memo = s.memo.settle t o := by rw [he]
  refine ⟨?_, ?_, ?_, ?_, ?_, ?_, ?_, ?_⟩
  · rw [he, Memo.begun_settle, List.length_set, h.begun_eq]
  · intro n t' hn
    rw [ticket?_settle] at hn
    exact h.number_eq n t' hn
  · intro n t' hn
    rw [ticket?_settle] at hn
    rw [hgen]
    exact h.generation_le n t' hn
  · intro key n
    rw [hmemo, h.find?_inFlight_settle hl, h.inFlight_iff, hcur,
      settlement?_settle_of_completed hl]
    by_cases hn : n = load
    · simp [hn]
    · simp [hn]
  · intro key v
    rw [hmemo, h.find?_entries_settle hl, h.entries_iff]
    simp only [hcur, settlement?_settle_of_completed hl]
    constructor
    · rintro (⟨n, hc, hs⟩ | ⟨hc, rfl⟩)
      · have hn : n ≠ load := by
          rintro rfl
          rw [hload] at hs
          cases hs
        exact ⟨n, hc, by rw [if_neg hn, hs]⟩
      · exact ⟨load, hc, if_pos rfl⟩
    · rintro ⟨n, hc, hs⟩
      split at hs
      · next hn => exact .inr ⟨hn ▸ hc, Option.some.inj hs⟩
      · exact .inl ⟨n, hc, hs⟩
  · intro n m t' t'' hlt hn hm hkey hg
    rw [ticket?_settle] at hn hm
    obtain ⟨o', ho, hfail⟩ := h.earlier_failed n m t' t'' hlt hn hm hkey hg
    have hne : n ≠ load := by
      rintro rfl
      rw [hload] at ho
      cases ho
    exact ⟨o', by rw [settlement?_settle_of_completed hl, if_neg hne, ho], hfail⟩
  · rw [hmemo]
    exact Memo.nodup_entries_settle h.nodup_entries
  · rw [hmemo]
    exact Memo.nodup_inFlight_settle h.nodup_inFlight

/-- Every event keeps a session coherent. -/
theorem step (h : s.Coherent) (e : SessionEvent V) : (s.step e).Coherent := by
  cases e with
  | request key => exact h.request key
  | complete load o => exact h.complete load o
  | settle load => exact h.settle load
  | resume caller => exact h.of_eq rfl rfl rfl rfl rfl (fun _ => rfl) fun _ => rfl
  | cancel caller => exact h.of_eq rfl rfl rfl rfl rfl (fun _ => rfl) fun _ => rfl
  | clear => exact h.clear

/-- Every run keeps a session coherent. -/
theorem run (h : s.Coherent) (events : List (SessionEvent V)) : (s.run events).Coherent := by
  induction events generalizing s with
  | nil => exact h
  | cons e rest ih => exact ih (h.step e)

end Coherent

/-- A session in which nothing has happened is coherent. -/
theorem coherent_start : ({} : Session V).Coherent where
  begun_eq := rfl
  number_eq := by intro n t h; simp [ticket?] at h
  generation_le := by intro n t h; simp [ticket?] at h
  inFlight_iff := by intro key n; simp [Current, ticket?]
  entries_iff := by intro key v; simp [Current, ticket?]
  earlier_failed := by intro n m t t' _ h; simp [ticket?] at h
  nodup_entries := .nil
  nodup_inFlight := .nil

/-! ## What events do not take back -/

/-- A session goes on from another one: loads keep their tickets, their outcomes and whether they
have settled. -/
structure Extends (s s' : Session V) : Prop where
  ticket : ∀ n t, s.ticket? n = some t → s'.ticket? n = some t
  outcome : ∀ n o, s.outcome? n = some o → s'.outcome? n = some o
  settlement : ∀ n o, s.settlement? n = some o → s'.settlement? n = some o

namespace Extends

theorem refl (s : Session V) : s.Extends s :=
  ⟨fun _ _ h => h, fun _ _ h => h, fun _ _ h => h⟩

theorem trans {s s' s'' : Session V} (h : s.Extends s') (h' : s'.Extends s'') : s.Extends s'' :=
  ⟨fun n t ht => h'.ticket n t (h.ticket n t ht),
    fun n o ho => h'.outcome n o (h.outcome n o ho),
    fun n o ho => h'.settlement n o (h.settlement n o ho)⟩

theorem of_loads {s s' : Session V} (h : s'.loads = s.loads) : s.Extends s' := by
  refine ⟨fun n t ht => ?_, fun n o ho => ?_, fun n o ho => ?_⟩
  · rw [ticket?, h]
    exact ht
  · rw [outcome?, h]
    exact ho
  · rw [settlement?, h]
    exact ho

theorem length_le {s s' : Session V} (h : s.Extends s') : s.loads.length ≤ s'.loads.length := by
  refine Nat.le_of_not_lt fun hlt => ?_
  obtain ⟨t, ht⟩ := exists_ticket? hlt
  exact absurd (lt_length_of_ticket? (h.ticket _ t ht)) (Nat.lt_irrefl _)

end Extends

theorem extends_request (s : Session V) (key : String) : s.Extends (s.request key) := by
  by_cases hl : s.memo.Lacks key
  · refine ⟨fun n t ht => ?_, fun n o ho => ?_, fun n o ho => ?_⟩
    · have hn : n ≠ s.loads.length := Nat.ne_of_lt (lt_length_of_ticket? ht)
      rw [ticket?_request_of_lacks hl, if_neg hn, ht]
    · rw [outcome?_request_of_lacks hl, ho]
    · rw [settlement?_request_of_lacks hl, ho]
  · exact .of_loads (loads_request_of_not_lacks hl)

theorem extends_complete (s : Session V) (load : Nat) (o : Outcome V) :
    s.Extends (s.complete load o) := by
  refine ⟨fun n t ht => by rw [ticket?_complete, ht], fun n p hp => ?_,
    fun n p hp => by rw [settlement?_complete, hp]⟩
  obtain he | ⟨t, hl, he⟩ := s.complete_cases load o
  · rw [he, hp]
  · have hn : n ≠ load := by
      rintro rfl
      rw [outcome?_of_loads hl] at hp
      cases hp
    rw [he]
    grind [outcome?]

theorem extends_settle (s : Session V) (load : Nat) : s.Extends (s.settle load) := by
  refine ⟨fun n t ht => by rw [ticket?_settle, ht], fun n o ho => by rw [outcome?_settle, ho],
    fun n p hp => ?_⟩
  obtain he | ⟨t, o, hl, he⟩ := s.settle_cases load
  · rw [he, hp]
  · have hn : n ≠ load := by
      rintro rfl
      rw [settlement?_of_loads hl] at hp
      cases hp
    rw [settlement?_settle_of_completed hl, if_neg hn, hp]

theorem extends_step (s : Session V) (e : SessionEvent V) : s.Extends (s.step e) := by
  cases e with
  | request key => exact s.extends_request key
  | complete load o => exact s.extends_complete load o
  | settle load => exact s.extends_settle load
  | resume caller => exact .of_loads rfl
  | cancel caller => exact .of_loads rfl
  | clear => exact .of_loads rfl

theorem extends_run (s : Session V) (events : List (SessionEvent V)) :
    s.Extends (s.run events) := by
  induction events generalizing s with
  | nil => exact .refl s
  | cons e rest ih => exact (s.extends_step e).trans (ih (s.step e))

end Session

end Recommender
