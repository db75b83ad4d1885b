import Recommender.Aggregate.Cached

/-!
# Providers side by side

Two providers are *parallel* if they have their answers from the same source, are told to fail
alike as far as their own operations are concerned, and have been called equally since some moment.
Parallel providers behind equal memos give equal answers and stay parallel, and the memos stay
equal.
-/

namespace Recommender

/-- Faults that tell a provider to fail alike. -/
def Faults.AlikeForProvider (F : Faults → Faults → Prop) : Prop :=
  ∀ {f g : Faults}, F f g →
    (∀ family, f.find? (.lookup family) = g.find? (.lookup family)) ∧
      f.find? .resolve = g.find? .resolve

/-- Providers of one source, with related faults, that have been called equally since the calls
that they had then. -/
structure Provider.Parallel (F : Faults → Faults → Prop) (past past' : List Call)
    (p q : Provider) : Prop where
  source : p.source = q.source
  faults : F p.faults q.faults
  calls : ∃ since, p.calls = past ++ since ∧ q.calls = past' ++ since

/-- Desks with equal memos and parallel providers. -/
structure Desk.Parallel (F : Faults → Faults → Prop) (past past' : List Call) (d e : Desk) :
    Prop where
  provider : d.provider.Parallel F past past' e.provider
  caches : d.caches = e.caches

variable {F : Faults → Faults → Prop} {past past' : List Call}

/-! ## Providers -/

namespace Provider.Parallel

variable {p q : Provider}

theorem called (h : p.Parallel F past past' q) (c : Call) :
    (p.called c).Parallel F past past' (q.called c) := by
  obtain ⟨since, hp, hq⟩ := h.calls
  refine ⟨h.source, h.faults, since ++ [c], ?_, ?_⟩
  · rw [Provider.called, hp, List.append_assoc]
  · rw [Provider.called, hq, List.append_assoc]

theorem answer (hF : Faults.AlikeForProvider F) (h : p.Parallel F past past' q) (l : Lookup) :
    (p.answer l).1 = (q.answer l).1 ∧ (p.answer l).2.Parallel F past past' (q.answer l).2 := by
  have hfaults := (hF h.faults).1 l.family
  rw [Provider.answer, Provider.answer, answerCall, answerCall, ← h.source, ← hfaults]
  cases p.faults.find? (.lookup l.family) with
  | none => exact ⟨rfl, h.called _⟩
  | some e =>
      cases p.source.recordsFaults with
      | false => exact ⟨rfl, h⟩
      | true => exact ⟨rfl, h.called _⟩

theorem resolve (hF : Faults.AlikeForProvider F) (h : p.Parallel F past past' q) (name : Json) :
    (p.resolve name).1 = (q.resolve name).1 ∧
      (p.resolve name).2.Parallel F past past' (q.resolve name).2 := by
  have hfaults := (hF h.faults).2
  rw [Provider.resolve, Provider.resolve, ← h.source, ← hfaults]
  cases p.faults.find? .resolve with
  | some e => exact ⟨rfl, h⟩
  | none => exact ⟨rfl, h.called _⟩

/-- Whether figures can be replaced does not depend on faults or calls. -/
theorem updateFigures (h : p.Parallel F past past' q) (v : Json) :
    (p.updateFigures v).1 = (q.updateFigures v).1 ∧
      (p.updateFigures v).2.Parallel F past past' (q.updateFigures v).2 := by
  rw [Provider.updateFigures, Provider.updateFigures, ← h.source]
  exact ⟨rfl, rfl, h.faults, h.calls⟩

end Provider.Parallel

/-! ## Memos -/

/-- A value is fetched equally by loads that end equally. -/
theorem Memo.fetch_related {V σ τ : Type} {R : σ → τ → Prop} {load : σ → Except Failure V × σ}
    {load' : τ → Except Failure V × τ} {s : σ} {t : τ} (hst : R s t)
    (h : (load s).1 = (load' t).1 ∧ R (load s).2 (load' t).2) (m : Memo V) (key : String) :
    (m.fetch key load s).1 = (m.fetch key load' t).1 ∧
      (m.fetch key load s).2.1 = (m.fetch key load' t).2.1 ∧
      R (m.fetch key load s).2.2 (m.fetch key load' t).2.2 := by
  obtain ⟨hresult, hrel⟩ := h
  rw [fetch, fetch]
  rcases m.request key with ⟨_ | _ | ticket, m'⟩
  · exact ⟨rfl, rfl, hst⟩
  · exact ⟨rfl, rfl, hst⟩
  · rcases hs : load s with ⟨result, s'⟩
    rcases ht : load' t with ⟨result', t'⟩
    rw [hs, ht] at hresult hrel
    cases hresult
    cases result with
    | ok v => exact ⟨rfl, rfl, hrel⟩
    | error e => exact ⟨rfl, rfl, hrel⟩

/-! ## Desks -/

namespace Desk.Parallel

variable {d e : Desk}

theorem answer (hF : Faults.AlikeForProvider F) (h : d.Parallel F past past' e) (l : Lookup) :
    (d.answer l).1 = (e.answer l).1 ∧ (d.answer l).2.Parallel F past past' (e.answer l).2 := by
  have hload := h.provider.answer hF l
  rw [Desk.answer, Desk.answer, ← h.caches]
  cases d.caches with
  | none => exact ⟨hload.1, hload.2, rfl⟩
  | some c =>
      obtain ⟨hresult, hmemo, hrel⟩ := Memo.fetch_related h.provider hload (c.memo l.family) l.key
      exact ⟨hresult, hrel, congrArg (fun m => some (c.set l.family m)) hmemo⟩

theorem resolve (hF : Faults.AlikeForProvider F) (h : d.Parallel F past past' e) (name : Json) :
    (d.resolve name).1 = (e.resolve name).1 ∧
      (d.resolve name).2.Parallel F past past' (e.resolve name).2 := by
  have hresolve := h.provider.resolve hF name
  rw [Desk.resolve, Desk.resolve, ← h.caches]
  cases d.caches with
  | none => exact ⟨hresolve.1, hresolve.2, rfl⟩
  | some c => exact ⟨hresolve.1, hresolve.2, rfl⟩

theorem updateFigures (h : d.Parallel F past past' e) (v : Json) :
    (d.updateFigures v).1 = (e.updateFigures v).1 ∧
      (d.updateFigures v).2.Parallel F past past' (e.updateFigures v).2 :=
  ⟨(h.provider.updateFigures v).1, (h.provider.updateFigures v).2, h.caches⟩

theorem clear (h : d.Parallel F past past' e) :
    d.clear.1 = e.clear.1 ∧ d.clear.2.Parallel F past past' e.clear.2 := by
  rw [Desk.clear, Desk.clear, ← h.caches]
  cases hc : d.caches with
  | none => exact ⟨rfl, h⟩
  | some c => exact ⟨rfl, h.provider, rfl⟩

end Desk.Parallel

end Recommender
