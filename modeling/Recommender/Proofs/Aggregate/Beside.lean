import Recommender.Proofs.Aggregate.Snapshot

/-!
# With memos and without them

Two desks have their answers from one source.  One of them has memos in front of its provider, the
other has none.  While the source stays the same, the two desks answer alike; behind the memos, each
different lookup is asked once, in the order in which the other provider is first asked for it.
-/

namespace Recommender

/-- The lookups among some calls. -/
def lookupsIn (calls : List Call) : List Lookup :=
  calls.filterMap fun
    | .lookup l => some l
    | _ => none

/-- The names to resolve among some calls. -/
def namesIn (calls : List Call) : List Json :=
  calls.filterMap fun
    | .resolve name => some name
    | _ => none

/-- A source answers every lookup with a given figure. -/
def Source.Gives (source : Source) (faults : Faults) (figure : Lookup → Json) : Prop :=
  ∀ l, (({ source, faults } : Provider).answer l).1 = .ok (figure l)

/-- A provider has its answers from a source and is told to fail in given operations. -/
structure Provider.WorksFrom (source : Source) (faults : Faults) (p : Provider) : Prop where
  source : p.source = source
  faults : p.faults = faults

/-- A desk with memos beside one without them.  Some lookups have reached the providers before the
calls that they know of; what has reached the provider behind the memos is what has reached the
other one, each lookup once.  In a *fresh* desk, this is what the memos hold. -/
structure Desk.Beside (source : Source) (faults : Faults) (fresh : Bool)
    (seen seen' : List Lookup) (d e : Desk) : Prop where
  left : d.provider.WorksFrom source faults
  right : e.provider.WorksFrom source faults
  bare : e.caches = none
  asked : seen ++ lookupsIn d.provider.calls =
    (seen' ++ lookupsIn e.provider.calls).eraseDups
  names : namesIn d.provider.calls = namesIn e.provider.calls
  remembered : ∃ c, d.caches = some c ∧ (fresh = true → ∃ figure, source.Gives faults figure ∧
    c.Holds ((seen ++ lookupsIn d.provider.calls).map fun l => (l, figure l)))

variable {source : Source} {faults : Faults} {fresh : Bool} {seen seen' : List Lookup}

/-! ## Calls -/

@[simp] theorem lookupsIn_nil : lookupsIn [] = [] := rfl

@[simp] theorem lookupsIn_called_lookup (p : Provider) (l : Lookup) :
    lookupsIn (p.called (.lookup l)).calls = lookupsIn p.calls ++ [l] := by
  rw [lookupsIn, Provider.called, List.filterMap_append, lookupsIn]
  rfl

@[simp] theorem lookupsIn_called_resolve (p : Provider) (name : Json) :
    lookupsIn (p.called (.resolve name)).calls = lookupsIn p.calls := by
  rw [lookupsIn, Provider.called, List.filterMap_append]
  exact List.append_nil _

@[simp] theorem namesIn_called_lookup (p : Provider) (l : Lookup) :
    namesIn (p.called (.lookup l)).calls = namesIn p.calls := by
  rw [namesIn, Provider.called, List.filterMap_append]
  exact List.append_nil _

@[simp] theorem namesIn_called_resolve (p : Provider) (name : Json) :
    namesIn (p.called (.resolve name)).calls = namesIn p.calls ++ [name] := by
  rw [namesIn, Provider.called, List.filterMap_append, namesIn]
  rfl

/-- An element that is there already is no new one. -/
theorem eraseDups_concat_of_mem {α : Type} [BEq α] [LawfulBEq α] {xs : List α} {a : α}
    (h : a ∈ xs) : (xs ++ [a]).eraseDups = xs.eraseDups := by
  rw [List.eraseDups_append]
  simp [List.removeAll, h]

/-- An element that is not there yet comes last. -/
theorem eraseDups_concat_of_not_mem {α : Type} [BEq α] [LawfulBEq α] {xs : List α} {a : α}
    (h : a ∉ xs) : (xs ++ [a]).eraseDups = xs.eraseDups ++ [a] := by
  rw [List.eraseDups_append]
  simp [List.removeAll, List.eraseDups_cons, h]

/-! ## Providers of one source -/

namespace Provider.WorksFrom

variable {p q : Provider}

theorem called (h : p.WorksFrom source faults) (c : Call) :
    (p.called c).WorksFrom source faults :=
  ⟨h.source, h.faults⟩

/-- What a source gives is the answer of a provider that works from it, which is called for it. -/
theorem answer_eq {figure : Lookup → Json} (h : p.WorksFrom source faults)
    (hgives : source.Gives faults figure) (l : Lookup) :
    p.answer l = (.ok (figure l), p.called (.lookup l)) := by
  have hl := hgives l
  rw [Provider.answer, answerCall] at hl ⊢
  rw [h.source, h.faults]
  cases hfault : faults.find? (.lookup l.family) with
  | some e =>
      rw [hfault] at hl
      cases hl
  | none =>
      rw [hfault] at hl
      exact congrArg (·, p.called (.lookup l)) hl

/-- A name is resolved alike by two providers of one source, and either is called or neither. -/
theorem resolve_alike (hp : p.WorksFrom source faults) (hq : q.WorksFrom source faults)
    (name : Json) :
    (p.resolve name).1 = (q.resolve name).1 ∧
      ((p.resolve name).2 = p ∧ (q.resolve name).2 = q ∨
        (p.resolve name).2 = p.called (.resolve name) ∧
          (q.resolve name).2 = q.called (.resolve name)) := by
  rw [Provider.resolve, Provider.resolve, hp.source, hp.faults, hq.source, hq.faults]
  cases faults.find? .resolve with
  | some e => exact ⟨rfl, .inl ⟨rfl, rfl⟩⟩
  | none => exact ⟨rfl, .inr ⟨rfl, rfl⟩⟩

/-- Figures are replaced in a provider as they are in its source. -/
theorem updateFigures_eq (h : p.WorksFrom source faults) (v : Json) :
    p.updateFigures v =
      ((source.updateFigures v).1, p.replaceSource (source.updateFigures v).2) := by
  rw [Provider.updateFigures, h.source]
  rfl

theorem replaceSource (h : p.WorksFrom source faults) (source' : Source) :
    (p.replaceSource source').WorksFrom source' faults :=
  ⟨rfl, h.faults⟩

end Provider.WorksFrom

/-! ## Desks of one source -/

namespace Desk.Beside

variable {d e : Desk}

/-- **A lookup is answered alike with fresh memos and without memos**, and reaches the provider
behind the memos if it is the first time. -/
theorem answer (h : d.Beside source faults true seen seen' e) (l : Lookup) :
    (d.answer l).1 = (e.answer l).1 ∧
      (d.answer l).2.Beside source faults true seen seen' (e.answer l).2 := by
  obtain ⟨c, hc, hfresh⟩ := h.remembered
  obtain ⟨figure, hgives, hholds⟩ := hfresh rfl
  have hbare : e.answer l = (.ok (figure l), ⟨e.provider.called (.lookup l), none⟩) := by
    rw [Desk.answer, h.bare, h.right.answer_eq hgives l]
  by_cases hl : l ∈ seen ++ lookupsIn d.provider.calls
  · have hmem : (l, figure l) ∈ (seen ++ lookupsIn d.provider.calls).map fun l => (l, figure l) :=
      List.mem_map.mpr ⟨l, hl, rfl⟩
    obtain ⟨m, hm, he, hf⟩ :=
      Caches.answer_of_remembered ((hholds.find?_iff _ _).mpr hmem) Provider.answer d.provider
    have hseen : l ∈ seen' ++ lookupsIn e.provider.calls := by
      rw [h.asked, List.mem_eraseDups] at hl
      exact hl
    have hmemo : d.answer l = (.ok (figure l), ⟨d.provider, some (c.set l.family m)⟩) := by
      simp only [Desk.answer, hc, hm]
    rw [hmemo, hbare]
    refine ⟨rfl, h.left, h.right.called _, rfl, ?_, ?_, ?_⟩
    · rw [lookupsIn_called_lookup, ← List.append_assoc, eraseDups_concat_of_mem hseen, h.asked]
    · rw [namesIn_called_lookup, h.names]
    · exact ⟨_, rfl, fun _ => ⟨figure, hgives, hholds.congr (Caches.agrees_set he hf)⟩⟩
  · have hnew : ∀ w, (l, w) ∉ (seen ++ lookupsIn d.provider.calls).map fun l => (l, figure l) := by
      intro w hw
      obtain ⟨l', hl', heq⟩ := List.mem_map.mp hw
      cases heq
      exact hl hl'
    obtain ⟨m, hm, he, hf⟩ :=
      Caches.answer_of_lacks (hholds.lacks hnew) Provider.answer d.provider
    have hseen : l ∉ seen' ++ lookupsIn e.provider.calls := by
      rw [h.asked, List.mem_eraseDups] at hl
      exact hl
    rw [h.left.answer_eq hgives l] at hm he
    rw [hholds.settled] at hf
    have hmemo : d.answer l =
        (.ok (figure l), ⟨d.provider.called (.lookup l), some (c.set l.family m)⟩) := by
      simp only [Desk.answer, hc, hm]
    rw [hmemo, hbare]
    refine ⟨rfl, h.left.called _, h.right.called _, rfl, ?_, ?_, ?_⟩
    · rw [lookupsIn_called_lookup, lookupsIn_called_lookup, ← List.append_assoc,
        ← List.append_assoc, eraseDups_concat_of_not_mem hseen, h.asked]
    · rw [namesIn_called_lookup, namesIn_called_lookup, h.names]
    · refine ⟨_, rfl, fun _ => ⟨figure, hgives, ?_⟩⟩
      rw [lookupsIn_called_lookup, ← List.append_assoc, List.map_append]
      exact hholds.put hnew he hf

theorem resolve (h : d.Beside source faults fresh seen seen' e) (name : Json) :
    (d.resolve name).1 = (e.resolve name).1 ∧
      (d.resolve name).2.Beside source faults fresh seen seen' (e.resolve name).2 := by
  obtain ⟨c, hc, hfresh⟩ := h.remembered
  obtain ⟨hresult, hcalled⟩ := h.left.resolve_alike h.right name
  rw [Desk.resolve, Desk.resolve, hc, h.bare]
  refine ⟨hresult, ?_⟩
  simp only [Caches.resolve]
  obtain ⟨hd, he⟩ | ⟨hd, he⟩ := hcalled
  · rw [hd, he]
    exact ⟨h.left, h.right, rfl, h.asked, h.names, c, rfl, hfresh⟩
  · rw [hd, he]
    refine ⟨h.left.called _, h.right.called _, rfl, ?_, ?_, c, rfl, ?_⟩
    · rw [lookupsIn_called_resolve, lookupsIn_called_resolve, h.asked]
    · rw [namesIn_called_resolve, namesIn_called_resolve, h.names]
    · rw [lookupsIn_called_resolve]
      exact hfresh

/-- With another source, what the memos hold is not known to be what the source gives. -/
theorem replaceSource (h : d.Beside source faults fresh seen seen' e) (source' : Source) :
    (d.mapProvider (·.replaceSource source')).Beside source' faults false seen seen'
      (e.mapProvider (·.replaceSource source')) := by
  obtain ⟨c, hc, -⟩ := h.remembered
  exact ⟨h.left.replaceSource source', h.right.replaceSource source', h.bare, h.asked, h.names, c,
    hc, nofun⟩

/-- New figures are another source. -/
theorem updateFigures (h : d.Beside source faults fresh seen seen' e) (v : Json) :
    (d.updateFigures v).1 = (e.updateFigures v).1 ∧
      (d.updateFigures v).2.Beside (source.updateFigures v).2 faults false seen seen'
        (e.updateFigures v).2 := by
  have hreplaced := h.replaceSource (source.updateFigures v).2
  rw [Desk.updateFigures, Desk.updateFigures, h.left.updateFigures_eq, h.right.updateFigures_eq]
  exact ⟨rfl, hreplaced⟩

/-- Cleared memos are fresh, if the source answers every lookup. -/
theorem clear {figure : Lookup → Json} (h : d.Beside source faults fresh seen seen' e)
    (hgives : source.Gives faults figure) (hd : d.provider.calls = [])
    (he : e.provider.calls = []) :
    d.clear.2.Beside source faults true [] [] e.clear.2 := by
  obtain ⟨c, hc, -⟩ := h.remembered
  rw [Desk.clear, Desk.clear, hc, h.bare]
  refine ⟨h.left, h.right, h.bare, ?_, h.names, c.clear.2, rfl, fun _ => ⟨figure, hgives, ?_⟩⟩
  · show [] ++ lookupsIn d.provider.calls = ([] ++ lookupsIn e.provider.calls).eraseDups
    rw [hd, he]
    rfl
  · show c.clear.2.Holds (([] ++ lookupsIn d.provider.calls).map fun l => (l, figure l))
    rw [hd]
    exact c.holds_clear

/-- The calls that are taken have been seen. -/
theorem takeCalls (h : d.Beside source faults fresh seen seen' e) :
    d.takeCalls.2.Beside source faults fresh (seen ++ lookupsIn d.provider.calls)
      (seen' ++ lookupsIn e.provider.calls) e.takeCalls.2 := by
  obtain ⟨c, hc, hfresh⟩ := h.remembered
  refine ⟨⟨h.left.source, h.left.faults⟩, ⟨h.right.source, h.right.faults⟩, h.bare, ?_, rfl, c, hc,
    ?_⟩
  · show _ ++ [] = (_ ++ []).eraseDups
    rw [List.append_nil, List.append_nil, h.asked]
  · show _ → ∃ figure, _ ∧ c.Holds ((_ ++ []).map _)
    rw [List.append_nil]
    exact hfresh

end Desk.Beside

end Recommender
