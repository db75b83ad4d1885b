import Recommender.Proofs.Memo.Waiting

/-!
# Cancelling a caller

Two runs go side by side: the same events happen in both, except that in the first one some callers
are cancelled that are not cancelled in the second one.  The memo and the loads stay equal, and so
do all callers but those that are cancelled.  A load belongs to no caller, neither to the one that
has begun it nor to those that have joined it.
-/

namespace Recommender

/-- A step of two runs side by side. -/
inductive PairedStep (V : Type) where
  /-- An event happens in both runs. -/
  | both (e : SessionEvent V)
  /-- A caller is cancelled in the first run; nothing happens in the second one. -/
  | cancelFirst (caller : Nat)

namespace PairedStep

variable {V : Type}

/-- What happens in the first run. -/
def inFirst : PairedStep V → SessionEvent V
  | .both e => e
  | .cancelFirst caller => .cancel caller

/-- What happens in the second run. -/
def inSecond? : PairedStep V → Option (SessionEvent V)
  | .both e => some e
  | .cancelFirst _ => none

end PairedStep

namespace Session

variable {V : Type} {s t : Session V}

/-- The session that the first run leads to. -/
def reachedFirst (steps : List (PairedStep V)) : Session V :=
  reached (steps.map PairedStep.inFirst)

/-- The session that the second run leads to. -/
def reachedSecond (steps : List (PairedStep V)) : Session V :=
  reached (steps.filterMap PairedStep.inSecond?)

/-! ## Sessions that differ in cancelled callers only -/

/-- Two sessions are alike but for callers in `left`, who may be cancelled in the first one. -/
structure Alike (left : Nat → Prop) (s t : Session V) : Prop where
  memo : s.memo = t.memo
  loads : s.loads = t.loads
  length : s.callers.length = t.callers.length
  caller : ∀ (i : Nat) (c : Caller V), s.callers[i]? = some c →
    t.callers[i]? = some c ∨ left i ∧ c = .cancelled

/-- What an event does to the memo and to the loads does not depend on the callers. -/
theorem memo_loads_step (hm : s.memo = t.memo) (hl : s.loads = t.loads) (e : SessionEvent V) :
    (s.step e).memo = (t.step e).memo ∧ (s.step e).loads = (t.step e).loads := by
  obtain ⟨m, l, cs⟩ := s
  obtain ⟨m', l', ct⟩ := t
  cases hm
  cases hl
  cases e with
  | request key => simp only [step, request]; split <;> exact ⟨rfl, rfl⟩
  | complete load o => simp only [step, complete]; split <;> exact ⟨rfl, rfl⟩
  | settle load => simp only [step, settle]; split <;> exact ⟨rfl, rfl⟩
  | resume caller => exact ⟨rfl, rfl⟩
  | cancel caller => exact ⟨rfl, rfl⟩
  | clear => exact ⟨rfl, rfl⟩

theorem outcome?_congr (hl : s.loads = t.loads) (n : Nat) : s.outcome? n = t.outcome? n := by
  rw [outcome?, outcome?, hl]

theorem settlement?_congr (hl : s.loads = t.loads) (n : Nat) :
    s.settlement? n = t.settlement? n := by
  rw [settlement?, settlement?, hl]

/-- Where a caller stands that has just come does not depend on the other callers. -/
theorem newcomer_congr (hm : s.memo = t.memo) (hl : s.loads = t.loads) (key : String) :
    s.newcomer key = t.newcomer key := by
  simp only [newcomer, joining, hm, outcome?_congr hl]

/-- What an event does to a caller does not depend on the other callers. -/
theorem afterEvent_congr (hl : s.loads = t.loads) (i : Nat) (c : Caller V) (e : SessionEvent V) :
    s.afterEvent i c e = t.afterEvent i c e := by
  have hturn : s.afterResuming c = t.afterResuming c := by
    cases c with
    | waiting n => rw [afterResuming, afterResuming, settlement?_congr hl]
    | finished o => rfl
    | cancelled => rfl
  cases e with
  | resume j => rw [afterEvent, afterEvent, hturn]
  | request key => rfl
  | complete load o => rfl
  | settle load => rfl
  | cancel j => rfl
  | clear => rfl

/-- A caller that was cancelled stays so. -/
theorem afterEvent_cancelled (s : Session V) (i : Nat) (e : SessionEvent V) :
    s.afterEvent i .cancelled e = .cancelled := by
  obtain hsame | ⟨n, o, hc, -⟩ | ⟨n, hc, -⟩ := s.afterEvent_cases i .cancelled e
  · exact hsame
  · cases hc
  · cases hc

namespace Alike

variable {left left' : Nat → Prop}

theorem refl (s : Session V) : Alike left s s :=
  ⟨rfl, rfl, rfl, fun _ _ h => .inl h⟩

theorem mono (h : Alike left s t) (hl : ∀ i, left i → left' i) : Alike left' s t :=
  ⟨h.memo, h.loads, h.length, fun i c hc => (h.caller i c hc).imp id (.imp_left (hl i))⟩

/-- An event that happens in both sessions keeps them alike. -/
theorem step (h : Alike left s t) (e : SessionEvent V) : Alike left (s.step e) (t.step e) := by
  obtain ⟨hmemo, hloads⟩ := memo_loads_step h.memo h.loads e
  refine ⟨hmemo, hloads, by rw [length_callers_step, length_callers_step, h.length], ?_⟩
  intro i c hc
  obtain ⟨c', hc', rfl⟩ | ⟨key, rfl, rfl, rfl⟩ := callers_step_cases hc
  · obtain hsame | ⟨hleft, rfl⟩ := h.caller i c' hc'
    · rw [afterEvent_congr h.loads]
      exact .inl (callers_step e hsame)
    · exact .inr ⟨hleft, afterEvent_cancelled s i e⟩
  · rw [newcomer_congr h.memo h.loads, h.length]
    exact .inl (t.getElem?_callers_request key)

/-- Cancelling a caller in `left` in the first session keeps the two alike. -/
theorem cancel_left (h : Alike left s t) {j : Nat} (hj : left j) : Alike left (s.cancel j) t := by
  refine ⟨h.memo, h.loads, by rw [cancel, List.length_modify, h.length], ?_⟩
  intro i c hc
  have hstep : (s.step (.cancel j)).callers[i]? = some c := hc
  obtain ⟨c', hc', rfl⟩ | ⟨key, he, -⟩ := callers_step_cases hstep
  · rw [afterEvent]
    split
    · next hij =>
        cases c' with
        | waiting n => exact .inr ⟨hij ▸ hj, rfl⟩
        | finished o => exact h.caller i _ hc'
        | cancelled => exact h.caller i _ hc'
    · exact h.caller i c' hc'
  · cases he

/-- Where the two sessions tell a caller apart, the caller was cancelled in the first one. -/
theorem getElem?_callers (h : Alike left s t) (i : Nat) :
    s.callers[i]? = t.callers[i]? ∨ left i ∧ s.callers[i]? = some .cancelled := by
  cases hc : s.callers[i]? with
  | none =>
      rw [List.getElem?_eq_none_iff, h.length] at hc
      exact .inl (List.getElem?_eq_none hc).symm
  | some c =>
      obtain hsame | ⟨hleft, rfl⟩ := h.caller i c hc
      · exact .inl hsame.symm
      · exact .inr ⟨hleft, rfl⟩

end Alike

/-- Two runs side by side keep alike. -/
theorem alike_reached (steps : List (PairedStep V)) :
    Alike (fun i => .cancelFirst i ∈ steps) (reachedFirst steps) (reachedSecond steps) := by
  induction steps using List.reverseRecOn with
  | nil => exact .refl _
  | append_singleton steps step ih =>
      have hbefore : Alike (fun i => .cancelFirst i ∈ steps ++ [step])
          (reachedFirst steps) (reachedSecond steps) :=
        ih.mono fun i hi => List.mem_append_left _ hi
      rw [reachedFirst, List.map_append, reachedSecond, List.filterMap_append]
      cases step with
      | both e =>
          have hstep := hbefore.step e
          rw [reachedFirst, reachedSecond, ← reached_concat, ← reached_concat] at hstep
          exact hstep
      | cancelFirst i =>
          have hcancel := hbefore.cancel_left (List.mem_append_right _ List.mem_cons_self)
          rw [List.map_singleton, reached_concat, List.filterMap_cons_none rfl,
            List.filterMap_nil, List.append_nil]
          exact hcancel

/-! ## Loads outlive the callers that have begun them -/

/-- Once a load has settled, a caller that has met it and was not cancelled goes on with its outcome
in its turn. -/
theorem finished_of_settled {s : Session V} (h : s.Coherent) {key : String} {n : Nat}
    (hn : (s.memo.request key).1.load? = some n) {after : List (SessionEvent V)}
    (hcancel : .cancel s.callers.length ∉ after) {o : Outcome V}
    (hs : ((s.request key).run after).settlement? n = some o) :
    (((s.request key).run after).resume s.callers.length).callers[s.callers.length]? =
      some (.finished o) := by
  obtain hwaits | ⟨p, hp, hgone⟩ | ⟨hmem, -⟩ := caller_of_load? h hn after
  · have hturn := callers_step (.resume s.callers.length) hwaits
    rw [afterEvent, if_pos rfl, afterResuming, hs] at hturn
    exact hturn
  · have hturn := callers_step (.resume s.callers.length) hgone
    have heq : p = o := Option.some.inj (hp.symm.trans (outcome?_of_settlement? hs))
    rw [afterEvent, if_pos rfl, heq] at hturn
    exact hturn
  · exact absurd hmem hcancel

/-- **Cancelling a caller disturbs nobody else.**  Let two runs go side by side, where callers are
cancelled in the first one that are not cancelled in the second one.  After every step the memo is
the same in both, with its values, the loads in flight and what it has counted; so are the loads
that have begun, and every caller but those that were cancelled in the first run only.  And whoever
has met a load, be it by beginning or by joining it, and was not cancelled goes on with its outcome
once it has settled, whichever other callers of it were cancelled. -/
theorem cancelling_disturbs_nobody_else (steps : List (PairedStep V)) :
    (reachedFirst steps).memo = (reachedSecond steps).memo ∧
    (reachedFirst steps).loads = (reachedSecond steps).loads ∧
    (reachedFirst steps).callers.length = (reachedSecond steps).callers.length ∧
    (∀ i : Nat, (reachedFirst steps).callers[i]? = (reachedSecond steps).callers[i]? ∨
      .cancelFirst i ∈ steps ∧ (reachedFirst steps).callers[i]? = some .cancelled) ∧
    (∀ before key after n o, steps.map PairedStep.inFirst = before ++ .request key :: after →
      ((reached before).memo.request key).1.load? = some n →
      .cancel (reached before).callers.length ∉ after →
      (reachedFirst steps).settlement? n = some o →
      ((reachedFirst steps).resume (reached before).callers.length).callers[
        (reached before).callers.length]? = some (.finished o)) := by
  have h := alike_reached steps
  refine ⟨h.memo, h.loads, h.length, h.getElem?_callers, ?_⟩
  intro before key after n o hsplit hn hcancel hs
  rw [reachedFirst, hsplit, reached_append, run_cons] at hs ⊢
  exact finished_of_settled (coherent_reached before) hn hcancel hs

/-- The caller that has begun a load is cancelled in the first run, and another one has joined. -/
def abandoned : List (PairedStep Nat) :=
  [.both (.request "k"), .both (.request "k"), .cancelFirst 0, .both (.complete 0 (.value 7)),
    .both (.settle 0)]

theorem cancelling_disturbs_nobody_else_abandoned :
    (reachedFirst abandoned).memo.entries = [("k", 7)] ∧
      (reachedSecond abandoned).memo.entries = [("k", 7)] ∧
      (reachedFirst abandoned).callers[0]? = some .cancelled ∧
      (reachedSecond abandoned).callers[0]? = some (.waiting 0) ∧
      ((reachedFirst abandoned).resume 1).callers[1]? = some (.finished (.value 7)) := by
  obtain ⟨hmemo, -, -, -, hanswered⟩ := cancelling_disturbs_nobody_else abandoned
  have hentries : (reachedFirst abandoned).memo.entries = [("k", 7)] := rfl
  have hcame : (reached [SessionEvent.request "k"] : Session Nat).callers.length = 1 := rfl
  refine ⟨hentries, by rw [← hmemo, hentries], rfl, rfl, ?_⟩
  refine hanswered [.request "k"] "k" [.cancel 0, .complete 0 (.value 7), .settle 0] 0 (.value 7)
    rfl rfl ?_ rfl
  rw [hcame]
  simp

end Session

end Recommender
