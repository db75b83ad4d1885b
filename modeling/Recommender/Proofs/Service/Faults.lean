import Recommender.Proofs.Service.Authoring

/-!
# Adding and deleting with faults

What adding and deleting a rule do to the service, whatever operations of its stores are told to
fail: one equation for each, by the first request that fails.  A request that is told to fail does
nothing else.
-/

namespace Recommender

/-- The failure of the validation of a rule, if it fails. -/
def Rule.rejection? (r : Rule) : Option Failure :=
  match r.queries, r.validate with
  | none, _ => some .mistyped
  | some _, .error e => some e
  | some _, .ok _ => none

/-- A rule is valid exactly if it has a list of queries that are all accepted. -/
theorem Rule.rejection?_eq_none_iff {r : Rule} :
    r.rejection? = none ↔ r.queries.isSome = true ∧ r.accepted = true := by
  cases hqueries : r.queries with
  | none => simp [rejection?, hqueries]
  | some queries =>
      cases hv : r.validate with
      | ok clauses => simp [rejection?, hqueries, hv, accepted_of_validate hv]
      | error e =>
          have hnot : r.accepted ≠ true := by
            intro haccepted
            obtain ⟨clauses, hclauses⟩ := exists_mapM_eq_ok_iff.mpr (accepted_iff.mp haccepted)
            cases hv.symm.trans hclauses
          simp [rejection?, hqueries, hv, hnot]

namespace ServiceState

variable {s : ServiceState} {r : Rule}

/-- An operation that is told to fail does so, and does nothing else. -/
theorem unlessFaulty_of_fault {α : Type} {op : Operation} {e : Failure}
    (h : s.faults.find? op = some e) (act : ServiceState → α × ServiceState) :
    s.unlessFaulty op act = (.error e, s) := by
  rw [unlessFaulty, h]

theorem unlessFaulty_of_not_fault {α : Type} {op : Operation} (h : s.faults.find? op = none)
    (act : ServiceState → α × ServiceState) :
    s.unlessFaulty op act = (.ok (act s).1, (act s).2) := by
  rw [unlessFaulty, h]

/-! ## Adding rules -/

theorem addRule_of_rejection {why : Failure} (h : r.rejection? = some why) :
    addRule r = .raise why := by
  rw [Rule.rejection?] at h
  rw [addRule]
  split at h <;> simp_all

theorem addRule_of_not_rejected (h : r.rejection? = none) : addRule r = storeRule r := by
  rw [Rule.rejection?] at h
  rw [addRule]
  split at h <;> simp_all

/-- What storing a rule does, by the first of its requests that is told to fail. -/
theorem perform_storeRule (r : Rule) (s : ServiceState) :
    s.perform (storeRule r) =
      match s.faults.find? .saveRule with
      | some e => (.error e, s)
      | none =>
        match s.faults.find? .initCount with
        | none => (.ok { r with id := .int s.rules.nextId }, { s with
            rules := (s.rules.save r).2
            counts := s.counts.start (.number s.rules.nextId) })
        | some e =>
          match s.faults.find? .deleteRule with
          | some e' => (.error e', { s with rules := (s.rules.save r).2 })
          | none => (.error e, { s with
              rules := (s.rules.save r).2.delete (.number s.rules.nextId) }) := by
  refine (perform_request_bind (.saveRule r) _ s).trans ?_
  cases hsave : s.faults.find? .saveRule with
  | some e => rw [answer, unlessFaulty_of_fault hsave]
  | none =>
      have hsaved : s.answer (.saveRule r) =
          (.ok s.rules.nextId, { s with rules := (s.rules.save r).2 }) := by
        rw [answer, unlessFaulty_of_not_fault hsave]
        rfl
      generalize ht : ({ s with rules := (s.rules.save r).2 } : ServiceState) = t at hsaved
      have hfaults : t.faults = s.faults := by rw [← ht]; rfl
      rw [hsaved]
      refine (perform_attempt_bind (.startCount (.number s.rules.nextId)) _ t).trans ?_
      cases hstart : s.faults.find? .initCount with
      | none =>
          rw [answer, unlessFaulty_of_not_fault (hfaults ▸ hstart), ← ht]
          rfl
      | some e =>
          rw [answer, unlessFaulty_of_fault (hfaults ▸ hstart)]
          refine (perform_request_bind (.deleteRule (.number s.rules.nextId)) _ t).trans ?_
          cases hdelete : s.faults.find? .deleteRule with
          | some e' => rw [answer, unlessFaulty_of_fault (hfaults ▸ hdelete), ← ht]
          | none =>
              rw [answer, unlessFaulty_of_not_fault (hfaults ▸ hdelete), ← ht]
              rfl

/-! ## Deleting rules -/

/-- What deleting a rule does, by the first of its requests that is told to fail. -/
theorem perform_deleteRule (id : RuleId) (s : ServiceState) :
    s.perform (deleteRule id) =
      match s.faults.find? .ruleExists with
      | some e => (.error e, s)
      | none =>
        if s.rules.contains id = true then
          match s.faults.find? .deleteRule with
          | some e => (.error e, s)
          | none =>
            match s.faults.find? .deleteCount with
            | some e => (.error e, { s with rules := s.rules.delete id })
            | none => (.ok (), { s with rules := s.rules.delete id, counts := s.counts.drop id })
        else (.error (ruleMissing id.toJson), s) := by
  refine (perform_request_bind (.ruleExists id) _ s).trans ?_
  cases hexists : s.faults.find? .ruleExists with
  | some e => rw [answer, unlessFaulty_of_fault hexists]
  | none =>
      rw [answer, unlessFaulty_of_not_fault hexists]
      by_cases hid : s.rules.contains id = true
      · simp only [hid, if_true]
        refine (perform_request_bind (.deleteRule id) _ s).trans ?_
        cases hdelete : s.faults.find? .deleteRule with
        | some e => rw [answer, unlessFaulty_of_fault hdelete]
        | none =>
            rw [answer, unlessFaulty_of_not_fault hdelete]
            generalize ht : ({ s with rules := s.rules.delete id } : ServiceState) = t
            have hfaults : t.faults = s.faults := by rw [← ht]; rfl
            refine (Program.run_request (I := Backend) collaborator (.dropCount id) t).trans ?_
            show t.answer (.dropCount id) = _
            cases hdrop : s.faults.find? .deleteCount with
            | some e =>
                rw [answer, unlessFaulty_of_fault (hfaults ▸ hdrop)]
                rfl
            | none =>
                rw [answer, unlessFaulty_of_not_fault (hfaults ▸ hdrop), ← ht]
                rfl
      · rw [Bool.not_eq_true] at hid
        simp only [hid, Bool.false_eq_true, if_false]
        rfl

end ServiceState

end Recommender
