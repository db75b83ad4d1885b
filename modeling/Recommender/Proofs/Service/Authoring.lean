import Recommender.Proofs.Rule.Judgement
import Recommender.Proofs.Service.Traffic

/-!
# Authoring and evaluation agree

A rule is validated as a whole when it is added, and query by query when it is evaluated.  What the
first accepts, the second never rejects: an accepted rule is evaluated without being malformed, and
the evaluation fails only through the provider.  And what the second rejects, the first does not
accept, for the same reason.
-/

namespace Recommender

/-- A failure of an evaluation that is due to the provider: it fails to give a figure, or gives
figures that cannot be compared. -/
inductive ByProvider (history : List (Occurrence Judgement)) : Failure → Prop where
  | lookup {l : Lookup} {e : Failure} (h : .asked l (.error e) ∈ history) : ByProvider history e
  | sum {p : Product} {d : Direction} {user : Uuid} {c : Comparison} {n : Int} {total : Json}
      (h : .asked (.turnover p d user) (.ok total) ∈ history)
      (hcompare : c.compare? total (.int n) = none) : ByProvider history .mistyped
  | sums {p : Product} {user : Uuid} {c : Comparison} {deposits withdrawals : Json}
      (hdeposits : .asked (.deposits p user) (.ok deposits) ∈ history)
      (hwithdrawals : .asked (.withdrawals p user) (.ok withdrawals) ∈ history)
      (hcompare : c.compare? deposits withdrawals = none) : ByProvider history .mistyped

/-- An evaluation ended with a verdict on a rule that is not malformed, or failed through the
provider. -/
def EndsWell (history : List (Occurrence Judgement)) : Except Failure Evaluation → Prop
  | .ok ev => ev.verdict ≠ .malformed
  | .error e => ByProvider history e

/-- Whatever the user and the provider, a rule is not malformed, and its evaluation fails only
through the provider. -/
def Rule.Evaluable (r : Rule) : Prop :=
  ∀ (σ : Type) (c : Program.Collaborator Judgement σ) (user : Uuid) (s : σ)
    (result : Except Failure Evaluation) (t : Recorded Judgement σ),
    (r.evaluate user).run c.recording ⟨s, []⟩ = (result, t) → EndsWell t.history result

section

variable {σ : Type} {c : Program.Collaborator Judgement σ} {user : Uuid} {s t : σ}
  {asked more : List (Occurrence Judgement)}

theorem ByProvider.append {e : Failure} (h : ByProvider more e)
    (asked : List (Occurrence Judgement)) : ByProvider (asked ++ more) e := by
  cases h with
  | lookup h => exact .lookup (List.mem_append_right asked h)
  | sum h hcompare => exact .sum (List.mem_append_right asked h) hcompare
  | sums hd hw hcompare =>
      exact .sums (List.mem_append_right asked hd) (List.mem_append_right asked hw) hcompare

/-! ## Examined queries -/

/-- The provider gives all figures, or fails to give one. -/
theorem consult_cases (c : Program.Collaborator Judgement σ) (ls : List Lookup) (s : σ) :
    (∃ figures, (consult c ls s).1 = .ok figures ∧ figures.length = ls.length ∧
      (consult c ls s).2.1 = List.zipWith (fun l v => .asked l (.ok v)) ls figures) ∨
    ∃ why l, (consult c ls s).1 = .error why ∧ .asked l (.error why) ∈ (consult c ls s).2.1 := by
  induction ls generalizing s with
  | nil => exact .inl ⟨[], rfl, rfl, rfl⟩
  | cons l rest ih =>
      rw [consult]
      rcases c.answer l s with ⟨e | v, u⟩
      · exact .inr ⟨e, l, rfl, List.mem_cons_self⟩
      · obtain ⟨figures, hfigures, hlength, hasked⟩ | ⟨why, l', hwhy, hmem⟩ := ih u
        · refine .inl ⟨v :: figures, ?_, congrArg (· + 1) hlength, congrArg (List.cons _) hasked⟩
          simp only [hfigures, Except.map]
        · refine .inr ⟨why, l', ?_, List.mem_cons_of_mem _ hmem⟩
          simp only [hwhy, Except.map]

/-- A condition is undecided only where the figures cannot be compared. -/
theorem Condition.byProvider_of_undecided {condition : Condition} {figures : List Json}
    (hlength : figures.length = (condition.lookups user).length)
    (h : condition.decide? figures = none) :
    ByProvider (List.zipWith (fun l v => .asked l (.ok v)) (condition.lookups user) figures)
      .mistyped := by
  cases condition with
  | userOf p =>
      obtain ⟨used, rfl⟩ := List.length_eq_one_iff.mp hlength
      cases h
  | activeUserOf p =>
      obtain ⟨active, rfl⟩ := List.length_eq_one_iff.mp hlength
      cases h
  | sumCompare p d c n =>
      obtain ⟨total, rfl⟩ := List.length_eq_one_iff.mp hlength
      exact .sum List.mem_cons_self h
  | depositWithdrawCompare p c =>
      match figures, hlength with
      | [deposits, withdrawals], _ =>
        exact .sums List.mem_cons_self (List.mem_cons_of_mem _ List.mem_cons_self) h

/-- A query is rejected as its validation says. -/
theorem Query.validate_of_rejected {q : Query} {why : ServiceError}
    (h : q.examine c user s = (.rejected why, asked, t)) :
    q.validate = .error (.service why) ∧ why.isBadRequest = true := by
  rw [examine] at h
  split at h
  · next e hv =>
    split at h
    · next hbad =>
      cases h
      exact ⟨hv, hbad⟩
    · cases h
  · cases h
  · split at h
    · cases h
    · split at h <;> cases h

/-- A query that is decided is valid. -/
theorem Query.validate_of_decided {q : Query} {op : Operator} {holds : Bool}
    (h : q.examine c user s = (.decided op holds, asked, t)) :
    ∃ clause, q.validate = .ok clause := by
  rw [examine] at h
  split at h
  · split at h <;> cases h
  · cases h
  · next clause hv => exact ⟨clause, hv⟩

/-- A valid query remains undecided only through the provider. -/
theorem Query.byProvider_of_undecided {q : Query} {why : Failure} {clause : Clause}
    (hv : q.validate = .ok clause) (h : q.examine c user s = (.undecided why, asked, t)) :
    ByProvider asked why := by
  have hconsult := consult_cases c (clause.condition.lookups user) s
  rcases hfigures : consult c (clause.condition.lookups user) s with ⟨e | figures, given, u⟩
  · rw [hfigures] at hconsult
    simp only [examine, hv, hfigures] at h
    cases h
    obtain ⟨_, hok, -⟩ | ⟨_, l, hfailed, hmem⟩ := hconsult
    · cases hok
    · cases hfailed
      exact .lookup hmem
  · rw [hfigures] at hconsult
    simp only [examine, hv, hfigures] at h
    obtain ⟨_, hok, hlength, rfl⟩ | ⟨_, _, hfailed, -⟩ := hconsult
    · cases hok
      cases hd : clause.condition.decide? figures with
      | none =>
          simp only [hd] at h
          cases h
          exact Condition.byProvider_of_undecided hlength hd
      | some truth =>
          simp only [hd] at h
          cases h
    · cases hfailed

theorem Hold.validate {qs : List Query} (h : Hold c user qs s asked t) :
    ∀ q ∈ qs, ∃ clause, q.validate = .ok clause := by
  induction h with
  | nil s => exact List.forall_mem_nil _
  | cons first others ih =>
      rw [List.forall_mem_cons]
      exact ⟨Query.validate_of_decided first, ih⟩

/-! ## Accepted rules -/

/-- Accepted rules are never malformed, and fail only through the provider. -/
theorem Rule.evaluable_of_accepted {r : Rule} (h : r.accepted = true) : r.Evaluable := by
  intro σ c user s result t hrun
  have hvalid := Rule.accepted_iff.mp h
  obtain ⟨outcome, asked, u, hjudged⟩ := r.exists_judged c user s
  rw [hjudged.run_evaluate] at hrun
  cases hjudged with
  | noQueries _ =>
      cases hrun
      exact Verdict.noConfusion
  | matched _ _ =>
      cases hrun
      exact Verdict.noConfusion
  | @malformed before after q _ _ _ _ _ hqs _ decisive =>
      obtain ⟨clause, hclause⟩ := hvalid q (hqs ▸ List.mem_append_right before List.mem_cons_self)
      rw [(Query.validate_of_rejected decisive).1] at hclause
      cases hclause
  | @failed before after q _ asked more _ _ hqs _ decisive =>
      cases hrun
      obtain ⟨clause, hclause⟩ := hvalid q (hqs ▸ List.mem_append_right before List.mem_cons_self)
      exact (Query.byProvider_of_undecided hclause decisive).append asked
  | notMatched _ _ _ =>
      cases hrun
      exact Verdict.noConfusion

/-- A rule that is found malformed is not valid, for the reason found. -/
theorem Rule.validate_of_malformed {r : Rule} {ev : Evaluation}
    (hrun : ((r.evaluate user).run c s).1 = .ok ev) (hbad : ev.verdict = .malformed) :
    ∃ why, r.validate = .error (.service why) ∧ why.isBadRequest = true ∧
      why.message = ev.reason := by
  obtain ⟨outcome, asked, u, hjudged⟩ := r.exists_judged c user s
  have hrecorded := Program.run_recording c (r.evaluate user) ⟨s, []⟩
  rw [hjudged.run_evaluate] at hrecorded
  rw [← hrecorded] at hrun
  cases hjudged with
  | noQueries _ =>
      cases hrun
      cases hbad
  | matched _ _ =>
      cases hrun
      cases hbad
  | @malformed before after q why _ _ _ _ hqs hold decisive =>
      cases hrun
      obtain ⟨hq, hwhy⟩ := Query.validate_of_rejected decisive
      refine ⟨why, ?_, hwhy, rfl⟩
      rw [Rule.validate, hqs]
      exact mapM_eq_error hold.validate hq
  | failed _ _ _ => cases hrun
  | notMatched _ _ _ =>
      cases hrun
      cases hbad

end

/-! ## Adding rules -/

namespace ServiceState

/-- An operation that starts with a request goes on with the answer. -/
theorem perform_request_bind {α : Type} (r : BackendRequest) (f : r.Answer → Program Backend α)
    (s : ServiceState) :
    s.perform ((Program.request (I := Backend) r).bind f) =
      match s.answer r with
      | (.ok a, t) => t.perform (f a)
      | (.error e, t) => (.error e, t) := by
  have hrequest : (Program.request (I := Backend) r).run collaborator s = s.answer r :=
    Program.run_request (I := Backend) collaborator r s
  have hbind := Program.run_bind (I := Backend) collaborator (Program.request (I := Backend) r) f s
  rw [hrequest] at hbind
  refine hbind.trans ?_
  rcases s.answer r with ⟨_ | a, t⟩ <;> rfl

theorem perform_attempt_bind {α : Type} (r : BackendRequest)
    (f : Except Failure r.Answer → Program Backend α) (s : ServiceState) :
    s.perform ((Program.request (I := Backend) r).attempt.bind f) =
      (s.answer r).2.perform (f (s.answer r).1) := by
  have hrequest : (Program.request (I := Backend) r).run collaborator s = s.answer r :=
    Program.run_request (I := Backend) collaborator r s
  have hbind := Program.run_bind (I := Backend) collaborator
    (Program.request (I := Backend) r).attempt f s
  rw [Program.run_attempt, hrequest] at hbind
  exact hbind

/-- A rule that is withdrawn is not returned. -/
theorem perform_withdrawRule_ne {α : Type} {id : RuleId} {why : Failure} {a : α}
    {s t : ServiceState} : s.perform (withdrawRule id why) ≠ (.ok a, t) := by
  intro h
  replace h := (perform_request_bind (.deleteRule id) _ s).symm.trans h
  split at h <;> cases h

/-- A rule that is stored is listed as it is returned. -/
theorem mem_toList_of_storeRule {r saved : Rule} {s t : ServiceState}
    (h : s.perform (storeRule r) = (.ok saved, t)) :
    saved ∈ t.rules.toList ∧ ∃ n : Int, saved = { r with id := .int n } := by
  replace h := (perform_request_bind (.saveRule r) _ s).symm.trans h
  split at h
  · next n u hsave =>
    have hsaved := follows_of_answer hsave
    obtain rfl : n = s.rules.nextId := hsaved.truthful
    have hrules : u.rules = (s.rules.save r).2 := hsaved.rules
    replace h := (perform_attempt_bind (.startCount (.number s.rules.nextId)) _ u).symm.trans h
    rcases hstart : answer (.startCount (.number s.rules.nextId)) u with ⟨e | _, v⟩
    · rw [hstart] at h
      exact absurd h perform_withdrawRule_ne
    · have hkept : v.rules = u.rules := (follows_of_answer hstart).rules
      rw [hstart] at h
      cases h
      rw [hkept, hrules]
      exact ⟨RuleStore.mem_toList_save_self r s.rules, s.rules.nextId, rfl⟩
  · cases h

/-- A rule that is added was accepted, and is listed as it is returned. -/
theorem accepted_of_addRule {r saved : Rule} {s t : ServiceState}
    (h : s.perform (addRule r) = (.ok saved, t)) :
    r.accepted = true ∧ saved ∈ t.rules.toList ∧ ∃ n : Int, saved = { r with id := .int n } := by
  rw [addRule] at h
  split at h
  · cases h
  · cases hv : r.validate with
    | error e =>
        rw [hv] at h
        cases h
    | ok clauses =>
        rw [hv] at h
        exact ⟨Rule.accepted_of_validate hv, mem_toList_of_storeRule h⟩

/-- A rule that is not valid is not added, and nothing changes. -/
theorem perform_addRule_of_invalid {r : Rule} {why : Failure} (h : r.validate = .error why)
    (s : ServiceState) : s.perform (addRule r) = (.error why, s) := by
  rw [addRule]
  split
  · next hnone =>
    rw [Rule.validate, Rule.queryList, hnone] at h
    cases h
  · rw [h]
    rfl

end ServiceState

/-- **Authoring and evaluation agree.**  A rule that is added is listed as it is returned, which is
as it was given but for its number.  Such a rule is evaluable, and so is every rule that is listed
in any run of calls among each other: whatever the user and the provider, it is never malformed, and
its evaluation fails only through the provider.  A rule that is malformed for any user and provider
is not added to any service: this fails as a malformed request, for the reason that was found, and
changes nothing. -/
theorem authoring_agrees_with_evaluation :
    (∀ (r saved : Rule) (s t : ServiceState), s.perform (addRule r) = (.ok saved, t) →
      saved ∈ t.rules.toList ∧ (∃ n : Int, saved = { r with id := .int n }) ∧ saved.Evaluable) ∧
    (∀ (catalog : List RuleSet) (events : List TrafficEvent),
      ∀ r ∈ (Traffic.run catalog events).record.state.rules.toList, r.Evaluable) ∧
    ∀ (σ : Type) (c : Program.Collaborator Judgement σ) (r : Rule) (user : Uuid) (s : σ)
      (ev : Evaluation), ((r.evaluate user).run c s).1 = .ok ev → ev.verdict = .malformed →
      ∀ t : ServiceState, ∃ why, t.perform (addRule r) = (.error (.service why), t) ∧
        why.isBadRequest = true ∧ why.message = ev.reason := by
  refine ⟨fun r saved s t h => ?_, fun catalog events r hr => ?_, ?_⟩
  · obtain ⟨haccepted, hmem, n, rfl⟩ := ServiceState.accepted_of_addRule h
    exact ⟨hmem, ⟨n, rfl⟩, Rule.evaluable_of_accepted haccepted⟩
  · have hsound := (Traffic.inOrder_run catalog events).record
    exact Rule.evaluable_of_accepted (hsound.numbered.accepted r hr)
  · intro σ c r user s ev hrun hbad t
    obtain ⟨why, hv, hwhy, hreason⟩ := Rule.validate_of_malformed hrun hbad
    exact ⟨why, ServiceState.perform_addRule_of_invalid hv t, hwhy, hreason⟩

/-- A rule with a query of no operator. -/
def misnamed : Rule :=
  .sample "Misnamed" .null [.ofTexts "OWNER_OF" ["DEBIT"] false]

theorem authoring_agrees_with_evaluation_samples :
    ({ Traffic.debitless with id := .int 1 } : Rule).Evaluable ∧
      ∃ why, ({} : ServiceState).perform (addRule misnamed) = (.error (.service why), {}) ∧
        why.isBadRequest = true := by
  obtain ⟨hadded, -, hmalformed⟩ := authoring_agrees_with_evaluation
  obtain ⟨-, -, hevaluable⟩ :=
    hadded Traffic.debitless { Traffic.debitless with id := .int 1 } {} _ rfl
  let silent : Program.Collaborator Judgement Unit := ⟨fun _ s => (.ok .null, s), fun _ s => s⟩
  obtain ⟨why, hrejected, hwhy, -⟩ := hmalformed Unit silent misnamed default () _ rfl rfl {}
  exact ⟨hevaluable, why, hrejected, hwhy⟩

end Recommender
