import Recommender.Proofs.Program
import Recommender.Proofs.Rule.Validation
import Recommender.Rule.Evaluation

/-!
# What rules mean

Where every lookup is answered by a figure, a clause is true or false of a user, and a rule is
judged by the first of its queries that is rejected or does not hold.  A rule of texts has one way
to fail: a numeral of too many digits behind queries that all hold.
-/

namespace Recommender

/-- Every lookup is answered by its figure. -/
def always (figure : Lookup → Json) :
    (r : Judgement.Request) → Except Failure (Judgement.Answer r) :=
  fun l => .ok (figure l)

/-- A provider supplies figures in every state that has an invariant, and keeps the invariant. -/
structure Supplies {σ : Type} (c : Program.Collaborator Judgement σ) (Inv : σ → Prop)
    (figure : Lookup → Json) : Prop where
  answer : ∀ l s, Inv s → (c.answer l s).1 = .ok (figure l) ∧ Inv (c.answer l s).2
  notice : ∀ v s, Inv s → Inv (c.notice v s)

/-- A value counts as a number. -/
def Json.IsNumber (v : Json) : Prop :=
  v.quantity?.isSome = true

/-- The sums among figures are numbers. -/
structure SumsAreNumbers (figure : Lookup → Json) : Prop where
  turnover : ∀ p d user, (figure (.turnover p d user)).IsNumber
  deposits : ∀ p user, (figure (.deposits p user)).IsNumber
  withdrawals : ∀ p user, (figure (.withdrawals p user)).IsNumber

/-- Whether a condition is true of a user. -/
def Condition.truth (figure : Lookup → Json) (user : Uuid) : Condition → Bool
  | .userOf p => (figure (.usage user p)).truthy
  | .activeUserOf p => (figure (.activity p user)).truthy
  | .sumCompare p d c n => c.compare? (figure (.turnover p d user)) (.int n) == some true
  | .depositWithdrawCompare p c =>
    c.compare? (figure (.deposits p user)) (figure (.withdrawals p user)) == some true

/-- Whether a clause is true of a user. -/
def Clause.truth (figure : Lookup → Json) (user : Uuid) (c : Clause) : Bool :=
  c.condition.truth figure user != c.negate

/-- A query is accepted and true of a user. -/
def Query.Holds (figure : Lookup → Json) (user : Uuid) (q : Query) : Prop :=
  ∃ clause, q.validate = .ok clause ∧ clause.truth figure user = true

/-- The first query of a list that does not hold has a numeral of too many digits. -/
def ReachesOverlong (figure : Lookup → Json) (user : Uuid) (qs : List Query) : Prop :=
  ∃ before q after, qs = before ++ q :: after ∧ (∀ p ∈ before, p.Holds figure user) ∧ q.Overlong

/-- Whether every query of a rule is accepted. -/
def Rule.accepted (r : Rule) : Bool :=
  r.queryList.all fun q => q.validate.isOk

/-! ## Accepted rules -/

theorem Rule.accepted_iff {r : Rule} :
    r.accepted = true ↔ ∀ q ∈ r.queryList, ∃ clause, q.validate = .ok clause := by
  rw [accepted, List.all_eq_true]
  refine forall_congr' fun q => forall_congr' fun _ => ?_
  cases q.validate <;> simp [Except.isOk, Except.toBool]

theorem Rule.accepted_of_validate {r : Rule} {clauses : List Clause}
    (h : r.validate = .ok clauses) : r.accepted = true :=
  accepted_iff.mpr (exists_mapM_eq_ok_iff.mp ⟨clauses, h⟩)

/-! ## Comparisons of numbers -/

theorem Json.isNumber_int (n : Int) : (Json.int n).IsNumber := rfl

theorem Json.order?_of_numbers {a b : Json} (ha : a.IsNumber) (hb : b.IsNumber) :
    ∃ o, a.order? b = some o := by
  obtain ⟨x, hx⟩ := Option.isSome_iff_exists.mp ha
  obtain ⟨y, hy⟩ := Option.isSome_iff_exists.mp hb
  refine ⟨x.order? y, ?_⟩
  cases a with
  | bool t => simp only [order?, hx, hy]
  | int n => simp only [order?, hx, hy]
  | float f => simp only [order?, hx, hy]
  | null => cases hx
  | str t => cases hx
  | arr items => cases hx
  | obj members => cases hx

/-- Two numbers can be compared. -/
theorem compare?_of_numbers (c : Comparison) {a b : Json} (ha : a.IsNumber) (hb : b.IsNumber) :
    ∃ t, c.compare? a b = some t := by
  unfold Comparison.compare?
  split
  · exact ⟨_, rfl⟩
  · obtain ⟨o, ho⟩ := Json.order?_of_numbers ha hb
    rw [ho]
    exact ⟨_, rfl⟩

theorem against_compareFigures {I : Interface}
    (answer : (r : I.Request) → Except Failure (I.Answer r)) (c : Comparison) {a b : Json}
    (ha : a.IsNumber) (hb : b.IsNumber) :
    (compareFigures c a b : Program I Bool).against answer = .ok (c.compare? a b == some true) := by
  obtain ⟨t, ht⟩ := compare?_of_numbers c ha hb
  rw [compareFigures, Program.against_ofOption, ht]
  cases t <;> rfl

/-! ## Clauses -/

section

variable {figure : Lookup → Json}

@[simp] theorem against_lookup (l : Lookup) : (lookup l).against (always figure) = .ok (figure l) :=
  Program.against_request (I := Judgement) (always figure) l

/-- Against a provider that supplies figures, a program ends as the figures say. -/
theorem Supplies.run_eq {σ : Type} {c : Program.Collaborator Judgement σ} {Inv : σ → Prop}
    (h : Supplies c Inv figure) {α : Type} (p : Program Judgement α) {s : σ} (hs : Inv s) :
    (p.run c s).1 = p.against (always figure) :=
  (Program.yields_against h.answer h.notice p s hs).1

theorem against_condition_holds (hf : SumsAreNumbers figure) (user : Uuid) (c : Condition) :
    (c.holds user).against (always figure) = .ok (c.truth figure user) := by
  cases c with
  | userOf p => rfl
  | activeUserOf p => rfl
  | sumCompare p d c n =>
      have hcompare := against_compareFigures (always figure) c (hf.turnover p d user)
        (Json.isNumber_int n)
      rw [Condition.holds, Program.bind_eq, Program.against_bind, against_lookup]
      exact hcompare
  | depositWithdrawCompare p c =>
      have hcompare := against_compareFigures (always figure) c (hf.deposits p user)
        (hf.withdrawals p user)
      rw [Condition.holds, Program.bind_eq, Program.against_bind, against_lookup]
      exact hcompare

theorem against_clause_holds (hf : SumsAreNumbers figure) (user : Uuid) (c : Clause) :
    (c.holds user).against (always figure) = .ok (c.truth figure user) := by
  rw [Clause.holds, Program.bind_eq, Program.against_bind, against_condition_holds hf]
  rfl

/-! ## Single queries -/

theorem Query.holds_iff_truth {user : Uuid} {q : Query} {clause : Clause}
    (h : q.validate = .ok clause) : q.Holds figure user ↔ clause.truth figure user = true := by
  constructor
  · rintro ⟨clause', hc, ht⟩
    rw [h] at hc
    cases hc
    exact ht
  · exact fun ht => ⟨clause, h, ht⟩

theorem Query.not_overlong_of_ok {q : Query} {clause : Clause} (h : q.validate = .ok clause) :
    ¬ q.Overlong := by
  intro hlong
  rw [validate_of_overlong hlong] at h
  cases h

theorem Query.not_holds_of_error {user : Uuid} {q : Query} {e : Failure}
    (h : q.validate = .error e) : ¬ q.Holds figure user := by
  rintro ⟨clause, hc, -⟩
  rw [h] at hc
  cases hc

/-- A query that is accepted lets the judgement go on if it is true. -/
theorem against_evaluateFrom_of_ok (hf : SumsAreNumbers figure) (user : Uuid)
    (total position : Nat) {q : Query} {clause : Clause} (h : q.validate = .ok clause)
    (rest : List Query) :
    (evaluateFrom user total position (q :: rest)).against (always figure) =
      if clause.truth figure user then
        (evaluateFrom user total (position + 1) rest).against (always figure)
      else .ok (.notMatchedAt position clause.condition.operator) := by
  rw [evaluateFrom, h]
  simp only [Program.bind_eq, Program.against_bind, against_clause_holds hf]
  cases clause.truth figure user <;> simp [Except.bind]

/-- A query that is rejected as a malformed request ends the judgement without a match. -/
theorem against_evaluateFrom_of_badRequest (figure : Lookup → Json) (user : Uuid)
    (total position : Nat) {q : Query} {e : Failure} (h : q.validate = .error e)
    (he : e.isBadRequest = true) (rest : List Query) :
    ∃ result, (evaluateFrom user total position (q :: rest)).against (always figure) = .ok result ∧
      result.matched = false := by
  cases e with
  | service why =>
      have hwhy : why.isBadRequest = true := he
      rw [evaluateFrom, h]
      simp only [hwhy, if_true]
      exact ⟨_, rfl, rfl⟩
  | _ => cases he

/-! ## Lists of queries -/

theorem not_reachesOverlong_nil (user : Uuid) : ¬ ReachesOverlong figure user [] := by
  rintro ⟨before, q, after, h, -⟩
  cases before <;> cases h

theorem reachesOverlong_cons {user : Uuid} {q : Query} {rest : List Query} :
    ReachesOverlong figure user (q :: rest) ↔
      q.Overlong ∨ q.Holds figure user ∧ ReachesOverlong figure user rest := by
  constructor
  · rintro ⟨before, q', after, h, hbefore, hlong⟩
    cases before with
    | nil =>
        cases h
        exact .inl hlong
    | cons p before =>
        cases h
        have hp := hbefore q List.mem_cons_self
        exact .inr ⟨hp, before, q', after, rfl, fun p' hp' => hbefore p' (.tail q hp'), hlong⟩
  · rintro (hlong | ⟨hq, before, q', after, rfl, hbefore, hlong⟩)
    · exact ⟨[], q, rest, rfl, nofun, hlong⟩
    · exact ⟨q :: before, q', after, rfl, List.forall_mem_cons.mpr ⟨hq, hbefore⟩, hlong⟩

/-- Queries of texts are judged to the end, with a match exactly if all of them hold, or the
judgement reaches a numeral of too many digits and fails. -/
theorem against_evaluateFrom (hf : SumsAreNumbers figure) (user : Uuid) (total position : Nat)
    {qs : List Query} (hq : ∀ q ∈ qs, q.IsText) :
    (¬ ReachesOverlong figure user qs ∧
      ∃ result, (evaluateFrom user total position qs).against (always figure) = .ok result ∧
        (result.matched = true ↔ ∀ q ∈ qs, q.Holds figure user)) ∨
    (ReachesOverlong figure user qs ∧
      (evaluateFrom user total position qs).against (always figure) = .error .unreadable) := by
  induction qs generalizing position with
  | nil => exact .inl ⟨not_reachesOverlong_nil user, _, rfl, by simp [Evaluation.matched]⟩
  | cons q rest ih =>
      rw [List.forall_mem_cons] at hq
      rw [reachesOverlong_cons, List.forall_mem_cons]
      cases hv : q.validate with
      | error e =>
          -- The head decides: what stands behind a rejected query is not looked at.
          have hnot : ¬ q.Holds figure user := Query.not_holds_of_error hv
          obtain hbad | ⟨rfl, hlong⟩ := Query.validate_error_cases hq.1 hv
          · obtain ⟨result, hresult, hmatched⟩ :=
              against_evaluateFrom_of_badRequest figure user total position hv hbad rest
            have hlong : ¬ q.Overlong := by
              intro hlong
              rw [Query.validate_of_overlong hlong] at hv
              cases hv
              exact absurd hbad (by decide)
            refine .inl ⟨by simp [hlong, hnot], result, hresult, ?_⟩
            simp [hmatched, hnot]
          · refine .inr ⟨.inl hlong, ?_⟩
            rw [evaluateFrom, hv]
            rfl
      | ok clause =>
          have hlong : ¬ q.Overlong := Query.not_overlong_of_ok hv
          rw [against_evaluateFrom_of_ok hf user total position hv, Query.holds_iff_truth hv]
          cases htruth : clause.truth figure user with
          | true => simpa [hlong] using ih (position + 1) hq.2
          | false =>
              refine .inl ⟨by simp [hlong], _, rfl, ?_⟩
              simp [Evaluation.matched, Evaluation.notMatchedAt]

/-! ## Rules -/

theorem against_evaluate (user : Uuid) (r : Rule) :
    (r.evaluate user).against (always figure) =
      ((r.judge user).against (always figure)).map fun result =>
        { result with ruleId := r.id } := by
  simp only [Rule.evaluate, Program.bind_eq, Program.against_bind]
  cases (r.judge user).against (always figure) <;> rfl

/-- **A rule of texts** is evaluated to the end, and matches exactly if it has queries and all of
them hold; or it reaches a numeral of too many digits, and the evaluation fails. -/
theorem against_evaluate_cases (hf : SumsAreNumbers figure) (user : Uuid) {r : Rule}
    (hr : ∀ q ∈ r.queryList, q.IsText) :
    (¬ ReachesOverlong figure user r.queryList ∧
      ∃ result, (r.evaluate user).against (always figure) = .ok result ∧
        (result.matched = true ↔
          r.queryList ≠ [] ∧ ∀ q ∈ r.queryList, q.Holds figure user)) ∨
    (ReachesOverlong figure user r.queryList ∧
      (r.evaluate user).against (always figure) = .error .unreadable) := by
  rw [against_evaluate, Rule.judge]
  cases hqs : r.queryList with
  | nil => exact .inl ⟨not_reachesOverlong_nil user, _, rfl, by simp [Evaluation.matched]⟩
  | cons q rest =>
      rw [hqs] at hr
      rcases against_evaluateFrom hf user (q :: rest).length 0 hr with
        ⟨hnot, result, hresult, hmatched⟩ | ⟨hreach, hfail⟩
      · refine .inl ⟨hnot, _, congrArg _ hresult, ?_⟩
        rw [← hmatched]
        simp [Evaluation.matched]
      · exact .inr ⟨hreach, congrArg _ hfail⟩

end

end Recommender
