import Recommender.Proofs.Program.History
import Recommender.Rule.Evaluation

/-!
# How rules are judged

What the judgement of a rule means, for every provider of figures, also one whose answers change or
fail:

* a condition needs figures, which are looked up one after the other, up to the first lookup that
  fails, and says something of them, unless they cannot be compared;
* a query that is examined is rejected as a malformed request, remains undecided for another
  failure, or is decided;
* the queries of a rule are examined in order, up to the first one that is not decided to hold, and
  this one decides about the rule.

The evaluation of a rule ends as it is judged, having asked the provider for what the examined
queries need, and for nothing else.
-/

namespace Recommender

/-- The lookups that a condition needs, in order. -/
def Condition.lookups (user : Uuid) : Condition → List Lookup
  | .userOf p => [.usage user p]
  | .activeUserOf p => [.activity p user]
  | .sumCompare p d _ _ => [.turnover p d user]
  | .depositWithdrawCompare p _ => [.deposits p user, .withdrawals p user]

/-- What a condition says of the figures that it needs, unless they cannot be compared. -/
def Condition.decide? : Condition → List Json → Option Bool
  | .userOf _, [used] => some used.truthy
  | .activeUserOf _, [active] => some active.truthy
  | .sumCompare _ _ c n, [total] => c.compare? total (.int n)
  | .depositWithdrawCompare _ c, [deposits, withdrawals] => c.compare? deposits withdrawals
  | _, _ => none

/-- What the examination of a query finds. -/
inductive Finding where
  /-- The query is rejected as a malformed request. -/
  | rejected (why : ServiceError)
  /-- The query cannot be decided. -/
  | undecided (why : Failure)
  /-- The query of an operator holds, or does not hold. -/
  | decided (op : Operator) (holds : Bool)

section

variable {σ : Type} (c : Program.Collaborator Judgement σ)

/-- Ask a provider for figures, one after the other, up to the first one that it fails to give; with
what was asked, and the provider's state afterwards. -/
def consult : List Lookup → σ → Except Failure (List Json) × List (Occurrence Judgement) × σ
  | [], s => (.ok [], [], s)
  | l :: rest, s =>
    match c.answer l s with
    | (.error e, s) => (.error e, [.asked l (.error e)], s)
    | (.ok v, s) =>
      match consult rest s with
      | (figures, asked, s) => (figures.map (v :: ·), .asked l (.ok v) :: asked, s)

/-- Examine a query: validate it, ask the provider for what its condition needs, and decide. -/
def Query.examine (user : Uuid) (q : Query) (s : σ) :
    Finding × List (Occurrence Judgement) × σ :=
  match q.validate with
  | .error (.service why) =>
    (if why.isBadRequest then .rejected why else .undecided (.service why), [], s)
  | .error why => (.undecided why, [], s)
  | .ok clause =>
    match consult c (clause.condition.lookups user) s with
    | (.error why, asked, s) => (.undecided why, asked, s)
    | (.ok figures, asked, s) =>
      match clause.condition.decide? figures with
      | none => (.undecided .mistyped, asked, s)
      | some truth => (.decided clause.condition.operator (truth != clause.negate), asked, s)

/-- Queries that are examined one after the other hold; with what the provider was asked, and its
state afterwards. -/
inductive Hold (user : Uuid) : List Query → σ → List (Occurrence Judgement) → σ → Prop where
  | nil (s : σ) : Hold user [] s [] s
  | cons {q : Query} {op : Operator} {rest : List Query} {asked more : List (Occurrence Judgement)}
      {s t u : σ} (first : q.examine c user s = (.decided op true, asked, t))
      (others : Hold user rest t more u) : Hold user (q :: rest) s (asked ++ more) u

/-- How a rule is judged: by the first of its queries that is not decided to hold, if there is one;
with what the provider was asked, and its state afterwards. -/
inductive Rule.Judged (user : Uuid) (r : Rule) (s : σ) :
    Except Failure Evaluation → List (Occurrence Judgement) → σ → Prop where
  | noQueries (h : r.queryList = []) :
      Judged user r s (.ok ⟨.notMatched, "Rule has no queries", r.id⟩) [] s
  | matched {asked : List (Occurrence Judgement)} {t : σ} (h : r.queryList ≠ [])
      (hold : Hold c user r.queryList s asked t) :
      Judged user r s
        (.ok ⟨.matched, "All " ++ toString r.queryList.length ++ " queries matched", r.id⟩) asked t
  | malformed {before after : List Query} {q : Query} {why : ServiceError}
      {asked more : List (Occurrence Judgement)} {t u : σ}
      (h : r.queryList = before ++ q :: after) (hold : Hold c user before s asked t)
      (decisive : q.examine c user t = (.rejected why, more, u)) :
      Judged user r s (.ok ⟨.malformed, why.message, r.id⟩) (asked ++ more) u
  | failed {before after : List Query} {q : Query} {why : Failure}
      {asked more : List (Occurrence Judgement)} {t u : σ}
      (h : r.queryList = before ++ q :: after) (hold : Hold c user before s asked t)
      (decisive : q.examine c user t = (.undecided why, more, u)) :
      Judged user r s (.error why) (asked ++ more) u
  | notMatched {before after : List Query} {q : Query} {op : Operator}
      {asked more : List (Occurrence Judgement)} {t u : σ}
      (h : r.queryList = before ++ q :: after) (hold : Hold c user before s asked t)
      (decisive : q.examine c user t = (.decided op false, more, u)) :
      Judged user r s (.ok ⟨.notMatched, "Query " ++ toString before.length ++ " (" ++ op.name ++
        ") did not match", r.id⟩) (asked ++ more) u

/-- What the judgement of a rule leaves behind: the verdict is recorded, if there is one. -/
def concluded (asked : List (Occurrence Judgement)) (s : σ) :
    Except Failure Evaluation → Except Failure Evaluation × Recorded Judgement σ
  | .ok e => (.ok e, ⟨c.notice e.verdict s, asked ++ [.recorded e.verdict]⟩)
  | .error why => (.error why, ⟨s, asked⟩)

end

section

variable {σ : Type} {c : Program.Collaborator Judgement σ} {user : Uuid}

/-! ## Single queries -/

theorem run_lookup (l : Lookup) (s : σ) (past : List (Occurrence Judgement)) :
    (lookup l).run c.recording ⟨s, past⟩ =
      ((c.answer l s).1, ⟨(c.answer l s).2, past ++ [.asked l (c.answer l s).1]⟩) :=
  Program.run_request (I := Judgement) c.recording l _

theorem run_compareFigures (comparison : Comparison) (left right : Json)
    (s : Recorded Judgement σ) :
    (compareFigures comparison left right : Program Judgement Bool).run c.recording s =
      ((comparison.compare? left right).elim (.error .mistyped) .ok, s) := by
  rw [compareFigures]
  cases comparison.compare? left right <;> rfl

/-- A condition is judged by asking for the figures that it needs and looking at them. -/
theorem run_condition_holds (condition : Condition) (s : σ) (past : List (Occurrence Judgement)) :
    (condition.holds user).run c.recording ⟨s, past⟩ =
      match consult c (condition.lookups user) s with
      | (figures, asked, t) =>
        (figures.bind fun vs => (condition.decide? vs).elim (.error .mistyped) .ok,
          ⟨t, past ++ asked⟩) := by
  cases condition with
  | userOf p =>
      rw [Condition.holds, Program.bind_eq, Program.run_bind, run_lookup]
      rw [Condition.lookups, consult]
      rcases c.answer (.usage user p) s with ⟨_ | v, t⟩ <;> rfl
  | activeUserOf p =>
      rw [Condition.holds, Program.bind_eq, Program.run_bind, run_lookup]
      rw [Condition.lookups, consult]
      rcases c.answer (.activity p user) s with ⟨_ | v, t⟩ <;> rfl
  | sumCompare p d comparison n =>
      rw [Condition.holds, Program.bind_eq, Program.run_bind, run_lookup]
      rw [Condition.lookups, consult]
      rcases c.answer (.turnover p d user) s with ⟨_ | v, t⟩
      · rfl
      · exact run_compareFigures comparison v (.int n) _
  | depositWithdrawCompare p comparison =>
      rw [Condition.holds, Program.bind_eq, Program.run_bind, run_lookup]
      rw [Condition.lookups, consult]
      rcases c.answer (.deposits p user) s with ⟨_ | v, t⟩
      · rfl
      · simp only [Program.bind_eq, Program.run_bind, run_lookup, consult]
        rcases c.answer (.withdrawals p user) t with ⟨_ | w, u⟩
        · simp [Except.map, Except.bind]
        · rw [List.append_assoc]
          exact run_compareFigures comparison v w _

theorem run_clause_holds (clause : Clause) (s : σ) (past : List (Occurrence Judgement)) :
    (clause.holds user).run c.recording ⟨s, past⟩ =
      match consult c (clause.condition.lookups user) s with
      | (figures, asked, t) =>
        (figures.bind fun vs => (clause.condition.decide? vs).elim (.error .mistyped) fun truth =>
          .ok (truth != clause.negate), ⟨t, past ++ asked⟩) := by
  rw [Clause.holds, Program.bind_eq, Program.run_bind, run_condition_holds]
  rcases consult c (clause.condition.lookups user) s with ⟨_ | vs, asked, t⟩
  · rfl
  · cases h : clause.condition.decide? vs <;> simp [Except.bind, h, Program.run]

/-- The judgement goes on behind a query exactly if the query is decided to hold. -/
theorem run_evaluateFrom_cons (total position : Nat) (q : Query) (rest : List Query) (s : σ)
    (past : List (Occurrence Judgement)) :
    (evaluateFrom user total position (q :: rest)).run c.recording ⟨s, past⟩ =
      match q.examine c user s with
      | (.rejected why, asked, t) => (.ok ⟨.malformed, why.message, .null⟩, ⟨t, past ++ asked⟩)
      | (.undecided why, asked, t) => (.error why, ⟨t, past ++ asked⟩)
      | (.decided op false, asked, t) => (.ok (.notMatchedAt position op), ⟨t, past ++ asked⟩)
      | (.decided _ true, asked, t) =>
        (evaluateFrom user total (position + 1) rest).run c.recording ⟨t, past ++ asked⟩ := by
  rw [evaluateFrom, Query.examine]
  cases hv : q.validate with
  | error e =>
      cases e with
      | service why => cases hbad : why.isBadRequest <;> simp [hbad, Program.run]
      | _ => simp [Program.run]
  | ok clause =>
      simp only [Program.bind_eq, Program.run_bind, run_clause_holds]
      rcases consult c (clause.condition.lookups user) s with ⟨_ | vs, asked, t⟩
      · rfl
      · cases hd : clause.condition.decide? vs with
        | none => simp [Except.bind, hd]
        | some truth =>
            cases hn : truth != clause.negate <;> simp [Except.bind, hd, hn, Program.run]

/-! ## Lists of queries -/

/-- Behind queries that hold, the judgement goes on with the others. -/
theorem Hold.run_evaluateFrom {qs : List Query} {s t : σ} {asked : List (Occurrence Judgement)}
    (h : Hold c user qs s asked t) (total position : Nat) (rest : List Query)
    (past : List (Occurrence Judgement)) :
    (evaluateFrom user total position (qs ++ rest)).run c.recording ⟨s, past⟩ =
      (evaluateFrom user total (position + qs.length) rest).run c.recording
        ⟨t, past ++ asked⟩ := by
  induction h generalizing position past with
  | nil s => simp
  | cons first others ih =>
      rw [List.cons_append, run_evaluateFrom_cons, first]
      simp only [ih, List.length_cons, List.append_assoc]
      rw [Nat.add_assoc, Nat.add_comm 1]

/-- Queries all hold, or one of them is the first that does not. -/
theorem hold_or_decisive (c : Program.Collaborator Judgement σ) (user : Uuid) (qs : List Query)
    (s : σ) :
    (∃ asked t, Hold c user qs s asked t) ∨
    ∃ before q after asked t finding more u, qs = before ++ q :: after ∧
      Hold c user before s asked t ∧ q.examine c user t = (finding, more, u) ∧
      ∀ op, finding ≠ .decided op true := by
  induction qs generalizing s with
  | nil => exact .inl ⟨[], s, .nil s⟩
  | cons q rest ih =>
      rcases hq : q.examine c user s with ⟨finding, asked, t⟩
      by_cases hf : ∃ op, finding = .decided op true
      · obtain ⟨op, rfl⟩ := hf
        obtain ⟨more, u, hrest⟩ | ⟨before, q', after, more, u, finding, last, v, rfl, hrest, hd⟩ :=
          ih t
        · exact .inl ⟨_, u, .cons hq hrest⟩
        · exact .inr ⟨q :: before, q', after, _, u, finding, last, v, rfl, .cons hq hrest, hd⟩
      · refine .inr ⟨[], q, rest, [], s, finding, asked, t, rfl, .nil s, hq, ?_⟩
        exact fun op hop => hf ⟨op, hop⟩

/-! ## Rules -/

theorem Rule.judge_of_ne_nil {r : Rule} (h : r.queryList ≠ []) :
    r.judge user = evaluateFrom user r.queryList.length 0 r.queryList := by
  rw [judge]
  split
  · next hnil => exact absurd hnil h
  · rfl

theorem Rule.run_evaluate_of_judge {r : Rule} {s t : σ} {result : Except Failure Evaluation}
    {asked : List (Occurrence Judgement)}
    (h : (r.judge user).run c.recording ⟨s, []⟩ = (result, ⟨t, asked⟩)) :
    (r.evaluate user).run c.recording ⟨s, []⟩ =
      concluded c asked t (result.map fun e => { e with ruleId := r.id }) := by
  rw [evaluate, Program.bind_eq, Program.run_bind, h]
  cases result <;> rfl

/-- A query that decides about a rule, behind others that hold. -/
theorem Rule.run_evaluate_of_decisive {r : Rule} {before after : List Query} {q : Query}
    {s t u : σ} {asked more : List (Occurrence Judgement)} {result : Except Failure Evaluation}
    (h : r.queryList = before ++ q :: after) (hold : Hold c user before s asked t)
    (hq : (evaluateFrom user r.queryList.length before.length (q :: after)).run c.recording
      ⟨t, asked⟩ = (result, ⟨u, asked ++ more⟩)) :
    (r.evaluate user).run c.recording ⟨s, []⟩ =
      concluded c (asked ++ more) u (result.map fun e => { e with ruleId := r.id }) := by
  have hsplit := hold.run_evaluateFrom r.queryList.length 0 (q :: after) []
  rw [← h, Nat.zero_add, List.nil_append, hq] at hsplit
  refine run_evaluate_of_judge ?_
  rw [judge_of_ne_nil (by simp [h]), hsplit]

/-- The evaluation of a rule ends as the rule is judged. -/
theorem Rule.Judged.run_evaluate {r : Rule} {s u : σ} {outcome : Except Failure Evaluation}
    {asked : List (Occurrence Judgement)} (h : r.Judged c user s outcome asked u) :
    (r.evaluate user).run c.recording ⟨s, []⟩ = concluded c asked u outcome := by
  cases h with
  | noQueries h =>
      have hjudge : (r.judge user).run c.recording ⟨s, []⟩ =
          (.ok ⟨.notMatched, "Rule has no queries", .null⟩, ⟨s, []⟩) := by
        rw [judge, h]
        rfl
      exact run_evaluate_of_judge hjudge
  | matched h hold =>
      have hjudge := hold.run_evaluateFrom r.queryList.length 0 [] []
      rw [List.append_nil, ← judge_of_ne_nil h, List.nil_append] at hjudge
      exact run_evaluate_of_judge hjudge
  | @malformed before after q why asked more t _ h hold decisive =>
      have hq : (evaluateFrom user r.queryList.length before.length (q :: after)).run c.recording
          ⟨t, asked⟩ = (.ok ⟨.malformed, why.message, .null⟩, ⟨u, asked ++ more⟩) := by
        rw [run_evaluateFrom_cons, decisive]
      exact run_evaluate_of_decisive h hold hq
  | @failed before after q why asked more t _ h hold decisive =>
      have hq : (evaluateFrom user r.queryList.length before.length (q :: after)).run c.recording
          ⟨t, asked⟩ = (.error why, ⟨u, asked ++ more⟩) := by
        rw [run_evaluateFrom_cons, decisive]
      exact run_evaluate_of_decisive h hold hq
  | @notMatched before after q op asked more t _ h hold decisive =>
      have hq : (evaluateFrom user r.queryList.length before.length (q :: after)).run c.recording
          ⟨t, asked⟩ = (.ok (.notMatchedAt before.length op), ⟨u, asked ++ more⟩) := by
        rw [run_evaluateFrom_cons, decisive]
      exact run_evaluate_of_decisive h hold hq

/-- Every rule is judged in some way. -/
theorem Rule.exists_judged (c : Program.Collaborator Judgement σ) (user : Uuid) (r : Rule) (s : σ) :
    ∃ outcome asked t, r.Judged c user s outcome asked t := by
  by_cases hnil : r.queryList = []
  · exact ⟨_, _, _, .noQueries hnil⟩
  · obtain ⟨asked, t, hold⟩ | ⟨before, q, after, asked, t, finding, more, u, h, hold, hq, hnot⟩ :=
      hold_or_decisive c user r.queryList s
    · exact ⟨_, _, _, .matched hnil hold⟩
    · cases finding with
      | rejected why => exact ⟨_, _, _, .malformed h hold hq⟩
      | undecided why => exact ⟨_, _, _, .failed h hold hq⟩
      | decided op holds =>
          cases holds with
          | true => exact absurd rfl (hnot op)
          | false => exact ⟨_, _, _, .notMatched h hold hq⟩

/-- **A rule is evaluated as it is judged**, against every provider and in every state of it: the
evaluation of a rule ends with a result, a history and a state of the provider exactly if the rule
is judged so. -/
theorem evaluate_iff_judged (c : Program.Collaborator Judgement σ) (user : Uuid) (r : Rule) (s : σ)
    (outcome : Except Failure Evaluation × Recorded Judgement σ) :
    (r.evaluate user).run c.recording ⟨s, []⟩ = outcome ↔
      ∃ result asked t, r.Judged c user s result asked t ∧
        outcome = concluded c asked t result := by
  constructor
  · rintro rfl
    obtain ⟨result, asked, t, hjudged⟩ := r.exists_judged c user s
    exact ⟨result, asked, t, hjudged, hjudged.run_evaluate⟩
  · rintro ⟨result, asked, t, hjudged, rfl⟩
    exact hjudged.run_evaluate

end

/-- A failure that the provider reports ends the evaluation, also if it is a malformed request. -/
example (e : Failure) :
    ((Rule.sample "Owned" .null [.ofTexts "USER_OF" ["DEBIT"] false]).evaluate default).run
      (⟨fun _ s => (.error e, s), fun _ s => s⟩ : Program.Collaborator Judgement Unit).recording
      ⟨(), []⟩ =
    (.error e, ⟨(), [.asked (.usage default .debit) (.error e)]⟩) := rfl

end Recommender
