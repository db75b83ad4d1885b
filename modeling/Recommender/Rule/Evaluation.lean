import Recommender.Aggregate.Lookup
import Recommender.Rule.Clause

/-!
# Evaluation of rules

A rule matches a user if it has at least one query and every query holds.  The queries are judged in
order, and nothing of a later one is looked at once an earlier one has decided: a query that is not
valid makes the rule malformed, a query that does not hold makes it not match, and a failure that is
no service error about a malformed query ends the evaluation.
-/

namespace Recommender

/-- The result of the evaluation of a rule. -/
structure Evaluation where
  verdict : Verdict
  reason : String
  ruleId : Json := .null
  deriving Repr, Inhabited, BEq

/-- Whether the rule matched. -/
def Evaluation.matched (e : Evaluation) : Bool :=
  e.verdict = .matched

/-- Look a figure up. -/
def lookup (l : Lookup) : Program Judgement Json :=
  Program.request (I := Judgement) l

/-- Compare two figures. -/
def compareFigures {I : Interface} (c : Comparison) (left right : Json) : Program I Bool :=
  Program.ofOption .mistyped (c.compare? left right)

/-- Whether a condition holds for a user. -/
def Condition.holds (user : Uuid) : Condition → Program Judgement Bool
  | .userOf p => do
    let used ← lookup (.usage user p)
    return used.truthy
  | .activeUserOf p => do
    let active ← lookup (.activity p user)
    return active.truthy
  | .sumCompare p d c n => do
    let total ← lookup (.turnover p d user)
    compareFigures c total (.int n)
  | .depositWithdrawCompare p c => do
    let deposits ← lookup (.deposits p user)
    let withdrawals ← lookup (.withdrawals p user)
    compareFigures c deposits withdrawals

/-- Whether a clause holds for a user: its condition, inverted if the clause is negated. -/
def Clause.holds (user : Uuid) (c : Clause) : Program Judgement Bool := do
  let truth ← c.condition.holds user
  return truth != c.negate

/-- The result for a rule of which one query does not hold. -/
def Evaluation.notMatchedAt (position : Nat) (op : Operator) : Evaluation :=
  ⟨.notMatched, "Query " ++ toString position ++ " (" ++ op.name ++ ") did not match", .null⟩

/-- Judge queries from a position on, where all `total` queries before them hold. -/
def evaluateFrom (user : Uuid) (total : Nat) : (position : Nat) → List Query →
    Program Judgement Evaluation
  | _, [] => return ⟨.matched, "All " ++ toString total ++ " queries matched", .null⟩
  | position, q :: rest =>
    match q.validate with
    | .error (.service e) =>
      if e.isBadRequest then return ⟨.malformed, e.message, .null⟩ else .raise (.service e)
    | .error e => .raise e
    | .ok clause => do
      let truth ← clause.holds user
      if truth then evaluateFrom user total (position + 1) rest
      else return .notMatchedAt position clause.condition.operator

/-- Judge the queries of a rule. -/
def Rule.judge (r : Rule) (user : Uuid) : Program Judgement Evaluation :=
  match r.queryList with
  | [] => return ⟨.notMatched, "Rule has no queries", .null⟩
  | queries => evaluateFrom user queries.length 0 queries

/-- Evaluate a rule and record its verdict. -/
def Rule.evaluate (r : Rule) (user : Uuid) : Program Judgement Evaluation := do
  let result ← r.judge user
  Program.record (I := Judgement) result.verdict
  return { result with ruleId := r.id }

/-- The failure of an evaluation without a rule. -/
def missingRule : Failure :=
  .service (.invalidArgument "Dynamic rule must not be None" [])

/-- Evaluate a rule that may be missing. -/
def evaluateOptional (r : Option Rule) (user : Uuid) : Program Judgement Evaluation :=
  match r with
  | some r => r.evaluate user
  | none => .raise missingRule

end Recommender
