import Recommender.Rule.Clause
import Recommender.Service.Backend

/-!
# Adding and deleting rules

A rule is added only if all of its queries are valid, and only together with its match count: a rule
whose count cannot be started is deleted again.  A rule is deleted together with its match count.
-/

namespace Recommender

/-- Undo the saving of a rule, and fail as the operation that made it necessary failed. -/
def withdrawRule {α : Type} (id : RuleId) (why : Failure) : Program Backend α := do
  Backend.deleteRule id
  .raise why

/-- Save a valid rule and start its match count.  Only a failure of the stores has the rule
withdrawn.  That the request is cancelled is none of the failures: a request that is cancelled
between the two steps stops there, and what it has saved stays. -/
def storeRule (r : Rule) : Program Backend Rule := do
  let id ← Backend.saveRule r
  let started ← (Backend.startCount id).attempt
  match started with
  | .ok _ => return { r with id := .int id }
  | .error e => withdrawRule id e

/-- Add a rule. -/
def addRule (r : Rule) : Program Backend Rule :=
  match r.queries with
  | none => .raise .mistyped
  | some _ =>
    match r.validate with
    | .error e => .raise e
    | .ok _ => storeRule r

/-- The error of deleting a rule that does not exist. -/
def ruleMissing (id : Json) : Failure :=
  .service (.ruleNotFound id "Could not delete rule: rule not found")

/-- Delete the rule of an identifier. -/
def deleteRule (id : RuleId) : Program Backend Unit := do
  let present ← Backend.ruleExists id
  if present then
    Backend.deleteRule id
    Backend.dropCount id
  else .raise (ruleMissing id.toJson)

end Recommender
