import Recommender.Http.Body
import Recommender.Http.Route
import Recommender.Service.Authoring
import Recommender.Service.Recommending

/-!
# What the routes do with rules

Each endpoint about rules and recommendations is an operation of the service whose result is the
response.  A request whose form is wrong is refused before anything is asked of a collaborator.
-/

namespace Recommender.Http

/-- Go on with what was read from a request, unless it was refused. -/
def onReading {α : Type} (reading : Except Response α) (act : α → Program Backend Response) :
    Program Backend Response :=
  match reading with
  | .ok a => act a
  | .error refusal => return refusal

/-- Create a rule; the response shows it as it was stored. -/
def createRule (draft : RuleDraft) : Program Backend Response := do
  let rule ← addRule draft.toRule
  let view ← Program.ofExcept (RuleView.ofRule rule)
  return ⟨201, .json view.toJson⟩

/-- Show every rule. -/
def showRules : Program Backend Response := do
  let rules ← Backend.listRules
  let views ← Program.ofExcept (rules.mapM RuleView.ofRule)
  return .ok (.obj [("data", .arr (views.map RuleView.toJson))])

/-- Show every match count. -/
def showCounts : Program Backend Response := do
  let stats ← Backend.listCounts
  let views ← Program.ofExcept (stats.mapM RuleStat.view).toResult
  return .ok (.obj [("stats", .arr views)])

/-- Delete a rule. -/
def removeRule (id : Int) : Program Backend Response := do
  deleteRule id
  return ⟨204, .empty⟩

/-- The response that recommends products to a user. -/
def recommending (user : Uuid) (recommendations : List Recommendation) :
    Program Backend Response := do
  let views ← Program.ofExcept (recommendations.mapM Recommendation.view).toResult
  return .ok (.obj [("user_id", .str user.text), ("recommendations", .arr views)])

/-- Recommend products to a user. -/
def recommendTo (catalog : List RuleSet) (user : Uuid) : Program Backend Response := do
  let recommendations ← recommend catalog user
  recommending user recommendations

/-- Recommend products to the user of a name. -/
def recommendToNamed (catalog : List RuleSet) (name : String) : Program Backend Response := do
  let answer ← recommendByName catalog (.str name)
  recommending answer.1 answer.2

/-- The operation of an endpoint, if it is about rules or recommendations. -/
def operationOf? (catalog : List RuleSet) (endpoint : Endpoint) (value : String) (r : Request) :
    Option (Program Backend Response) :=
  match endpoint with
  | .createRule => some (onReading r.readDraft createRule)
  | .listRules => some showRules
  | .listCounts => some showCounts
  | .deleteRule => some (onReading (readPathValue "rule_id" value Field.integer) removeRule)
  | .recommendByName => some (recommendToNamed catalog value)
  | .recommend =>
    some (onReading (readPathValue "user_id" value Field.identifier) (recommendTo catalog))
  | _ => none

end Recommender.Http
