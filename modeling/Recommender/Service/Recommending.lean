import Recommender.Catalog.RuleSet
import Recommender.Service.Backend

/-!
# Recommendations for a user

The recommendations of the stored rules that match come first, in the order of the rule store, then
those of the fixed catalog in the order of its rule sets.  The match of a stored rule is counted in
the background: a count that fails does not fail the request.
-/

namespace Recommender

/-- Record that the match of a rule is to be counted, if it is counted as anything. -/
def recordMatch : Option RuleId → Program Backend Unit
  | some id => Backend.record (.matched id)
  | none => return ()

/-- The recommendations of the rules that match a user. -/
def dynamicRecommendations (user : Uuid) : List Rule → Program Backend (List Recommendation)
  | [] => return []
  | r :: rest => do
    let result ← Backend.judge (r.evaluate user)
    if result.matched then
      recordMatch r.countedAs?
      let others ← dynamicRecommendations user rest
      return r.recommendation :: others
    else dynamicRecommendations user rest

/-- The recommendations of the rule sets that hold for a user. -/
def staticRecommendations (user : Uuid) : List RuleSet → Program Backend (List Recommendation)
  | [] => return []
  | s :: rest => do
    let recommendation ← Backend.judge (s.recommend user)
    let others ← staticRecommendations user rest
    return recommendation.toList ++ others

/-- The recommendations for a user. -/
def recommend (catalog : List RuleSet) (user : Uuid) : Program Backend (List Recommendation) := do
  let rules ← Backend.listRules
  let dynamic ← dynamicRecommendations user rules
  let static ← staticRecommendations user catalog
  Backend.record (.served .dynamic dynamic.length)
  Backend.record (.served .static static.length)
  return dynamic ++ static

/-- The user of a name.  An empty name is nobody's. -/
def resolveUser (name : Json) : Program Backend Uuid := do
  let user ← if name.truthy then Backend.resolve name else pure none
  Program.ofOption (.service (.userNotFound name)) user

/-- The user of a name and the recommendations for it. -/
def recommendByName (catalog : List RuleSet) (name : Json) :
    Program Backend (Uuid × List Recommendation) := do
  let user ← resolveUser name
  let recommendations ← recommend catalog user
  return (user, recommendations)

/-- Count the match of a rule; a failure is dropped. -/
def countMatch (id : RuleId) : Program Backend Unit :=
  (Backend.increment id).attempt.bind fun _ => .done ()

end Recommender
