import Recommender.Rule.Basic

/-!
# Rules in writing

The written form of a rule, of a query and of a recommendation is an object.  The parts of a rule or
a query are read from its written form without being checked, except that a rule has to name its
product by an identifier; what is left out has a default.
-/

namespace Recommender

namespace Query

/-- The query that an object writes. -/
def ofJson (v : Json) : Query where
  operator := v.field "query"
  arguments := v.getD "arguments" (.arr [])
  negate := v.getD "negate" (.bool false)

/-- Read a query.  A list or a text has no parts of these names, and no other value has parts. -/
def read (v : Json) : Except Failure Query :=
  match v with
  | .obj _ => .ok (ofJson v)
  | .str _ | .arr _ => .error .unknownName
  | _ => .error .mistyped

/-- The written form of a query. -/
def toJson (q : Query) : Json :=
  .obj [("query", q.operator), ("arguments", q.arguments), ("negate", q.negate)]

end Query

namespace Rule

/-- The product of a rule that names none. -/
def defaultProduct : Json := "00000000-0000-0000-0000-000000000001"

/-- Read the queries of a rule: what a value lists, or null. -/
def readQueries (v : Json) : Except Failure (Option (List Query)) :=
  if v.isNull then .ok none
  else do
    let items ← v.items?.elim (.error .mistyped) .ok
    let queries ← items.mapM Query.read
    return some queries

/-- Read a rule. -/
def read (v : Json) : Except Failure Rule :=
  match v with
  | .obj _ => do
    let queries ← readQueries (v.getD "queries" (.arr []))
    let product ← Uuid.read (v.getD "product_id" defaultProduct)
    return {
      productId := .str product.text
      productName := v.getD "product_name" "P"
      productText := v.getD "product_text" "T"
      queries
      id := v.field "id" }
  | _ => .error .unknownName

/-- Read a rule that may be missing. -/
def readOptional (v : Json) : Except Failure (Option Rule) :=
  if v.isNull then .ok none else (read v).map some

/-- The members of the written form of a rule, without its product. -/
def toMembers (r : Rule) : List (String × Json) :=
  [("id", r.id), ("product_name", r.productName), ("product_text", r.productText),
    ("queries", .arr (r.queryList.map Query.toJson))]

/-- The written form of a rule. -/
def toJson (r : Rule) : Json :=
  .obj (("product_id", .str r.productId.text) :: r.toMembers)

/-- Write a rule, which has to have a list of queries. -/
def write (r : Rule) : Except Failure Json :=
  if r.queries.isSome then .ok r.toJson else .error .mistyped

end Rule

/-- The written form of a recommendation. -/
def Recommendation.toJson (r : Recommendation) : Json :=
  .obj [("id", .str r.id.text), ("name", r.name), ("text", r.text)]

end Recommender
