import Recommender.Assoc
import Recommender.Http.Route
import Recommender.Http.Schema
import Recommender.Settings

/-!
# The service described

A service describes itself for programs: what it is, the requests that it takes, and the schemas
of what they carry.  What is said about an endpoint is a note; an endpoint without one is not
described.
-/

namespace Recommender.Http

/-- What is said about an endpoint. -/
structure Note where
  name : String
  explanation : String
  /-- The status of a response to a request that succeeds. -/
  status : Nat := 200
  /-- The schema of what such a response carries, if it carries anything. -/
  answer : Option Schema := some []
  /-- The value that the path ends in. -/
  value : Option (String × Schema) := none
  /-- The schema of the body of a request. -/
  body : Option Schema := none

namespace Endpoint

/-- What is said about an endpoint, if anything. -/
def note? : Endpoint → Option Note
  | .description | .manual => none
  | .health => some { name := "health_check", explanation := "Health check endpoint." }
  | .metrics => some { name := "metrics_endpoint", explanation := "Prometheus metrics endpoint." }
  | .createRule => some
    { name := "create_rule", explanation := "Create a dynamic rule.", status := 201
      answer := some (.named "RuleResponse"), body := some (.named "RuleCreateRequest") }
  | .listRules => some
    { name := "list_rules", explanation := "List all dynamic rules."
      answer := some (.named "RuleListResponse") }
  | .listCounts => some
    { name := "rule_stats", explanation := "Match counters of all dynamic rules."
      answer := some (.named "RuleStatsResponse") }
  | .deleteRule => some
    { name := "delete_rule", explanation := "Delete a dynamic rule.", status := 204
      answer := none, value := some ("rule_id", .integer) }
  | .recommendByName => some
    { name := "recommendations_by_name"
      explanation := "Recommendations for a user given by user name."
      answer := some (.named "UserRecommendationsResponse"), value := some ("user_name", .text) }
  | .recommend => some
    { name := "recommendations_by_id", explanation := "Recommendations for a user given by id."
      answer := some (.named "UserRecommendationsResponse")
      value := some ("user_id", .identifier) }
  | .clearCaches => some
    { name := "clear_caches", explanation := "Drop every cached aggregate." }
  | .about => some { name := "info", explanation := "Service name and version." }

end Endpoint

namespace Note

/-- A content that is written as JSON. -/
def content (s : Schema) : String × Json :=
  ("content", .obj [("application/json", .obj [("schema", .obj s)])])

/-- The path of a route, where the value that it ends in is named in braces. -/
def path (r : Route) (n : Note) : String :=
  r.lead ++ n.value.elim "" fun v => "\x7b" ++ v.1 ++ "\x7d"

/-- The identifier of an operation: its name, its path and its method, joined to one word. -/
def operationId (r : Route) (method : String) (n : Note) : String :=
  let word := (n.name ++ n.path r).map fun c => if c.isAlphanum then c else '_'
  word ++ "_" ++ method

/-- The responses that requests get: refusals only where there is something to refuse. -/
def responses (n : Note) : Json :=
  let success := ("description", Json.str "Successful Response")
    :: n.answer.toList.map content
  let refusal := [("description", Json.str "Validation Error"),
    content (.named "HTTPValidationError")]
  .obj ((toString n.status, .obj success)
    :: if n.value.isSome || n.body.isSome then [("422", .obj refusal)] else [])

/-- The value of a path as a parameter. -/
def parameter (value : String × Schema) : Json :=
  .obj [("name", .str value.1), ("in", "path"), ("required", .bool true),
    ("schema", .obj (value.2.withTitle (titleOf value.1)))]

/-- The description of the requests of a method that a route leads. -/
def operation (r : Route) (method : String) (n : Note) : Json :=
  .obj ([("summary", .str (titleOf n.name)), ("description", .str n.explanation),
      ("operationId", .str (n.operationId r method)), ("responses", n.responses)]
    ++ n.value.toList.map (fun v => ("parameters", .arr [parameter v]))
    ++ n.body.toList.map fun b => ("requestBody", .obj [("required", .bool true), content b]))

end Note

/-- Paths with what is said about the requests of each method, with one route more. -/
def describeRoute (paths : List (String × List (String × Json))) (r : Route) :
    List (String × List (String × Json)) :=
  match r.endpoint.note? with
  | none => paths
  | some n =>
    let operations := r.methods.map fun m => (asciiLower m, n.operation r (asciiLower m))
    Assoc.put (n.path r) ((Assoc.find? (n.path r) paths).getD [] ++ operations) paths

/-- The description of a service with the routes and the schemas given. -/
def describe (s : Settings) (routes : List Route) (schemas : List (String × Schema)) : Json :=
  let info := [("title", Json.str (titled s.serviceName ++ " Service")),
    ("description", .str ("Bank product " ++ s.serviceName ++ " service")),
    ("version", .str s.version)]
  let paths := routes.foldl describeRoute []
  .obj ([("openapi", .str "3.1.0"), ("info", .obj info),
      ("paths", .obj (paths.map fun p => (p.1, .obj p.2)))]
    ++ if schemas.isEmpty then []
      else [("components", .obj [("schemas", .obj (schemas.map fun s => (s.1, .obj s.2)))])])

end Recommender.Http
