/-!
# Routes

A route leads requests of some methods to an endpoint, by a path that is fixed or ends in a value.
A request whose path has a route, but none for its method, is told so; one whose path has no route
is sent on to the path with a slash more or less at its end if that one has a route.
-/

namespace Recommender.Http

/-- What requests can be about. -/
inductive Endpoint where
  /-- The description of the service for programs. -/
  | description
  /-- The manual of the service, on pages for readers. -/
  | manual
  | health
  | metrics
  | createRule
  | listRules
  | listCounts
  | deleteRule
  | recommendByName
  | recommend
  | clearCaches
  | about
  deriving DecidableEq, Repr, Inhabited

/-- A way to an endpoint.  Behind the lead of its path stands a value if it takes one. -/
structure Route where
  endpoint : Endpoint
  methods : List String
  lead : String
  takesValue : Bool := false
  deriving DecidableEq, Repr, Inhabited

namespace Route

/-- Whether characters make a value: there is at least one and no slash. -/
def isValue (cs : List Char) : Bool :=
  !cs.isEmpty && cs.all (· ≠ '/')

/-- The value that a path has for a route, empty if the route takes none.  A fixed path may have a
line break at its end. -/
def value? (path : String) (r : Route) : Option String :=
  match r.lead.toList.isPrefixOf? path.toList with
  | none => none
  | some rest =>
    if r.takesValue then
      if isValue rest then some (String.ofList rest) else none
    else if rest = [] || rest = ['\n'] then some "" else none

/-- Whether a route has a path. -/
def hasPath (path : String) (r : Route) : Bool :=
  (r.value? path).isSome

/-- The endpoint to which a route leads a request, with the value of its path. -/
def leads? (method path : String) (r : Route) : Option (Endpoint × String) :=
  if r.methods.contains method then (r.value? path).map fun v => (r.endpoint, v) else none

/-! ## The routes of the service -/

/-- The routes of every service. -/
def common : List Route :=
  [⟨.health, ["GET"], "/health", false⟩, ⟨.metrics, ["GET"], "/metrics", false⟩]

/-- The description of every service. -/
def descriptions : List Route :=
  [⟨.description, ["GET", "HEAD"], "/openapi.json", false⟩]

/-- The pages of the manual. -/
def manuals : List Route :=
  [⟨.manual, ["GET", "HEAD"], "/docs", false⟩,
    ⟨.manual, ["GET", "HEAD"], "/docs/oauth2-redirect", false⟩,
    ⟨.manual, ["GET", "HEAD"], "/redoc", false⟩]

/-- The routes of a service that has rules. -/
def ruled : List Route :=
  [⟨.createRule, ["POST"], "/rule", false⟩, ⟨.listRules, ["GET"], "/rule", false⟩,
    ⟨.listCounts, ["GET"], "/rule/stats", false⟩, ⟨.deleteRule, ["DELETE"], "/rule/", true⟩,
    ⟨.recommendByName, ["GET"], "/recommendation/by-name/", true⟩,
    ⟨.recommend, ["GET"], "/recommendation/", true⟩,
    ⟨.clearCaches, ["POST"], "/management/clear-caches", false⟩,
    ⟨.about, ["GET"], "/management/info", false⟩]

end Route

/-- Where a request is led. -/
inductive Routing where
  | found (endpoint : Endpoint) (value : String)
  /-- The path has a route, but none for the method. -/
  | wrongMethod
  /-- The path has a route with a slash more or less at its end. -/
  | elsewhere
  | nowhere
  deriving DecidableEq, Repr

/-- The path with a slash more at its end, or with none of those that it has. -/
def otherPath (path : String) : String :=
  match path.toList.reverse with
  | '/' :: rest => String.ofList (rest.dropWhile (· = '/')).reverse
  | _ => path ++ "/"

/-- Lead a request by the first route that has its method and its path. -/
def routing (routes : List Route) (method path : String) : Routing :=
  match routes.findSome? (Route.leads? method path) with
  | some (endpoint, value) => .found endpoint value
  | none =>
    if routes.any (Route.hasPath path) then .wrongMethod
    else if path ≠ "/" && routes.any (Route.hasPath (otherPath path)) then .elsewhere
    else .nowhere

end Recommender.Http
