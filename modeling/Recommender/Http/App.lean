import Recommender.Http.Description
import Recommender.Http.Operation
import Recommender.Http.Path
import Recommender.Journal
import Recommender.Metric.Collector
import Recommender.Service.Stores
import Recommender.Settings

/-!
# The service behind its routes

Every request is given an identifier, which it may bring itself, and is answered and then counted.
While a request is handled, the context of the service names it.  A failure that the service reports
is answered with its own status and form, which names the request of the context; any other failure
is answered without details and without the identifier, and is counted as an error only.  So is a
response that cannot be sent.
-/

namespace Recommender.Http

/-- A service that answers requests. -/
structure App where
  settings : Settings
  stores : Stores
  /-- The revision that the service was built from. -/
  revision : String
  state : ServiceState
  metrics : Collector
  /-- What the service works for.  The user is left out: nothing but the journal reads it. -/
  context : JournalContext := {}

/-- A request as it comes in, with an identifier for it if it brings none, and the time that it will
take. -/
structure Arrival where
  request : Request
  freshId : String
  seconds : Json := .float (.zero false)

/-- The identifier of a request: the one that it brings, or the fresh one. -/
def Arrival.id (arrival : Arrival) : String :=
  (arrival.request.header? "x-request-id").getD arrival.freshId

/-- A response as it goes out, with the identifier of the request. -/
structure Answer where
  response : Response
  requestId : Option String
  deriving Repr

namespace App

/-- A service at its start. -/
def start (settings : Settings) (stores : Stores) (revision : String) (provider : Provider) :
    App where
  settings := settings
  stores := stores
  revision := revision
  state := stores.start provider
  metrics := { service := .str settings.serviceName }

/-- Whether the service runs in the local environment, where it serves its manual to everybody. -/
def isLocal (a : App) : Bool :=
  a.settings.environment = "local"

/-- The routes of a service. -/
def routes (a : App) : List Route :=
  Route.descriptions ++ (if a.isLocal then Route.manuals else []) ++ Route.common
  ++ (if a.stores = .absent then [] else Route.ruled)

/-- Every sample of a service. -/
def samples (a : App) : List Sample :=
  a.metrics.samples ++ a.state.samples

/-! ## Endpoints -/

/-- Carry an operation out. -/
def perform (p : Program Backend Response) (a : App) : Except Failure Response × App :=
  match a.state.perform p with
  | (result, state) => (result, { a with state })

/-- The response of a service all of whose dependencies could be asked. -/
def healthy (dependencies : List (String × String)) (a : App) : Response :=
  .ok (.obj [("service", .str a.settings.serviceName), ("status", .str "ok"),
    ("dependencies", .obj (dependencies.map fun d => (d.1, .str d.2))),
    ("version", .str a.settings.version), ("commit", .str a.revision)])

/-- The response of a service one of whose dependencies could not be asked. -/
def unhealthy (why : Failure) (a : App) : Response :=
  ⟨503, .json (.obj [("service", .str a.settings.serviceName), ("status", .str "error"),
    ("error", .str why.text)])⟩

/-- Check what the service depends on. -/
def checkHealth (a : App) : Response × App :=
  let counted (status : String) : App :=
    { a with metrics := (a.metrics.recordHealthCheck (.str status)).2 }
  match a.stores.dependencies a.state with
  | .ok dependencies => (a.healthy dependencies, counted "ok")
  | .error e => (a.unhealthy e, counted "error")

/-- Clear the memos. -/
def clearCaches (a : App) : Response × App :=
  match a.state.clearCaches with
  | (removed, state) =>
    (.ok (.obj [("message", .str "Caches cleared"), ("entries_removed", .int removed)]),
      { a with state })

/-- Say what the service is. -/
def introduce (a : App) : Response :=
  .ok (.obj [("name", .str a.settings.serviceName), ("version", .str a.settings.version)])

/-- Describe the service. -/
def describe (a : App) : Response :=
  .ok (Http.describe a.settings a.routes (if a.stores = .absent then [] else Schema.ofRuled))

/-- Serve an endpoint that is not about rules or recommendations. -/
def serve (endpoint : Endpoint) (a : App) : Response × App :=
  match endpoint with
  | .health => a.checkHealth
  | .metrics => (⟨200, .samples a.samples⟩, a)
  | .clearCaches => a.clearCaches
  | .about => (a.introduce, a)
  | .description => (a.describe, a)
  | _ => (⟨200, .page⟩, a)

/-- Handle a request at an endpoint. -/
def handle (endpoint : Endpoint) (value : String) (r : Request) (a : App) :
    Except Failure Response × App :=
  match operationOf? Catalog.all endpoint value r with
  | some p => a.perform p
  | none =>
    match a.serve endpoint with
    | (response, a) => (.ok response, a)

/-! ## Requests from pages of other origins -/

/-- The methods that pages of other origins may use. -/
def sharedMethods : List String :=
  ["DELETE", "GET", "HEAD", "OPTIONS", "PATCH", "POST", "PUT", "QUERY"]

/-- Whether pages of other origins may send requests of a method.  A request from a public into a
private network is never granted. -/
def grants (r : Request) (method : String) (a : App) : Bool :=
  a.isLocal && sharedMethods.contains method
  && (r.header? "access-control-request-private-network").isNone

/-- The response to the question whether a page of another origin may send a request, if that is the
question. -/
def preflight? (r : Request) (a : App) : Option Response :=
  match r.header? "origin", r.header? "access-control-request-method" with
  | some _, some method =>
    if r.method = "OPTIONS" then some ⟨if a.grants r method then 200 else 400, .page⟩ else none
  | _, _ => none

/-! ## Answers -/

/-- Lead a request to its endpoint and handle it. -/
def dispatch (r : Request) (a : App) : Except Failure Response × App :=
  match routing a.routes r.method r.path with
  | .found endpoint value => a.handle endpoint value r
  | .wrongMethod => (.ok (.plain 405 "Method Not Allowed"), a)
  | .elsewhere => (r.site?.elim (.error .unknownName) fun _ => .ok ⟨307, .empty⟩, a)
  | .nowhere => (.ok (.plain 404 "Not Found"), a)

/-- Count an error. -/
def countError (code : String) (a : App) : App :=
  { a with metrics := (a.metrics.recordError (.str code) .null).2 }

/-- Count a request that was answered. -/
def countRequest (arrival : Arrival) (response : Response) (a : App) : App :=
  let path := listedPath arrival.request.path
  { a with metrics := (a.metrics.recordRequest (.str arrival.request.method) (.str path)
      (.int response.status) arrival.seconds).2 }

/-- The response to a request that ended in a failure which is not reported. -/
def brokenDown : Response :=
  ⟨500, .json (.obj [("code", .str "INTERNAL_ERROR"), ("message", .str "Internal server error"),
    ("details", .obj [])])⟩

/-- Report an error in the name of the request that the service works for, and count it. -/
def report (e : ServiceError) (a : App) : Response × App :=
  (⟨e.httpStatus, .json (e.response a.context.request?)⟩, a.countError e.code)

/-- Answer a request that ended in a failure which is not reported. -/
def breakDown (r : Request) (a : App) : Answer × App :=
  (⟨brokenDown.forMethod r.method, none⟩, a.countError "INTERNAL_ERROR")

/-- Send a response out and count the request.  A response that cannot be sent is a failure, and so
is a request for a place that is not known. -/
def finish (arrival : Arrival) (response : Response) (a : App) : Answer × App :=
  if response.content.isSendable && arrival.request.site?.isSome then
    (⟨response.forMethod arrival.request.method, some arrival.id⟩, a.countRequest arrival response)
  else a.breakDown arrival.request

/-- Work for a request from now on. -/
def enter (arrival : Arrival) (a : App) : App :=
  { a with context := a.context.setRequest (.str arrival.id) }

/-- Work for nothing any more. -/
def leave (a : App) : App :=
  { a with context := {} }

/-- What the handling of a request ends in, and the service after it, which still works for the
request. -/
def handled (arrival : Arrival) (a : App) : Except Failure Response × App :=
  let a := a.enter arrival
  match a.preflight? arrival.request with
  | some response => (.ok response, a)
  | none => a.dispatch arrival.request

/-- Answer a request. -/
def respond (arrival : Arrival) (a : App) : Answer × App :=
  match a.handled arrival with
  | (.ok response, a) => a.leave.finish arrival response
  | (.error (.service e), a) =>
    match a.report e with
    | (response, a) => a.leave.finish arrival response
  | (.error _, a) => a.leave.breakDown arrival.request

/-- Answer a request of somebody who looks at the place that a response sends a request on to. -/
def exchange (arrival : Arrival) (a : App) : Except Failure (Answer × App) := do
  let (answer, a) := a.respond arrival
  let r := arrival.request
  if answer.response.status = 307 then r.checkMoveTo (otherPath r.path)
  return (answer, a)

/-- Count the matches that are still to be counted. -/
def settle (a : App) : App :=
  { a with state := a.state.drain }

end App

end Recommender.Http
