import Recommender.Json.Template

/-!
# The service journal

Every event that the service logs is an object with the name of its logger, its level and its
text.  The journal adds the service, which is the first segment of a logger name of several
segments, and the request and the user that the service is working for.  The text of an event may
be a template that comes with what it is to be filled from.  Events below level `info` are
dropped.
-/

namespace Recommender

/-- What the service is working for. -/
structure JournalContext where
  requestId : Json := .null
  userId : Json := .null
  deriving Repr, Inhabited

/-- The level of an event. -/
inductive Severity where
  | debug
  | info
  | warning
  | error
  | critical
  deriving DecidableEq, Repr

namespace Severity

/-- The name of a level. -/
def name : Severity → String
  | .debug => "debug"
  | .info => "info"
  | .warning => "warning"
  | .error => "error"
  | .critical => "critical"

/-- The level of an event of a kind. -/
def ofKind? (kind : String) : Option Severity :=
  match kind with
  | "debug" => some .debug
  | "info" => some .info
  | "warning" | "warn" => some .warning
  | "error" | "exception" => some .error
  | "critical" | "fatal" => some .critical
  | _ => none

/-- Whether events of a level are kept. -/
def isKept (s : Severity) : Bool :=
  s ≠ .debug

end Severity

namespace JournalContext

/-- Work for a user from now on; a value that does not count as true changes nothing. -/
def setUser (user : Json) (c : JournalContext) : JournalContext :=
  if user.truthy then { c with userId := user } else c

/-- Work for a request from now on. -/
def setRequest (id : Json) (c : JournalContext) : JournalContext :=
  { c with requestId := id }

/-- The identifier of the request that the service works for, if it works for one. -/
def request? (c : JournalContext) : Option String :=
  match c.requestId with
  | .str id => some id
  | _ => none

/-- Add the request and the user to an event.  The request replaces one that the event names, the
user does not. -/
def addCorrelation (c : JournalContext) (event : Details) : Details :=
  let event := if c.requestId.truthy then Assoc.put "request_id" c.requestId event else event
  if c.userId.truthy && !Assoc.contains "user_id" event then Assoc.put "user_id" c.userId event
  else event

@[simp] theorem request?_setRequest (id : String) (c : JournalContext) :
    (c.setRequest (.str id)).request? = some id := rfl

end JournalContext

namespace Journal

/-- The service that a logger belongs to. -/
def serviceOf (logger : String) : Option String :=
  let chars := logger.toList
  if chars.contains '.' then some (String.ofList (chars.takeWhile (· ≠ '.'))) else none

/-- Whether a value that is no text holds a point among its items or keys, if it has such. -/
def holdsPoint? : Json → Option Bool
  | .arr items => some (items.any fun v => v == .str ".")
  | .obj members => some (Assoc.contains "." members)
  | _ => none

/-- Add the service to an event.  A logger that is no text has no segments, which matters only where
it seems to have several. -/
def addService (event : Details) : Except Failure Details :=
  match Assoc.find? "logger" event with
  | none => .ok event
  | some (.str logger) =>
    match serviceOf logger with
    | some service => .ok (Assoc.put "service" (.str service) event)
    | none => .ok event
  | some v =>
    match holdsPoint? v with
    | some true => .error .unknownName
    | some false => .ok event
    | none => .error .mistyped

/-- The name under which a logger is listed: the logger that is not named is the root. -/
def loggerName (logger : Json) : Except Failure String :=
  match logger with
  | .str name => .ok (if name = "" then "root" else name)
  | v => if v.truthy then .error .mistyped else .ok "root"

/-- The fields of an event that are not written: those that steer how it is written, and the time,
which is not part of a line here. -/
def unwrittenFields : List String := ["exc_info", "stack_info", "timestamp"]

/-- The names that a field cannot have, because parts of the event go by them. -/
def reservedNames : List String := ["event", "self", "method_name"]

/-- The field by which an event names the record that it comes from. -/
def recordField : String := "_record"

/-- Whether an event comes from a record.  A record would have to name a logger, and no value
does. -/
def isRecorded (fields : Details) : Bool :=
  (Assoc.find? recordField fields).any fun v => v != .null

/-- The fields of an event with its text, if it has one. -/
def withText (event : Json) (fields : Details) : Details :=
  match event with
  | .null => fields
  | event => Assoc.put "event" event fields

/-- The field that the text of an event is filled from. -/
def suppliesField : String := "positional_args"

/-- What a template is filled from: a list that holds one object and nothing else stands for that
object.  A number lists nothing, and an object has no first item. -/
def supplyOf (v : Json) : Except Failure Json :=
  match v with
  | .arr [.obj (m :: rest)] => .ok (.obj (m :: rest))
  | .obj [_] => .error .missingColumn
  | .arr _ | .obj _ | .str _ => .ok v
  | _ => .error .mistyped

/-- The text of an event, filled. -/
def filledText (event : Details) (supply : Json) : Except Failure Json :=
  match Assoc.find? "event" event with
  | some (.str template) => (Template.fill template supply).map .str
  | some _ => .error .mistyped
  | none => .error .missingColumn

/-- Fill the text of an event, if it comes with something to fill it from.  What it was to be filled
from is not written, unless that is null. -/
def fillText (event : Details) : Except Failure Details :=
  match Assoc.find? suppliesField event with
  | none | some .null => return event
  | some supplies => do
    let rest := Assoc.remove suppliesField event
    if supplies.truthy then
      let supply ← supplyOf supplies
      let text ← filledText rest supply
      return Assoc.put "event" text rest
    else return rest

/-- The lines that an event makes. -/
def emit (c : JournalContext) (logger : Json) (level : Severity) (event : Json)
    (fields : Details) : Except Failure (List Json) := do
  let name ← loggerName logger
  if fields.any fun f => reservedNames.contains f.1 then .error .mistyped
  else if !level.isKept then return []
  else if isRecorded fields then .error .unknownName
  else
    let base := fields.filter fun f => !unwrittenFields.contains f.1
    let named := Assoc.put "level" (.str level.name)
      (Assoc.put "logger" (.str name) (withText event base))
    let filled ← fillText named
    let line ← addService filled
    return [.obj (c.addCorrelation line)]

end Journal

end Recommender
