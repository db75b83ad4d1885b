import Recommender.Arguments
import Recommender.Payload.Field

/-!
# Kinds of service errors

An error can be built from its kind and arguments.  The kinds have names, and an error of a
special kind is one of its general kinds as well.  Arguments are free values; what an error
reports is checked when it is reported, so that an error can be built that cannot be reported.
-/

namespace Recommender

/-- A kind of service errors. -/
inductive ErrorKind where
  | general
  | notFound
  | badRequest
  | unavailable
  | unexpected
  | ruleNotFound
  | userNotFound
  | unknownOperator
  | unknownProduct
  | unknownDirection
  | unknownComparison
  | illegalArguments
  | invalidArgument
  deriving DecidableEq, Repr, Inhabited

/-- The kind of an error. -/
def ServiceError.kind : ServiceError → ErrorKind
  | .general .. => .general
  | .notFound .. => .notFound
  | .badRequest .. => .badRequest
  | .unavailable .. => .unavailable
  | .unexpected .. => .unexpected
  | .ruleNotFound .. => .ruleNotFound
  | .userNotFound _ => .userNotFound
  | .unknownOperator _ => .unknownOperator
  | .unknownProduct _ => .unknownProduct
  | .unknownDirection _ => .unknownDirection
  | .unknownComparison _ => .unknownComparison
  | .illegalArguments .. => .illegalArguments
  | .invalidArgument .. => .invalidArgument

namespace ErrorKind

/-- Every kind. -/
def all : List ErrorKind :=
  [.general, .notFound, .badRequest, .unavailable, .unexpected, .ruleNotFound, .userNotFound,
    .unknownOperator, .unknownProduct, .unknownDirection, .unknownComparison, .illegalArguments,
    .invalidArgument]

/-- The name of a kind. -/
def name : ErrorKind → String
  | .general => "RecommendationServiceError"
  | .notFound => "NotFoundError"
  | .badRequest => "BadRequestError"
  | .unavailable => "UnavailableError"
  | .unexpected => "UnexpectedError"
  | .ruleNotFound => "RuleNotFoundError"
  | .userNotFound => "UserNotFoundError"
  | .unknownOperator => "UnknownQueryTypeError"
  | .unknownProduct => "UnknownProductTypeError"
  | .unknownDirection => "UnknownTransactionTypeError"
  | .unknownComparison => "UnknownComparisonTypeError"
  | .illegalArguments => "IllegalQueryArgumentsError"
  | .invalidArgument => "InvalidArgumentError"

/-- The kind of a name. -/
def ofName? (s : String) : Option ErrorKind :=
  all.find? fun k => k.name = s

@[simp] theorem ofName?_name (k : ErrorKind) : ofName? k.name = some k := by
  cases k <;> rfl

/-- The parameters of a kind, in order. -/
def parameters : ErrorKind → List String
  | .general | .badRequest => ["code", "message", "details"]
  | .notFound | .unexpected | .invalidArgument => ["message", "details"]
  | .unavailable => ["collaborator", "message", "details"]
  | .ruleNotFound => ["rule_id", "message"]
  | .userNotFound => ["user_name"]
  | .illegalArguments => ["query_type", "message", "details"]
  | .unknownOperator | .unknownProduct | .unknownDirection | .unknownComparison => ["token"]

/-- The parameters of a kind that have no default. -/
def required : ErrorKind → List String
  | .general => ["code", "message"]
  | .notFound | .badRequest | .unexpected | .invalidArgument => []
  | .unavailable => ["collaborator"]
  | .ruleNotFound => ["rule_id"]
  | .illegalArguments => ["query_type", "message"]
  | k => k.parameters

/-! ## Reporting -/

/-- What is reported of an error. -/
structure Report where
  requestId : Option String
  code : String
  message : String
  details : Details

/-- Details: an object, or nothing that counts as true. -/
def readDetails (v : Json) : Checked Details :=
  match v with
  | .obj members => .ok members
  | v => if v.truthy then Checked.refuse .notDetails v else .ok []

/-- Check what is reported of an error. -/
def check (requestId code message details : Json) : Except Failure Report :=
  let part {α : Type} (name : String) (read : Json → Checked α) (v : Json) :=
    (read v).under (.field name)
  (Checked.apply (Checked.apply (Checked.apply (Checked.apply (.ok Report.mk)
    (part "request_id" (Field.nullable Field.text) requestId))
    (part "code" Field.text code))
    (part "message" Field.text message))
    (part "details" readDetails details)).toResult

/-- Details that are added to others, which takes an object. -/
def addedDetails (v : Json) : Except Failure Details :=
  match v with
  | .obj members => .ok members
  | v => if v.truthy then .error .mistyped else .ok []

/-- Build an error of a kind and check what is reported of it for a request. -/
def build (k : ErrorKind) (requestId : Json) (bound : Details) :
    Except Failure (ServiceError × Report) := do
  let value (p : String) (fallback : Json) := (Assoc.find? p bound).getD fallback
  let message (fallback : String) := value "message" fallback
  let details := value "details" .null
  let checked (code message : Json) (error : Report → ServiceError) := do
    let report ← check requestId code message details
    return (error report, report)
  let plain (error : ServiceError) := do
    let report ← check requestId (.str error.code) (.str error.message) (.obj error.details)
    return (error, report)
  let unknown (error : String → ServiceError) := do
    let token ← (value "token" .null).messageText
    plain (error token)
  match k with
  | .general =>
    checked (value "code" .null) (message "") fun r => .general r.code r.message r.details
  | .notFound => checked "NOT_FOUND" (message "Not found") fun r => .notFound r.message r.details
  | .badRequest =>
    checked (value "code" "BAD_REQUEST") (message "Bad request") fun r =>
      .badRequest r.code r.message r.details
  | .unexpected =>
    checked "UNEXPECTED_ERROR" (message "Unexpected error") fun r => .unexpected r.message r.details
  | .invalidArgument =>
    checked "INVALID_ARGUMENT" (message "Invalid argument") fun r =>
      .invalidArgument r.message r.details
  | .unavailable =>
    let collaborator ← (value "collaborator" .null).messageText
    let text ← (message "Collaborator not initialized").messageText
    checked "UNAVAILABLE" "" fun r => .unavailable collaborator text r.details
  | .ruleNotFound =>
    let text ← (message "Rule not found").messageText
    let ruleId := value "rule_id" .null
    let _ ← ruleId.messageText
    plain (.ruleNotFound ruleId text)
  | .userNotFound => plain (.userNotFound (value "user_name" .null))
  | .unknownOperator => unknown .unknownOperator
  | .unknownProduct => unknown .unknownProduct
  | .unknownDirection => unknown .unknownDirection
  | .unknownComparison => unknown .unknownComparison
  | .illegalArguments =>
    let operator := value "query_type" .null
    let _ ← operator.messageText
    let reason ← (message "").messageText
    let added ← addedDetails details
    plain (.illegalArguments operator reason added none)

end ErrorKind

/-- The names of the kinds that an error is of: errors in general, and the general kinds that say
how it is answered. -/
def ServiceError.kindNames (e : ServiceError) : List String :=
  let general := [(ErrorKind.general, true), (.notFound, e.isNotFound),
    (.badRequest, e.isBadRequest), (.unavailable, e.isUnavailable), (.unexpected, e.isUnexpected)]
  (general.filter (·.2)).map fun k => k.1.name

end Recommender
