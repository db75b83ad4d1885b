import Recommender.Http.Name.Fault
import Recommender.Issue
import Recommender.Json.Basic

/-!
# Failures

A *service error* is a failure that the service reports to its caller, with a code, a message,
details and an HTTP status.  Each is a cause; its wording is in one place.  A *failure* is anything
that ends an operation early: a service error, a failure of a collaborator, a rejected input, or
an operation that has no answer for the values it was given.
-/

namespace Recommender

/-- Details of an error, by name. -/
abbrev Details := List (String × Json)

/-- An error that the service reports. -/
inductive ServiceError where
  /-- An uncategorised error. -/
  | general (errorCode text : String) (extra : Details)
  /-- A requested entity does not exist. -/
  | notFound (text : String) (extra : Details)
  /-- A request is malformed. -/
  | badRequest (errorCode text : String) (extra : Details)
  /-- A collaborator is not ready. -/
  | unavailable (collaborator text : String) (extra : Details)
  /-- A failure without a category of its own. -/
  | unexpected (text : String) (extra : Details)
  /-- No rule has the identifier. -/
  | ruleNotFound (ruleId : Json) (text : String)
  /-- No user has the name. -/
  | userNotFound (userName : Json)
  /-- A text names no operator. -/
  | unknownOperator (token : String)
  /-- A text names no product type. -/
  | unknownProduct (token : String)
  /-- A text names no direction of a transaction. -/
  | unknownDirection (token : String)
  /-- A text names no comparison. -/
  | unknownComparison (token : String)
  /-- The arguments of a query do not fit its operator. -/
  | illegalArguments (operator : Json) (reason : String) (extra : Details)
      (because : Option ServiceError)
  /-- A required argument is missing. -/
  | invalidArgument (text : String) (extra : Details)
  deriving Repr, Inhabited

namespace ServiceError

/-- A text is no numeral. -/
def notInteger (token : String) : ServiceError :=
  .badRequest "INVALID_NUMBER" ("Not an integer: " ++ token) [("value", .str token)]

/-- The stable code of an error. -/
def code : ServiceError → String
  | .general c _ _ => c
  | .notFound .. => "NOT_FOUND"
  | .badRequest c _ _ => c
  | .unavailable .. => "UNAVAILABLE"
  | .unexpected .. => "UNEXPECTED_ERROR"
  | .ruleNotFound .. => "RULE_NOT_FOUND"
  | .userNotFound _ => "USER_NOT_FOUND"
  | .unknownOperator _ => "UNKNOWN_QUERY_TYPE"
  | .unknownProduct _ => "UNKNOWN_PRODUCT_TYPE"
  | .unknownDirection _ => "UNKNOWN_TRANSACTION_TYPE"
  | .unknownComparison _ => "UNKNOWN_COMPARISON_TYPE"
  | .illegalArguments .. => "ILLEGAL_QUERY_ARGUMENTS"
  | .invalidArgument .. => "INVALID_ARGUMENT"

/-- The message of an error. -/
def message : ServiceError → String
  | .general _ m _ => m
  | .notFound m _ => m
  | .badRequest _ m _ => m
  | .unavailable c m _ => c ++ ": " ++ m
  | .unexpected m _ => m
  | .ruleNotFound id m => m ++ " (ID: " ++ id.text ++ ")"
  | .userNotFound _ => "User not found"
  | .unknownOperator t => "Unknown query type: " ++ t
  | .unknownProduct t => "Unknown product type: " ++ t
  | .unknownDirection t => "Unknown transaction type: " ++ t
  | .unknownComparison t => "Unknown comparison type: " ++ t
  | .illegalArguments op m _ _ => "Illegal arguments in " ++ op.text ++ " query: " ++ m
  | .invalidArgument m _ => m

/-- The details of an error.  Details given for illegal arguments replace the operator's entry if
they name it too. -/
def details : ServiceError → Details
  | .general _ _ d => d
  | .notFound _ d => d
  | .badRequest _ _ d => d
  | .unavailable _ _ d => d
  | .unexpected _ d => d
  | .ruleNotFound id _ => [("rule_id", .str id.text)]
  | .userNotFound n => [("user_name", n)]
  | .unknownOperator t | .unknownProduct t | .unknownDirection t | .unknownComparison t =>
    [("value", .str t)]
  | .illegalArguments op _ d _ =>
    d.foldl (fun acc m => Assoc.put m.1 m.2 acc) [("query", op)]
  | .invalidArgument _ d => d

/-- The error that an error was raised from. -/
def cause : ServiceError → Option ServiceError
  | .illegalArguments _ _ _ c => c
  | _ => none

/-- Whether an error says that a requested entity does not exist. -/
def isNotFound : ServiceError → Bool
  | .notFound .. | .ruleNotFound .. | .userNotFound _ => true
  | _ => false

/-- Whether an error says that a request is malformed. -/
def isBadRequest : ServiceError → Bool
  | .badRequest .. | .unknownOperator _ | .unknownProduct _ | .unknownDirection _
  | .unknownComparison _ | .illegalArguments .. | .invalidArgument .. => true
  | _ => false

/-- Whether an error says that a collaborator is not ready. -/
def isUnavailable : ServiceError → Bool
  | .unavailable .. => true
  | _ => false

/-- Whether an error is a failure without a category of its own. -/
def isUnexpected : ServiceError → Bool
  | .unexpected .. => true
  | _ => false

/-- The HTTP status that an error is answered with. -/
def httpStatus (e : ServiceError) : Nat :=
  if e.isNotFound then 404
  else if e.isBadRequest then 400
  else if e.isUnavailable then 503
  else 500

/-- The reported form of an error, for the request that it answers. -/
def response (e : ServiceError) (requestId : Option String) : Json :=
  .obj [("request_id", .ofOption .str requestId), ("code", .str e.code),
    ("message", .str e.message), ("details", .obj e.details)]

end ServiceError

/-- Why an operation ended early. -/
inductive Failure where
  /-- An error that the service reports. -/
  | service (e : ServiceError)
  /-- A collaborator could not be reached. -/
  | connection (text : String)
  /-- A collaborator failed while it worked. -/
  | breakdown (text : String)
  /-- An input was rejected. -/
  | rejected (issues : List Issue)
  /-- An operation met a value of a type that it is not defined on. -/
  | mistyped
  /-- A text or number has no value of the wanted kind. -/
  | unreadable
  /-- An infinite number has no whole part. -/
  | unbounded
  /-- A comparison met a decimal that is no number. -/
  | incomparable
  /-- A stored text is no JSON text. -/
  | corrupt
  /-- A stored text nests lists and objects too deeply. -/
  | tooDeep
  /-- A stored row lacks a column. -/
  | missingColumn
  /-- A name denotes nothing. -/
  | unknownName
  /-- An operation is declared and not defined. -/
  | undefined
  /-- A description lacks a part that it must have. -/
  | incomplete
  /-- A text is no target of a request. -/
  | noTarget
  /-- A text is no name of a host. -/
  | misnamed (why : Http.NameFault)
  /-- A text has characters that it cannot be sent with. -/
  | unencodable
  /-- A request was sent on to a place where no request can go. -/
  | misdirected
  /-- A value takes more room than there is. -/
  | exhausted
  /-- A list has no item at a place. -/
  | missingItem
  /-- The system refused an operation. -/
  | refused
  deriving Repr, Inhabited

/-- The text of a value in a message.  A value that cannot be displayed has none. -/
def Json.messageText (v : Json) : Except Failure String :=
  if v.isShowable then .ok v.text else .error .unreadable

namespace Failure

/-- Whether a failure is a service error about a malformed request. -/
def isBadRequest : Failure → Bool
  | .service e => e.isBadRequest
  | _ => false

/-- The text of a failure in a message about it. -/
def text : Failure → String
  | .service e => e.message
  | .connection m => m
  | .breakdown m => m
  | .rejected issues => ", ".intercalate (issues.map Issue.text)
  | _ => ""

/-- An injected failure about a malformed request. -/
def injectedBadRequest (text : String) : Failure :=
  .service (.badRequest "INJECTED" text [])

end Failure

end Recommender
