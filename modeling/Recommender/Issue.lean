import Recommender.Json.Basic

/-!
# Validation issues

An issue names one place of a structured input that was not accepted, says why, and shows what stood
there.  The issues of an input are listed in the order of its declared fields.
-/

namespace Recommender

/-- Why a part of an input was not accepted. -/
inductive IssueKind where
  | missing
  | notRecord
  | notObject
  /-- Details that are no object. -/
  | notDetails
  | notList
  | notText
  /-- A text with half of a surrogate pair in it. -/
  | brokenText
  | notIdentifier
  | malformedIdentifier
  | notFlag
  | malformedFlag
  | notInteger
  | malformedInteger
  | oversizedInteger
  | fractionalInteger
  | unboundedInteger
  | malformedJson
  deriving DecidableEq, Repr, Inhabited

namespace IssueKind

/-- The name under which an issue is reported. -/
def name : IssueKind → String
  | .missing => "missing"
  | .notRecord => "model_type"
  | .notObject => "model_attributes_type"
  | .notDetails => "dict_type"
  | .notList => "list_type"
  | .notText => "string_type"
  | .brokenText => "string_unicode"
  | .notIdentifier => "uuid_type"
  | .malformedIdentifier => "uuid_parsing"
  | .notFlag => "bool_type"
  | .malformedFlag => "bool_parsing"
  | .notInteger => "int_type"
  | .malformedInteger => "int_parsing"
  | .oversizedInteger => "int_parsing_size"
  | .fractionalInteger => "int_from_float"
  | .unboundedInteger => "finite_number"
  | .malformedJson => "json_invalid"

end IssueKind

/-- One step into a structured input. -/
inductive Step where
  | field (name : String)
  | index (position : Nat)
  deriving DecidableEq, Repr

/-- One place of an input that was not accepted. -/
structure Issue where
  kind : IssueKind
  path : List Step
  /-- What stood there; where something is missing, what it is missing in. -/
  input : Json := .null
  deriving Repr, Inhabited

/-- The text of a step. -/
def Step.text : Step → String
  | .field name => name
  | .index position => toString position

/-- The text of an issue: the place and the name of what was not accepted there. -/
def Issue.text (issue : Issue) : String :=
  ".".intercalate (issue.path.map Step.text) ++ ": " ++ issue.kind.name

/-- The issue, seen from the value that holds the input as one of its parts. -/
def Issue.under (step : Step) (issue : Issue) : Issue :=
  { issue with path := step :: issue.path }

end Recommender
