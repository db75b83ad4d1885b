import Recommender.Json.Basic
import Recommender.Text.Title

/-!
# Schemas

A schema describes the values that a request or a response carries.  The schemas of objects have
names, by which other schemas refer to them, and every field of an object is described with a
title, which is its name in words.
-/

namespace Recommender.Http

/-- The description of a kind of values. -/
abbrev Schema := List (String × Json)

/-- A name in words, as a title. -/
def titleOf (name : String) : String :=
  titled (name.map fun c => if c = '_' then ' ' else c)

namespace Schema

/-- A text. -/
def text : Schema := [("type", "string")]

/-- An identifier, written as text. -/
def identifier : Schema := [("type", "string"), ("format", "uuid")]

/-- A whole number. -/
def integer : Schema := [("type", "integer")]

/-- A truth value. -/
def flag : Schema := [("type", "boolean")]

/-- Null. -/
def null : Schema := [("type", "null")]

/-- Any object. -/
def anyObject : Schema := [("type", "object")]

/-- A value of a schema that has a name. -/
def named (name : String) : Schema :=
  [("$ref", .str ("#/components/schemas/" ++ name))]

/-- A list of values. -/
def list (item : Schema) : Schema :=
  [("type", "array"), ("items", .obj item)]

/-- A value of one of several schemas. -/
def anyOf (choices : List Schema) : Schema :=
  [("anyOf", .arr (choices.map .obj))]

/-- A schema with a title. -/
def withTitle (title : String) (s : Schema) : Schema :=
  s ++ [("title", .str title)]

/-- A schema with an explanation. -/
def withText (text : String) (s : Schema) : Schema :=
  s ++ [("description", .str text)]

/-- A schema of values that may be left out and then are the one given. -/
def orElse (fallback : Json) (s : Schema) : Schema :=
  s ++ [("default", fallback)]

end Schema

/-- A field of an object. -/
structure SchemaField where
  name : String
  schema : Schema
  isRequired : Bool := true

namespace SchemaField

/-- A field that has to be given; its title is its name in words. -/
def required (name : String) (s : Schema) : SchemaField :=
  ⟨name, s.withTitle (titleOf name), true⟩

/-- A field that may be left out. -/
def optional (name : String) (s : Schema) : SchemaField :=
  { required name s with isRequired := false }

end SchemaField

namespace Schema

/-- Objects with the fields given. -/
def record (name : String) (fields : List SchemaField) : Schema :=
  let required := (fields.filter (·.isRequired)).map (·.name)
  let shape : Schema := [("type", "object"), ("title", .str name),
    ("properties", .obj (fields.map fun f => (f.name, .obj f.schema)))]
  if required.isEmpty then shape else shape ++ [("required", .ofStrings required)]

/-! ## The objects of the service -/

/-- A query in writing. -/
def query : Schema :=
  (record "RuleQueryPayload"
    [.required "query" (text.withText "Query operator"),
      .optional "arguments" ((list text).withText "Positional arguments"),
      .optional "negate"
        ((flag.withText "Invert the query verdict").orElse (.bool false))]).withText
    "Query as sent and returned over HTTP."

/-- A rule as sent. -/
def ruleDraft : Schema :=
  (record "RuleCreateRequest"
    [.required "product_id" (identifier.withText "Recommended product ID"),
      .required "product_name" (text.withText "Recommended product name"),
      .required "product_text" (text.withText "Recommendation text"),
      .optional "rule" ((list (named "RuleQueryPayload")).withText "Rule queries")]).withText
    "Request model for creating a dynamic rule."

/-- A rule as answered. -/
def ruleView : Schema :=
  (record "RuleResponse"
    [.required "id" (anyOf [integer, null]), .required "product_id" identifier,
      .required "product_name" text, .required "product_text" text,
      .required "rule" (list (named "RuleQueryPayload"))]).withText
    "Response model for rule operations."

/-- A list of rules. -/
def rules : Schema :=
  (record "RuleListResponse" [.required "data" (list (named "RuleResponse"))]).withText
    "Response model for rule list."

/-- A match count. -/
def matchCount : Schema :=
  record "RuleStatResponse" [.required "rule_id" integer, .required "count" integer]

/-- A list of match counts. -/
def matchCounts : Schema :=
  record "RuleStatsResponse" [.required "stats" (list (named "RuleStatResponse"))]

/-- A recommendation. -/
def recommendation : Schema :=
  record "RecommendationResponse"
    [.required "id" identifier, .required "name" text, .required "text" text]

/-- The recommendations for a user. -/
def recommendations : Schema :=
  (record "UserRecommendationsResponse"
    [.required "user_id" identifier,
      .required "recommendations" (list (named "RecommendationResponse"))]).withText
    "Recommendations for one user."

/-- An issue for which a request is refused. -/
def issue : Schema :=
  record "ValidationError"
    [⟨"loc", (list (anyOf [text, integer])).withTitle "Location", true⟩,
      ⟨"msg", text.withTitle "Message", true⟩, ⟨"type", text.withTitle "Error Type", true⟩,
      ⟨"input", withTitle "Input" [], false⟩, ⟨"ctx", anyObject.withTitle "Context", false⟩]

/-- The issues for which a request is refused. -/
def issues : Schema :=
  record "HTTPValidationError" [.optional "detail" (list (named "ValidationError"))]

/-- The schemas of a service that has rules, by name. -/
def ofRuled : List (String × Schema) :=
  [("HTTPValidationError", issues), ("RecommendationResponse", recommendation),
    ("RuleCreateRequest", ruleDraft), ("RuleListResponse", rules), ("RuleQueryPayload", query),
    ("RuleResponse", ruleView), ("RuleStatResponse", matchCount),
    ("RuleStatsResponse", matchCounts), ("UserRecommendationsResponse", recommendations),
    ("ValidationError", issue)]

end Schema

end Recommender.Http
