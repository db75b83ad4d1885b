import Recommender.Payload.Field
import Recommender.Rule.Store

/-!
# Rules as sent and as answered

A rule draft is what a caller sends to have a rule created; a rule view is what is answered about
a rule.  A draft names a product and lists queries; keys that it does not know are ignored.  A
view has the same fields and the identifier of the rule, so that a written view can be sent as a
draft.
-/

namespace Recommender

/-- A query as sent: its arguments are texts. -/
structure QueryDraft where
  operator : String
  arguments : List String := []
  negate : Bool := false
  deriving DecidableEq, Repr, Inhabited

/-- A rule as sent. -/
structure RuleDraft where
  productId : Uuid
  productName : String
  productText : String
  queries : List QueryDraft := []
  deriving DecidableEq, Repr, Inhabited

/-- A rule as answered. -/
structure RuleView where
  id : Option Int
  draft : RuleDraft
  deriving DecidableEq, Repr, Inhabited

namespace QueryDraft

/-- Read the fields of a query. -/
def ofMembers (members : List (String × Json)) : Checked QueryDraft :=
  Checked.apply (Checked.apply (Checked.apply (.ok QueryDraft.mk)
    (Field.required "query" Field.text members))
    (Field.optional "arguments" [] (Field.list Field.text) members))
    (Field.optional "negate" false Field.flag members)

/-- Read a query; `refusal` is the issue of a value that is no object. -/
def ofJson (refusal : IssueKind) : Json → Checked QueryDraft
  | .obj members => ofMembers members
  | v => Checked.refuse refusal v

/-- The query that a draft describes. -/
def toQuery (d : QueryDraft) : Query :=
  .ofTexts d.operator d.arguments d.negate

/-- A query as answered; the operator has to be a text and the arguments texts. -/
def ofQuery (q : Query) : Checked QueryDraft :=
  ofMembers [("query", q.operator), ("arguments", q.arguments), ("negate", q.negate)]

/-- The written form of a query. -/
def toJson (d : QueryDraft) : Json :=
  .obj [("query", .str d.operator), ("arguments", .ofStrings d.arguments),
    ("negate", .bool d.negate)]

end QueryDraft

namespace RuleDraft

/-- Read the fields of a rule. -/
def ofMembers (refusal : IssueKind) (members : List (String × Json)) : Checked RuleDraft :=
  Checked.apply (Checked.apply (Checked.apply (Checked.apply (.ok RuleDraft.mk)
    (Field.required "product_id" Field.identifier members))
    (Field.required "product_name" Field.text members))
    (Field.required "product_text" Field.text members))
    (Field.optional "rule" [] (Field.list (QueryDraft.ofJson refusal)) members)

/-- Read a rule; `refusal` is the issue of a value that is no object, here and inside. -/
def ofJson (refusal : IssueKind) : Json → Checked RuleDraft
  | .obj members => ofMembers refusal members
  | v => Checked.refuse refusal v

/-- The rule that a draft describes. -/
def toRule (d : RuleDraft) : Rule where
  productId := .str d.productId.text
  productName := .str d.productName
  productText := .str d.productText
  queries := some (d.queries.map QueryDraft.toQuery)

/-- The fields of the written form of a rule. -/
def toMembers (d : RuleDraft) : List (String × Json) :=
  [("product_id", .str d.productId.text), ("product_name", .str d.productName),
    ("product_text", .str d.productText), ("rule", .arr (d.queries.map QueryDraft.toJson))]

end RuleDraft

namespace RuleView

/-- The queries of a rule as answered; the first one that cannot be answered decides. -/
def queriesOf : List Query → Checked (List QueryDraft)
  | [] => .ok []
  | q :: rest =>
    match QueryDraft.ofQuery q with
    | .error issues => .error issues
    | .ok d => (queriesOf rest).map (d :: ·)

/-- The view of a rule with the queries given; its identifier and its product are checked. -/
def ofParts (r : Rule) (queries : List QueryDraft) : Checked RuleView :=
  let fields := [("id", r.id), ("product_id", r.productId), ("product_name", r.productName),
    ("product_text", r.productText)]
  Checked.apply (Checked.apply (Checked.apply (Checked.apply
    (.ok fun id productId name text => ⟨id, ⟨productId, name, text, queries⟩⟩)
    (Field.required "id" (Field.nullable Field.integer) fields))
    (Field.required "product_id" Field.identifier fields))
    (Field.required "product_name" Field.text fields))
    (Field.required "product_text" Field.text fields)

/-- The view of a rule. -/
def ofRule (r : Rule) : Except Failure RuleView :=
  match r.queries with
  | none => .error .mistyped
  | some queries =>
    match queriesOf queries with
    | .error issues => .error (.rejected issues)
    | .ok drafts => (ofParts r drafts).toResult

/-- The written form of a view. -/
def toJson (v : RuleView) : Json :=
  .obj (("id", .ofOption .int v.id) :: v.draft.toMembers)

end RuleView

/-- A match count as answered. -/
def RuleStat.view (s : RuleStat) : Checked Json :=
  (Field.required "rule_id" Field.integer [("rule_id", s.ruleId.toJson)]).map fun id =>
    .obj [("rule_id", .int id), ("count", .int s.count)]

/-- A recommendation as answered. -/
def Recommendation.view (r : Recommendation) : Checked Json :=
  let fields := [("id", r.id), ("name", r.name), ("text", r.text)]
  Checked.apply (Checked.apply (Checked.apply
    (.ok fun (id : Uuid) (name text : String) =>
      .obj [("id", .str id.text), ("name", .str name), ("text", .str text)])
    (Field.required "id" Field.identifier fields))
    (Field.required "name" Field.text fields))
    (Field.required "text" Field.text fields)

end Recommender
