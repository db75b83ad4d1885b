import Recommender.Rule.Id
import Recommender.Uuid

/-!
# Rules as authored

A rule recommends a product to every user for whom all of its queries hold.  A rule and its
queries are kept as they were written: what they are made of are free values until they are
checked.
-/

namespace Recommender

/-- A query as written: an operator token, its arguments, and whether its truth is inverted. -/
structure Query where
  operator : Json := .null
  arguments : Json := .arr []
  negate : Json := .bool false
  deriving Repr, Inhabited, BEq

/-- A rule as written, with the identifier that a store gave it. -/
structure Rule where
  productId : Json
  productName : Json
  productText : Json
  queries : Option (List Query) := some []
  id : Json := .null
  deriving Repr, Inhabited, BEq

/-- A recommended product. -/
structure Recommendation where
  id : Json
  name : Json
  text : Json
  deriving Repr, Inhabited, BEq

namespace Rule

/-- The queries of a rule, none if it has no query list. -/
def queryList (r : Rule) : List Query :=
  r.queries.getD []

/-- The recommendation that a rule makes. -/
def recommendation (r : Rule) : Recommendation :=
  ⟨r.productId, r.productName, r.productText⟩

/-- The identifier under which the matches of a rule are counted, if it has one. -/
def countedAs? (r : Rule) : Option RuleId :=
  if r.id.isNull then none else RuleId.ofJson? r.id

/-- A rule to try things with: its text follows from its name. -/
def sample (name id : Json) (queries : List Query) : Rule where
  productId := .str (default : Uuid).text
  productName := name
  productText := .str (name.text ++ " recommendation")
  queries := some queries
  id := id

end Rule

/-- A query whose operator and arguments are texts. -/
def Query.ofTexts (operator : String) (arguments : List String) (negate : Bool) : Query :=
  ⟨.str operator, .ofStrings arguments, .bool negate⟩

/-- A query to try things with, of a value that lists its arguments. -/
def Query.sample (operator arguments negate : Json) : Option Query :=
  arguments.items?.map fun items => ⟨operator, .arr items, negate⟩

end Recommender
