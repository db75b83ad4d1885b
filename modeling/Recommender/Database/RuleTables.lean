import Recommender.Database.Connection
import Recommender.Json.Reader
import Recommender.Json.Writer
import Recommender.Rule.Store

/-!
# Rules and match counts in tables

A rule is stored as one row of the rule table and one row per query; the arguments of a query are
stored as JSON text.  A rule and its queries are inserted in one transaction.  The rules are read
back by two statements: the rule rows decide which rules there are, and each query row adds a
query to the rule that it names, if there is one.
-/

namespace Recommender.RuleTables

/-! ## Saving -/

/-- The row of a query, with its arguments as JSON text. -/
def queryRow (ruleId : Json) (position : Nat) (q : Query) : Except Failure QueryRow :=
  match q.arguments.items? with
  | some items => .ok ⟨ruleId, position, q.operator, (Json.arr items).compress, q.negate⟩
  | none => .error .mistyped

/-- The rows of queries from a position on. -/
def queryRows (ruleId : Json) : (position : Nat) → List Query → Except Failure (List QueryRow)
  | _, [] => .ok []
  | position, q :: rest => do
    let row ← queryRow ruleId position q
    let others ← queryRows ruleId (position + 1) rest
    return row :: others

/-- Insert a rule and its queries; the result is the identifier of the rule. -/
def insert (r : Rule) : Program Database Json := do
  let id ← Database.fetchCell (.insertRule r.productId r.productName r.productText)
  let queries ← Program.ofOption .mistyped r.queries
  let rows ← Program.ofExcept (queryRows id.plain 0 queries)
  Database.executeMany (.insertQueries rows)
  return id.plain

/-- Save a rule; the result is the rule with its identifier. -/
def save (r : Rule) : Program Database Rule := do
  let id ← Database.withConnection .rules (Database.withTransaction (insert r))
  return { r with id }

/-! ## Reading -/

/-- Rules by the identifiers of their rows. -/
abbrev Collected := List (Cell × Rule)

namespace Collected

/-- The rule of an identifier. -/
def find? (id : Cell) (rules : Collected) : Option Rule :=
  (List.find? (fun r => r.1.same id) rules).map (·.2)

/-- Put a rule under an identifier. -/
def put (id : Cell) (rule : Rule) : Collected → Collected
  | [] => [(id, rule)]
  | (key, r) :: rest => if key.same id then (key, rule) :: rest else (key, r) :: put id rule rest

end Collected

/-- A cell as a key. -/
def keyOf (c : Cell) : Except Failure Cell :=
  if c.isKey then .ok c else .error .mistyped

/-- Add the rule of a row, without queries; a later row of an identifier replaces an earlier one. -/
def addRule (rules : Collected) (row : Cell) : Except Failure Collected := do
  let id ← row.column "id"
  let productId ← row.column "product_id"
  let productName ← row.column "product_name"
  let productText ← row.column "product_text"
  let key ← keyOf id
  return rules.put key { productId := .str productId.shown, productName := productName.plain
                         productText := productText.plain, id := id.plain }

/-- The arguments of a query from their JSON text. -/
def argumentsOfCell : Cell → Except Failure Json
  | .value (.str s) =>
    match Json.readWithin Json.maxNesting s.toList with
    | .ok v => .ok v
    | .error .malformed => .error .corrupt
    | .error .oversizedNumber => .error .unreadable
    | .error .tooDeep => .error .tooDeep
  | _ => .error .mistyped

/-- The query of a row. -/
def queryOfRow (row : Cell) : Except Failure Query := do
  let operator ← row.column "query"
  let text ← row.column "arguments"
  let arguments ← argumentsOfCell text
  let negate ← row.column "negate"
  return ⟨operator.plain, arguments, negate.plain⟩

/-- A rule with one more query. -/
def addQuery (q : Query) (r : Rule) : Rule :=
  { r with queries := some (r.queryList ++ [q]) }

/-- Add the query of a row to the rule that it names; a row that names none is passed over
unread. -/
def attach (rules : Collected) (row : Cell) : Except Failure Collected := do
  let ruleId ← row.column "rule_id"
  let key ← keyOf ruleId
  match rules.find? key with
  | none => return rules
  | some r =>
    let q ← queryOfRow row
    return rules.put key (addQuery q r)

/-- The rules that rule rows and query rows describe. -/
def assemble (ruleRows queryRows : Cell) : Except Failure (List Rule) := do
  let ruleRows ← ruleRows.listed
  let rules ← ruleRows.foldlM addRule []
  let queryRows ← queryRows.listed
  let rules ← queryRows.foldlM attach rules
  return rules.map (·.2)

/-- Every rule. -/
def findAll : Program Database (List Rule) := do
  let rows ← Database.withConnection .rules do
    let ruleRows ← Database.fetch .selectRules
    let queryRows ← Database.fetch .selectQueries
    return (ruleRows, queryRows)
  Program.ofExcept (assemble rows.1 rows.2)

/-- Whether a rule has an identifier. -/
def ruleExists (id : Json) : Program Database Cell :=
  Database.withConnection .rules (Database.fetchCell (.ruleExists id))

/-- Delete a rule. -/
def delete (id : Json) : Program Database Unit :=
  Database.withConnection .rules (Database.execute (.deleteRule id))

/-! ## Match counts -/

/-- Start the match count of a rule, unless it has one. -/
def startCount (id : Json) : Program Database Unit :=
  Database.withConnection .rules (Database.execute (.startCount id))

/-- Count a match of a rule. -/
def increment (id : Json) : Program Database Unit :=
  Database.withConnection .rules (Database.execute (.increment id))

/-- Drop the match count of a rule. -/
def dropCount (id : Json) : Program Database Unit :=
  Database.withConnection .rules (Database.execute (.dropCount id))

/-- The match count of a row. -/
def statOfRow (row : Cell) : Except Failure (Json × Json) := do
  let id ← row.column "rule_id"
  let count ← row.column "count"
  return (id.plain, count.plain)

/-- Every match count, as rule identifier and count. -/
def findCounts : Program Database (List (Json × Json)) := do
  let rows ← Database.withConnection .rules (Database.fetch .selectCounts)
  Program.ofExcept (rows.listed.bind fun listed => listed.mapM statOfRow)

end Recommender.RuleTables
