import Recommender.Database.Cell
import Recommender.Term

/-!
# Statements

The statements that the service has a database carry out, each with its arguments, and the text in
which a database takes it.
-/

namespace Recommender

/-- A query of a stored rule, as a row to be inserted. -/
structure QueryRow where
  ruleId : Json
  position : Nat
  operator : Json
  /-- The arguments, as JSON text. -/
  arguments : String
  negate : Json
  deriving Repr, Inhabited

/-- A statement with its arguments. -/
inductive Statement where
  | createRules
  | createQueries
  | createStats
  | createQueryIndex
  | ping
  | insertRule (productId productName productText : Json)
  | insertQueries (rows : List QueryRow)
  | selectRules
  | selectQueries
  | ruleExists (id : Json)
  | deleteRule (id : Json)
  | startCount (id : Json)
  | increment (id : Json)
  | dropCount (id : Json)
  | selectCounts
  | countTransactions (user : Uuid) (product : Product)
  | sumTransactions (product : Product) (direction : Direction) (user : Uuid)
  | selectUser (name : Json)
  deriving Repr, Inhabited

namespace Statement

/-- The text of a statement. -/
def sql : Statement → String
  | .createRules => "CREATE TABLE IF NOT EXISTS dynamic_rules ( id BIGSERIAL PRIMARY KEY, " ++
      "product_id UUID NOT NULL, product_name VARCHAR(255) NOT NULL, product_text TEXT NOT NULL );"
  | .createQueries => "CREATE TABLE IF NOT EXISTS dynamic_rule_queries ( " ++
      "id BIGSERIAL PRIMARY KEY, " ++
      "rule_id BIGINT NOT NULL REFERENCES dynamic_rules(id) ON DELETE CASCADE, " ++
      "position INTEGER NOT NULL, query VARCHAR(100) NOT NULL, " ++
      "arguments JSONB NOT NULL DEFAULT '[]', negate BOOLEAN NOT NULL DEFAULT FALSE );"
  | .createStats => "CREATE TABLE IF NOT EXISTS rule_stats ( rule_id BIGINT PRIMARY KEY " ++
      "REFERENCES dynamic_rules(id) ON DELETE CASCADE, count BIGINT NOT NULL DEFAULT 0 );"
  | .createQueryIndex => "CREATE INDEX IF NOT EXISTS idx_rule_queries_rule ON " ++
      "dynamic_rule_queries(rule_id, position);"
  | .ping => "SELECT 1"
  | .insertRule .. => "INSERT INTO dynamic_rules (product_id, product_name, product_text) " ++
      "VALUES ($1, $2, $3) RETURNING id"
  | .insertQueries _ => "INSERT INTO dynamic_rule_queries (rule_id, position, query, arguments, " ++
      "negate) VALUES ($1, $2, $3, $4, $5)"
  | .selectRules => "SELECT id, product_id, product_name, product_text " ++
      "FROM dynamic_rules ORDER BY id"
  | .selectQueries => "SELECT rule_id, query, arguments, negate FROM dynamic_rule_queries " ++
      "ORDER BY rule_id, position"
  | .ruleExists _ => "SELECT EXISTS(SELECT 1 FROM dynamic_rules WHERE id = $1)"
  | .deleteRule _ => "DELETE FROM dynamic_rules WHERE id = $1"
  | .startCount _ => "INSERT INTO rule_stats (rule_id, count) VALUES ($1, 0) " ++
      "ON CONFLICT (rule_id) DO NOTHING"
  | .increment _ => "INSERT INTO rule_stats (rule_id, count) VALUES ($1, 1) " ++
      "ON CONFLICT (rule_id) DO UPDATE SET count = rule_stats.count + 1"
  | .dropCount _ => "DELETE FROM rule_stats WHERE rule_id = $1"
  | .selectCounts => "SELECT rule_id, count FROM rule_stats ORDER BY rule_id"
  | .countTransactions .. => "SELECT COUNT(t.amount) FROM transactions t " ++
      "JOIN products p ON t.product_id = p.id WHERE t.user_id = $1 AND p.type = $2"
  | .sumTransactions .. => "SELECT COALESCE(SUM(t.amount), 0) FROM transactions t " ++
      "JOIN products p ON t.product_id = p.id WHERE p.type = $1 AND t.type = $2 AND t.user_id = $3"
  | .selectUser _ => "SELECT id FROM users WHERE username = $1 LIMIT 2"

/-- A row to be inserted as the arguments of one insertion. -/
def rowArguments (r : QueryRow) : List Cell :=
  [.value r.ruleId, .int r.position, .value r.operator, .text r.arguments, .value r.negate]

/-- The arguments of a statement; those of an insertion of rows are listed apart. -/
def arguments : Statement → List Cell
  | .insertRule id name text => [.value id, .value name, .value text]
  | .ruleExists id | .deleteRule id | .startCount id | .increment id | .dropCount id => [.value id]
  | .countTransactions user product => [.uuid user, .text product.name]
  | .sumTransactions product direction user =>
    [.text product.name, .text direction.name, .uuid user]
  | .selectUser name => [.value name]
  | _ => []

end Statement

end Recommender
