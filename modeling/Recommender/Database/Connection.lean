import Recommender.Database.Statement
import Recommender.Program
import Recommender.Settings

/-!
# Connections

The service works with two databases: one holds the rules, the other the transactions.  Each is
reached through a pool of connections, which is opened when the service starts.  A statement is
carried out on a connection taken from the pool, and the connection is given back in any case.
-/

namespace Recommender

/-- The databases of the service. -/
inductive DatabaseName where
  | rules
  | transactions
  deriving DecidableEq, Repr, Inhabited

/-- The name of a database in messages. -/
def DatabaseName.title : DatabaseName → String
  | .rules => "rule database"
  | .transactions => "transactions database"

/-- How a pool is to be opened. -/
structure PoolOptions where
  address : String
  minSize : Json := .int 2
  maxSize : Json := .int 10
  commandTimeout : Json := .int 30
  deriving Repr, Inhabited

/-- A pool of the sizes and the timeout of the settings. -/
def Settings.pool (s : Settings) (address : String) : PoolOptions :=
  ⟨address, .int s.poolMinSize, .int s.poolMaxSize, .int s.commandTimeout⟩

/-- The pool of the rule database. -/
def Settings.rulesPool (s : Settings) : PoolOptions :=
  s.pool s.rulesAddress

/-- The pool of the transactions database. -/
def Settings.transactionsPool (s : Settings) : PoolOptions :=
  s.pool s.transactionsAddress

/-- A request to a database. -/
inductive DatabaseRequest where
  /-- Open the pool of a database. -/
  | openPool (db : DatabaseName) (options : PoolOptions)
  /-- Whether the pool of a database is open. -/
  | isOpen (db : DatabaseName)
  /-- Take a connection from the pool of a database. -/
  | acquire (db : DatabaseName)
  /-- The rows that a statement selects. -/
  | fetch (s : Statement)
  /-- The first cell of the first row that a statement selects. -/
  | fetchCell (s : Statement)
  /-- Carry a statement out. -/
  | execute (s : Statement)
  /-- Carry a statement out once for each of its rows. -/
  | executeMany (s : Statement)
  deriving Repr

/-- What a request is answered with. -/
def DatabaseRequest.Answer : DatabaseRequest → Type
  | .openPool .. => Unit
  | .isOpen _ => Bool
  | .acquire _ => Unit
  | .fetch _ => Cell
  | .fetchCell _ => Cell
  | .execute _ => Unit
  | .executeMany _ => Unit

/-- What is done with a connection or a pool and cannot fail. -/
inductive DatabaseEvent where
  | release
  | begin
  | commit
  | rollback
  | close (db : DatabaseName)
  deriving DecidableEq, Repr

/-- The interface to the databases. -/
def Database : Interface where
  Request := DatabaseRequest
  Answer := DatabaseRequest.Answer
  Event := DatabaseEvent

namespace Database

variable {α : Type}

/-- The error of using the pool of a database that is not open. -/
def notStarted (db : DatabaseName) : Failure :=
  .service (.unavailable db.title "connection pool not started" [])

/-- The rows that a statement selects. -/
def fetch (s : Statement) : Program Database Cell :=
  Program.request (I := Database) (.fetch s)

/-- The first cell of the first row that a statement selects. -/
def fetchCell (s : Statement) : Program Database Cell :=
  Program.request (I := Database) (.fetchCell s)

/-- Carry a statement out. -/
def execute (s : Statement) : Program Database Unit :=
  Program.request (I := Database) (.execute s)

/-- Carry a statement out once for each of its rows. -/
def executeMany (s : Statement) : Program Database Unit :=
  Program.request (I := Database) (.executeMany s)

/-- Record an event. -/
def record (e : DatabaseEvent) : Program Database Unit :=
  Program.record (I := Database) e

/-- Work with a connection to a database, and give it back in any case. -/
def withConnection (db : DatabaseName) (work : Program Database α) : Program Database α := do
  Program.request (I := Database) (.acquire db)
  work.andFinally (record .release)

/-- Work in a transaction: it is committed if the work succeeds and rolled back if it fails. -/
def withTransaction (work : Program Database α) : Program Database α := do
  record .begin
  let result ← work.attempt
  match result with
  | .ok a => do
    record .commit
    return a
  | .error e => do
    record .rollback
    .raise e

/-! ## Pools -/

/-- Whether a database answers. -/
def isHealthy (db : DatabaseName) : Program Database Bool := do
  let answer ← (withConnection db (fetchCell .ping)).attempt
  return answer.isOk

/-- Create the tables of the rule database. -/
def createTables : Program Database Unit :=
  withConnection .rules do
    execute .createRules
    execute .createQueries
    execute .createStats
    execute .createQueryIndex

/-- The code of the error of a database that cannot be started. -/
def startFailedCode : DatabaseName → String
  | .rules => "POSTGRES_START_FAILED"
  | .transactions => "TRANSACTIONS_DB_START_FAILED"

/-- What is done after the pool of a database has been opened. -/
def prepare : DatabaseName → Program Database Unit
  | .rules => createTables
  | .transactions => return ()

/-- Open the pool of a database and prepare it. -/
def start (db : DatabaseName) (options : PoolOptions) : Program Database Unit := do
  let result ← (do
    Program.request (I := Database) (.openPool db options)
    prepare db).attempt
  match result with
  | .ok _ => return ()
  | .error e => .raise (.service (.general (startFailedCode db) e.text []))

/-- Close the pool of a database if it is open. -/
def stop (db : DatabaseName) : Program Database Unit := do
  let isOpen : Bool ← Program.request (I := Database) (.isOpen db)
  if isOpen then record (.close db) else return ()

/-- Start both databases, the rule database first. -/
def startAll (rules transactions : PoolOptions) : Program Database Unit := do
  start .rules rules
  start .transactions transactions

/-- Stop both databases. -/
def stopAll : Program Database Unit := do
  stop .rules
  stop .transactions

/-- The state of both databases, as words. -/
def dependencies : Program Database (List (String × String)) := do
  let rules ← isHealthy .rules
  let transactions ← isHealthy .transactions
  let word (healthy : Bool) := if healthy then "ok" else "error"
  return [("postgres", word rules), ("transactions", word transactions)]

end Database

end Recommender
