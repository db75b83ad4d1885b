import Recommender.Database.Script
import Recommender.Service.State

/-!
# Where a service keeps its rules

A service has no rules at all, or keeps them in its memory, or in databases.  Before databases are
started, every operation on them fails.
-/

namespace Recommender

/-- Where a service keeps its rules and takes its figures from. -/
inductive Stores where
  /-- The service has no rules. -/
  | absent
  /-- The memory of the service. -/
  | memory
  /-- Databases that are not started. -/
  | databases
  deriving DecidableEq, Repr, Inhabited

/-- The operations of the service on a database. -/
def DatabaseName.operations : DatabaseName → List Operation
  | .rules => [.saveRule, .listRules, .ruleExists, .deleteRule, .initCount, .increment,
      .deleteCount, .listCounts]
  | .transactions => .resolve :: Family.all.map .lookup

/-- The failures of operations on databases that are not started. -/
def Database.unstarted : Faults :=
  [DatabaseName.rules, .transactions].flatMap fun db =>
    db.operations.map fun op => (op, Database.notStarted db)

namespace Stores

/-- The service at its start, with a provider of the figures that it does not take from a
database. -/
def start (provider : Provider) : Stores → ServiceState
  | .databases => { desk := { provider := { faults := Database.unstarted } } }
  | _ => { desk := { provider } }

/-- The state of what the service depends on, as words. -/
def dependencies (s : ServiceState) : Stores → Except Failure (List (String × String))
  | .absent => .ok []
  | .memory =>
    match s.faults.find? .health with
    | some e => .error e
    | none => .ok [("transactions", "ok")]
  | .databases => (ScriptedDatabase.perform [] [] Database.dependencies {}).1

end Stores

end Recommender
