import Recommender.Database.Connection

/-!
# Scripted databases

A scripted database answers selections from a list of replies, fails where it is told to, and
keeps a log of everything that reaches it.  A statement is logged before it fails; a connection
that cannot be taken is not.  Where no reply is left, a statement that selects rows fails, and one
that selects a cell is answered with null.
-/

namespace Recommender

/-- The kinds of requests that can be told to fail. -/
inductive DatabaseMethod where
  | openPool
  | acquire
  | fetch
  | fetchCell
  | execute
  | executeMany
  deriving DecidableEq, Repr

/-- An entry of the log. -/
inductive LogEntry where
  | openPool (db : DatabaseName) (options : PoolOptions)
  | acquire
  | statement (method : DatabaseMethod) (s : Statement)
  | event (e : DatabaseEvent)
  deriving Repr, Inhabited

/-- A scripted database. -/
structure ScriptedDatabase where
  /-- The databases whose pools are open. -/
  opened : List DatabaseName := []
  replies : List Cell := []
  faults : List (DatabaseMethod × Failure) := []
  log : List LogEntry := []
  deriving Repr, Inhabited

namespace ScriptedDatabase

/-- The database after one more log entry. -/
def logged (d : ScriptedDatabase) (e : LogEntry) : ScriptedDatabase :=
  { d with log := d.log ++ [e] }

/-- The next reply, or what stands for one where none is left, and the database without it. -/
def next (fallback : Except Failure Cell) (d : ScriptedDatabase) :
    Except Failure Cell × ScriptedDatabase :=
  (d.replies.head?.elim fallback .ok, { d with replies := d.replies.tail })

/-- Log a request and carry it out, unless it is told to fail. -/
def carryOut {α : Type} (method : DatabaseMethod) (entry : LogEntry) (d : ScriptedDatabase)
    (act : ScriptedDatabase → Except Failure α × ScriptedDatabase) :
    Except Failure α × ScriptedDatabase :=
  let d := d.logged entry
  match Assoc.find? method d.faults with
  | some e => (.error e, d)
  | none => act d

/-- Answer a request. -/
def answer (r : DatabaseRequest) (d : ScriptedDatabase) :
    Except Failure r.Answer × ScriptedDatabase :=
  match r with
  | .openPool db options => d.carryOut .openPool (.openPool db options) fun d =>
    (.ok (), { d with opened := db :: d.opened.filter (· ≠ db) })
  | .isOpen db => (.ok (d.opened.contains db), d)
  | .acquire db =>
    if d.opened.contains db then
      match Assoc.find? .acquire d.faults with
      | some e => (.error e, d)
      | none => (.ok (), d.logged .acquire)
    else (.error (Database.notStarted db), d)
  | .fetch s => d.carryOut .fetch (.statement .fetch s) (next (.error .missingItem))
  | .fetchCell s => d.carryOut .fetchCell (.statement .fetchCell s) (next (.ok (.value .null)))
  | .execute s => d.carryOut .execute (.statement .execute s) fun d => (.ok (), d)
  | .executeMany s => d.carryOut .executeMany (.statement .executeMany s) fun d => (.ok (), d)

/-- Take notice of an event. -/
def notice (e : DatabaseEvent) (d : ScriptedDatabase) : ScriptedDatabase :=
  match e with
  | .close db => { d.logged (.event e) with opened := d.opened.filter (· ≠ db) }
  | _ => d.logged (.event e)

/-- The scripted database as a collaborator. -/
def collaborator : Program.Collaborator Database ScriptedDatabase where
  answer := answer
  notice := notice

/-- Run a program to its end, with the replies and the failures of one step and a log of its own. -/
def perform {α : Type} (replies : List Cell) (faults : List (DatabaseMethod × Failure))
    (p : Program Database α) (d : ScriptedDatabase) : Except Failure α × ScriptedDatabase :=
  p.run collaborator { d with replies, faults, log := [] }

end ScriptedDatabase

end Recommender
