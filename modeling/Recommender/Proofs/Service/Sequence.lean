import Mathlib.Data.List.DropRight
import Recommender.Proofs.Service.Traffic

/-!
# Commands one after the other

The service is given commands one after the other: it serves calls, lists its rules or match counts,
clears its memos, and the figures of its provider, or all that the provider works from, are
replaced.  Before the next command, all matches that were recorded are counted.  A *diary* is the
service together with what came of each command so far: the reply, what was asked and recorded, and
the calls that reached the provider.
-/

namespace Recommender

open ServiceState (recorder)

/-- A command to the service, or to its provider. -/
inductive ServiceCommand where
  | serve (call : ServiceCall)
  | listRules
  | listCounts
  | clearCaches
  /-- Replace figures of the provider. -/
  | updateFigures (v : Json)
  /-- Have the provider work from another source. -/
  | replaceSource (source : Source)

/-- The reply to a command. -/
inductive ServiceReply where
  | served (call : ServiceCall) (result : Except Failure call.Result)
  | rules (result : Except Failure (List Rule))
  | counts (result : Except Failure (List RuleStat))
  | cleared (removed : Nat)
  | updated (result : Except Failure Unit)
  | replaced

namespace ServiceCommand

/-- Whether a command clears the memos. -/
def isClear : ServiceCommand → Bool
  | .clearCaches => true
  | _ => false

/-- Whether a command asks for recommendations. -/
def recommends : ServiceCommand → Bool
  | .serve (.recommend _) | .serve (.recommendByName _) => true
  | _ => false

/-- Whether a command changes what the provider answers. -/
def changesSource : ServiceCommand → Bool
  | .updateFigures _ | .replaceSource _ => true
  | _ => false

/-- Carry a command out: the reply, and the service with what was asked and recorded. -/
def carryOut (catalog : List RuleSet) (s : Recorded Backend ServiceState) :
    ServiceCommand → ServiceReply × Recorded Backend ServiceState
  | .serve call =>
    match (call.program catalog).run recorder s with
    | (result, t) => (.served call result, t)
  | .listRules =>
    match Backend.listRules.run recorder s with
    | (result, t) => (.rules result, t)
  | .listCounts =>
    match Backend.listCounts.run recorder s with
    | (result, t) => (.counts result, t)
  | .clearCaches =>
    match s.state.clearCaches with
    | (removed, state) => (.cleared removed, { s with state })
  | .updateFigures v =>
    match s.state.updateFigures v with
    | (result, state) => (.updated result, { s with state })
  | .replaceSource source => (.replaced, { s with state := s.state.replaceSource source })

end ServiceCommand

/-- What came of a command. -/
structure Visit where
  command : ServiceCommand
  reply : ServiceReply
  /-- What was asked and recorded. -/
  history : List (Occurrence Backend)
  /-- The calls that reached the provider. -/
  calls : List Call

/-- The service, and what came of the commands so far. -/
structure Diary where
  state : ServiceState
  past : List Visit := []

namespace Diary

/-- Carry a command out, and count the matches. -/
def step (catalog : List RuleSet) (d : Diary) (command : ServiceCommand) : Diary :=
  match command.carryOut catalog ⟨d.state, []⟩ with
  | (reply, r) =>
    match r.state.drain.takeCalls with
    | (calls, state) => ⟨state, d.past ++ [⟨command, reply, r.history, calls⟩]⟩

/-- Carry commands out, one after the other. -/
def run (catalog : List RuleSet) (d : Diary) (commands : List ServiceCommand) : Diary :=
  commands.foldl (step catalog) d

/-- What came of the commands after the last clearing. -/
def sinceClear (d : Diary) : List Visit :=
  d.past.rtakeWhile fun v => !v.command.isClear

/-- The reply to the next command. -/
def reply (catalog : List RuleSet) (d : Diary) (command : ServiceCommand) : ServiceReply :=
  (command.carryOut catalog ⟨d.state, []⟩).1

theorem run_concat (catalog : List RuleSet) (d : Diary) (commands : List ServiceCommand)
    (c : ServiceCommand) :
    d.run catalog (commands ++ [c]) = (d.run catalog commands).step catalog c :=
  List.foldl_concat (step catalog) d c commands

end Diary

end Recommender
