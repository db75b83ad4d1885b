import Recommender.Aggregate.Cached
import Recommender.Metric.Sample
import Recommender.Service.Authoring
import Recommender.Service.Recommending

/-!
# The running service

The state of the service: a provider with memos in front of it, a rule store, match counts,
tallies of what was recorded, and the matches that are still to be counted.  As a collaborator it
answers the requests of the service's operations, unless the operation in question is told to
fail, in which case nothing is done.
-/

namespace Recommender

/-- The state of the service. -/
structure ServiceState where
  desk : Desk := {}
  rules : RuleStore := {}
  counts : MatchCounts := {}
  verdicts : Tally Verdict Nat := []
  served : Tally Origin Nat := []
  /-- The rules whose matches are still to be counted, in the order of the matches. -/
  pending : List RuleId := []
  deriving Inhabited

namespace ServiceState

/-- The operations that are told to fail. -/
def faults (s : ServiceState) : Faults :=
  s.desk.provider.faults

/-- The service with another provider. -/
def mapProvider (f : Provider → Provider) (s : ServiceState) : ServiceState :=
  { s with desk := s.desk.mapProvider f }

/-- Replace figures of the provider. -/
def updateFigures (v : Json) (s : ServiceState) : Except Failure Unit × ServiceState :=
  match s.desk.updateFigures v with
  | (result, desk) => (result, { s with desk })

/-- Have the provider work from another source.  What is remembered stays. -/
def replaceSource (source : Source) (s : ServiceState) : ServiceState :=
  s.mapProvider (·.replaceSource source)

/-- Tell operations to fail. -/
def setFaults (faults : Faults) (s : ServiceState) : ServiceState :=
  s.mapProvider fun p => { p with faults }

/-- The calls that reached the provider, and the service with an empty list of them. -/
def takeCalls (s : ServiceState) : List Call × ServiceState :=
  (s.desk.provider.calls, { s with desk := s.desk.takeCalls.2 })

/-- Do something unless the operation is told to fail. -/
def unlessFaulty {α : Type} (op : Operation) (s : ServiceState)
    (act : ServiceState → α × ServiceState) : Except Failure α × ServiceState :=
  match s.faults.find? op with
  | some e => (.error e, s)
  | none =>
    match act s with
    | (a, s) => (.ok a, s)

/-- Answer a request. -/
def answer (r : BackendRequest) (s : ServiceState) : Except Failure r.Answer × ServiceState :=
  match r with
  | .lookup l =>
    match s.desk.answer l with
    | (result, desk) => (result, { s with desk })
  | .resolve name =>
    match s.desk.resolve name with
    | (result, desk) => (result, { s with desk })
  | .saveRule rule => s.unlessFaulty .saveRule fun s =>
    match s.rules.save rule with
    | (id, rules) => (id, { s with rules })
  | .listRules => s.unlessFaulty .listRules fun s => (s.rules.toList, s)
  | .ruleExists id => s.unlessFaulty .ruleExists fun s => (s.rules.contains id, s)
  | .deleteRule id =>
    s.unlessFaulty .deleteRule fun s => ((), { s with rules := s.rules.delete id })
  | .startCount id =>
    s.unlessFaulty .initCount fun s => ((), { s with counts := s.counts.start id })
  | .increment id =>
    s.unlessFaulty .increment fun s => ((), { s with counts := s.counts.increment id })
  | .dropCount id =>
    s.unlessFaulty .deleteCount fun s => ((), { s with counts := s.counts.drop id })
  | .listCounts =>
    match s.unlessFaulty .listCounts fun s => (s.counts.toList, s) with
    | (result, s) => (result.bind id, s)

/-- Take notice of an event. -/
def notice (e : BackendEvent) (s : ServiceState) : ServiceState :=
  match e with
  | .evaluated v => { s with verdicts := s.verdicts.count v }
  | .matched id => { s with pending := s.pending ++ [id] }
  | .served origin n => { s with served := s.served.add 0 origin n }

/-- The service as the collaborator of its own operations. -/
def collaborator : Program.Collaborator Backend ServiceState where
  answer := answer
  notice := notice

/-- Run an operation to its end. -/
def perform {α : Type} (p : Program Backend α) (s : ServiceState) :
    Except Failure α × ServiceState :=
  p.run collaborator s

/-- Count the matches that are still to be counted. -/
def drain (s : ServiceState) : ServiceState :=
  s.pending.foldl (fun s id => (s.perform (countMatch id)).2) { s with pending := [] }

/-- Clear the memos; the result is the number of values forgotten. -/
def clearCaches (s : ServiceState) : Nat × ServiceState :=
  match s.desk.clear with
  | (removed, desk) => (removed, { s with desk })

/-- Put a rule into the store as it is. -/
def placeRule (id : RuleId) (r : Rule) (s : ServiceState) : ServiceState :=
  { s with rules := s.rules.place id r }

/-! ## Samples -/

/-- The samples of the requests to the memo of a family. -/
def requestSamples (f : Family) (c : RequestCounts) : List Sample :=
  c.nonzero.map fun r =>
    .ofCount "aggregate_cache_requests_total" [("cache", f.name), ("result", r.1)] r.2

/-- The samples of what the service has recorded. -/
def samples (s : ServiceState) : List Sample :=
  (s.verdicts.map fun e => .ofCount "rule_evaluations_total" [("verdict", e.1.name)] e.2)
  ++ (s.served.map fun e => .ofCount "recommendations_served_total" [("source", e.1.name)] e.2)
  ++ match s.desk.caches with
    | some c => Family.all.flatMap fun f => requestSamples f (c.memo f).counts
    | none => []

end ServiceState

end Recommender
