import Recommender.Aggregate.Lookup
import Recommender.Rule.Basic
import Recommender.Rule.Store

/-!
# What the service asks of its collaborators

The operations of the service ask a provider of figures, a rule store and a store of match counts.
What they record is not answered: verdicts, matches to be counted in the background, and the numbers
of recommendations served.
-/

namespace Recommender

/-- Where a recommendation comes from. -/
inductive Origin where
  /-- From a rule in the rule store. -/
  | dynamic
  /-- From the fixed catalog. -/
  | static
  deriving DecidableEq, Repr, Inhabited

/-- The name of an origin. -/
def Origin.name : Origin → String
  | .dynamic => "dynamic"
  | .static => "static"

/-- A request to a collaborator of the service. -/
inductive BackendRequest where
  | lookup (l : Lookup)
  | resolve (userName : Json)
  | saveRule (r : Rule)
  | listRules
  | ruleExists (id : RuleId)
  | deleteRule (id : RuleId)
  | startCount (id : RuleId)
  | increment (id : RuleId)
  | dropCount (id : RuleId)
  | listCounts
  deriving Repr

/-- What a request is answered with. -/
def BackendRequest.Answer : BackendRequest → Type
  | .lookup _ => Json
  | .resolve _ => Option Uuid
  | .saveRule _ => Int
  | .listRules => List Rule
  | .ruleExists _ => Bool
  | .deleteRule _ => Unit
  | .startCount _ => Unit
  | .increment _ => Unit
  | .dropCount _ => Unit
  | .listCounts => List RuleStat

/-- What an operation of the service records. -/
inductive BackendEvent where
  /-- A rule was evaluated. -/
  | evaluated (v : Verdict)
  /-- The match of a rule is to be counted. -/
  | matched (ruleId : RuleId)
  /-- A request was answered with a number of recommendations of one origin. -/
  | served (origin : Origin) (number : Nat)
  deriving DecidableEq, Repr

/-- The interface of the service to its collaborators. -/
def Backend : Interface where
  Request := BackendRequest
  Answer := BackendRequest.Answer
  Event := BackendEvent

namespace Backend

/-- Carry out a judgement by the provider of the service. -/
def judge {α : Type} (p : Program Judgement α) : Program Backend α :=
  p.interpret (J := Backend) (fun l => Program.request (I := Backend) (.lookup l))
    (fun v => Program.record (I := Backend) (.evaluated v))

/-- Resolve a user name. -/
def resolve (userName : Json) : Program Backend (Option Uuid) :=
  Program.request (I := Backend) (.resolve userName)

/-- Save a rule; the answer is the identifier that it was given. -/
def saveRule (r : Rule) : Program Backend Int :=
  Program.request (I := Backend) (.saveRule r)

/-- List the rules. -/
def listRules : Program Backend (List Rule) :=
  Program.request (I := Backend) .listRules

/-- Whether a rule has an identifier. -/
def ruleExists (id : RuleId) : Program Backend Bool :=
  Program.request (I := Backend) (.ruleExists id)

/-- Delete a rule. -/
def deleteRule (id : RuleId) : Program Backend Unit :=
  Program.request (I := Backend) (.deleteRule id)

/-- Start the match count of a rule. -/
def startCount (id : RuleId) : Program Backend Unit :=
  Program.request (I := Backend) (.startCount id)

/-- Count a match of a rule. -/
def increment (id : RuleId) : Program Backend Unit :=
  Program.request (I := Backend) (.increment id)

/-- Drop the match count of a rule. -/
def dropCount (id : RuleId) : Program Backend Unit :=
  Program.request (I := Backend) (.dropCount id)

/-- List the match counts. -/
def listCounts : Program Backend (List RuleStat) :=
  Program.request (I := Backend) .listCounts

/-- Do something for the identifier that a value is. -/
def forId {α : Type} (v : Json) (act : RuleId → Program Backend α) : Program Backend α :=
  (RuleId.ofJson? v).elim (.raise .mistyped) act

/-- Record an event. -/
def record (e : BackendEvent) : Program Backend Unit :=
  Program.record (I := Backend) e

end Backend

end Recommender
