import Recommender.Aggregate.Subject
import Recommender.Rule.Evaluation

/-!
# Conditions of the fixed catalog

A predicate asks one thing about a user.  Its answer is a value that counts as true or not; the
question whether a product is used answers with the figure itself.  The predicates of the catalog
are about product types, but a predicate can be about any subjects that figures are asked on.
-/

namespace Recommender

/-- A condition on a user's figures on subjects. -/
inductive Predicate (σ : Type) where
  /-- A condition that is declared and not defined. -/
  | undefined
  | uses (subject : σ)
  | doesNotUse (subject : σ)
  | depositsExceed (subject : σ) (threshold : Json)
  | withdrawalsExceed (subject : σ) (threshold : Json)
  /-- The deposits on at least one of the subjects reach the threshold. -/
  | anyDepositsReach (subjects : List σ) (threshold : Json)
  | depositsExceedWithdrawals (subject : σ)
  deriving Repr, Inhabited, BEq

namespace Predicate

variable {σ : Type} {I : Interface} (ask : Family → σ → Program I Json)

/-- Whether the deposits on one of the subjects reach a threshold; the first that do settle it. -/
def anyReaches (threshold : Json) : List σ → Program I Bool
  | [] => return false
  | subject :: rest => do
    let total ← ask .deposits subject
    let reached ← compareFigures .greaterOrEquals total threshold
    if reached then return true else anyReaches threshold rest

/-- The answer of a predicate, where `ask` asks for the figure of a family on a subject. -/
def evaluateBy : Predicate σ → Program I Json
  | .undefined => .raise .undefined
  | .uses subject => ask .usage subject
  | .doesNotUse subject => do
    let used ← ask .usage subject
    return .bool (!used.truthy)
  | .depositsExceed subject threshold => do
    let total ← ask .deposits subject
    let exceeded ← compareFigures .greater total threshold
    return .bool exceeded
  | .withdrawalsExceed subject threshold => do
    let total ← ask .withdrawals subject
    let exceeded ← compareFigures .greater total threshold
    return .bool exceeded
  | .anyDepositsReach subjects threshold => do
    let reached ← anyReaches ask threshold subjects
    return .bool reached
  | .depositsExceedWithdrawals subject => do
    let deposits ← ask .deposits subject
    let withdrawals ← ask .withdrawals subject
    let exceeded ← compareFigures .greater deposits withdrawals
    return .bool exceeded

/-- The answer of a predicate on product types for a user. -/
def evaluate (user : Uuid) (p : Predicate Product) : Program Judgement Json :=
  p.evaluateBy fun family product => lookup (.about family user product)

/-- The answer of a predicate on any subjects. -/
def inquire (p : Predicate Subject) : Program Inquiry Json :=
  p.evaluateBy fun family subject => Program.request (I := Inquiry) (family, subject)

end Predicate

/-- The source of figures that predicates are built over, which must be present. -/
def requireSource {α : Type} : Option α → Except Failure α
  | some source => .ok source
  | none => .error (.service (.unavailable "aggregate provider"
      "must be initialized before building predicates" []))

end Recommender
