import Recommender.Catalog.Predicate

/-!
# The fixed catalog of recommendations

A rule set recommends one product to every user for whom all of its predicates hold.  The predicates
are asked in order, and none after the first that does not hold.
-/

namespace Recommender

/-- A product and the conditions under which it is recommended. -/
structure RuleSet where
  recommendation : Recommendation
  predicates : List (Predicate Product)
  deriving Repr, Inhabited

/-- Whether all predicates hold for a user. -/
def allHold (user : Uuid) : List (Predicate Product) → Program Judgement Bool
  | [] => return true
  | p :: rest => do
    let truth ← p.evaluate user
    if truth.truthy then allHold user rest else return false

/-- The recommendation of a rule set for a user. -/
def RuleSet.recommend (s : RuleSet) (user : Uuid) : Program Judgement (Option Recommendation) := do
  let hold ← allHold user s.predicates
  return if hold then some s.recommendation else none

namespace Catalog

/-- The investment account. -/
def invest500 : RuleSet where
  recommendation := {
    id := "147f6a0f-3b91-413b-ab99-87f081d60d5a"
    name := "Invest 500"
    text := .str ("Open an individual investment account (IIA) with Invest 500 and get a tax " ++
      "deduction on contributions of up to 400,000 per year.") }
  predicates := [.uses .debit, .doesNotUse .invest, .depositsExceed .saving (.int 1000)]

/-- The savings account. -/
def topSaving : RuleSet where
  recommendation := {
    id := "59efc529-2fff-41af-baff-90ccd7402925"
    name := "Top Saving"
    text := .str ("Top Saving is a savings account for your goals: set a target, track your " ++
      "progress and put money aside automatically from your debit card.") }
  predicates := [.uses .debit, .anyDepositsReach [.debit, .saving] (.int 50000),
    .depositsExceedWithdrawals .debit]

/-- The credit. -/
def simpleCredit : RuleSet where
  recommendation := {
    id := "ab138afb-f3ba-4a93-b74f-0fcee86d447f"
    name := "Simple Credit"
    text := .str ("Simple Credit: a fast decision, no paperwork and a flexible repayment plan " ++
      "for large purchases.") }
  predicates := [.doesNotUse .credit, .depositsExceedWithdrawals .debit,
    .withdrawalsExceed .debit (.int 100000)]

/-- The rule sets in the order in which their recommendations are listed. -/
def all : List RuleSet := [invest500, topSaving, simpleCredit]

end Catalog

end Recommender
