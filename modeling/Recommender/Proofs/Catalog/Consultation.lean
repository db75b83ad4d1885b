import Recommender.Proofs.Catalog.RuleSet
import Recommender.Proofs.Program.Search
import Recommender.Proofs.Rule.Judgement

/-!
# How rule sets consult their predicates

A rule set tests its predicates in order for as long as they hold, and a predicate about several
product types looks their deposits up in order for as long as they do not reach the threshold.  Both
stop at the first test that decides or fails, and ask for nothing behind it.  So the rule sets of the
catalog recommend their products to the users that they are meant for.
-/

namespace Recommender

open Program

/-- Whether a predicate holds for a user. -/
def Predicate.test (user : Uuid) (p : Predicate Product) : Program Judgement Bool :=
  (p.evaluate user).bind fun v => .done v.truthy

/-- Whether the deposits of a user on products of a type reach a threshold. -/
def depositsReach (user : Uuid) (threshold : Json) (p : Product) : Program Judgement Bool :=
  (lookup (.deposits p user)).bind fun total => compareFigures .greaterOrEquals total threshold

/-- The deposits and the withdrawals of a user are given whole numbers, one for each product type. -/
structure WholeSums (figure : Lookup → Json) (user : Uuid) (deposits withdrawals : Product → Int) :
    Prop where
  deposits : ∀ p, figure (.deposits p user) = .int (deposits p)
  withdrawals : ∀ p, figure (.withdrawals p user) = .int (withdrawals p)

section

variable {σ : Type} {c : Collaborator Judgement σ} {user : Uuid} {s t : σ}
  {past : List (Occurrence Judgement)}

/-! ## The two loops -/

theorem allHold_eq_testWhile (user : Uuid) (ps : List (Predicate Product)) :
    allHold user ps = testWhile true (Predicate.test user) ps := by
  induction ps with
  | nil => rfl
  | cons p rest ih =>
      rw [allHold, testWhile, Predicate.test, bind_assoc, bind_eq]
      congr 1
      funext v
      rw [ih]
      cases hv : v.truthy <;> simp [Program.bind]

theorem anyReaches_eq_testWhile (user : Uuid) (threshold : Json) (ps : List Product) :
    Predicate.anyReaches (fun family p => lookup (.about family user p)) threshold ps =
      testWhile false (depositsReach user threshold) ps := by
  induction ps with
  | nil => rfl
  | cons p rest ih =>
      rw [Predicate.anyReaches, testWhile, depositsReach, bind_assoc, bind_eq]
      congr 1
      funext total
      rw [bind_eq]
      congr 1
      funext reached
      rw [ih]
      cases reached <;> rfl

/-- A rule set makes its recommendation as the search through its predicates ends. -/
theorem ends_recommend_iff {set : RuleSet} {result : Except Failure (Option Recommendation)} :
    Ends c (set.recommend user) s result past t ↔
      ∃ found, Searched c (Predicate.test user) true set.predicates s found past t ∧
        result = found.map fun hold => if hold then some set.recommendation else none := by
  rw [RuleSet.recommend, allHold_eq_testWhile, bind_eq]
  simp only [pure_eq, ends_bind_done_iff, ends_testWhile_iff]

/-- A predicate about several product types is answered as the search through them ends. -/
theorem ends_anyDepositsReach_iff {ps : List Product} {threshold : Json}
    {result : Except Failure Json} :
    Ends c ((Predicate.anyDepositsReach ps threshold).evaluate user) s result past t ↔
      ∃ reached, Searched c (depositsReach user threshold) false ps s reached past t ∧
        result = reached.map .bool := by
  rw [Predicate.evaluate, Predicate.evaluateBy, anyReaches_eq_testWhile, bind_eq]
  simp only [pure_eq, ends_bind_done_iff, ends_testWhile_iff]

/-- The recommendation is made exactly if every predicate holds. -/
theorem ends_recommend_some_iff {set : RuleSet} :
    Ends c (set.recommend user) s (.ok (some set.recommendation)) past t ↔
      EachFinds c (Predicate.test user) true set.predicates s past t := by
  rw [ends_recommend_iff]
  constructor
  · rintro ⟨hold, hsearched, hresult⟩
    cases hsearched with
    | exhausted all => exact all
    | stopped => cases hresult
    | failed => cases hresult
  · exact fun all => ⟨_, .exhausted all, rfl⟩

/-- The test of a product type looks its deposits up, and asks for nothing else. -/
theorem ends_depositsReach (c : Collaborator Judgement σ) (user : Uuid) (threshold : Json)
    (p : Product) (s : σ) :
    Ends c (depositsReach user threshold p) s
      ((c.answer (.deposits p user) s).1.bind fun total =>
        (Comparison.greaterOrEquals.compare? total threshold).elim (.error .mistyped) .ok)
      [.asked (.deposits p user) (c.answer (.deposits p user) s).1]
      (c.answer (.deposits p user) s).2 := by
  rw [Ends, depositsReach, run_bind, run_lookup]
  cases (c.answer (.deposits p user) s).1 with
  | error why => rfl
  | ok total => exact run_compareFigures .greaterOrEquals total threshold _

end

/-! ## The catalog -/

theorem Comparison.accepts_greater (n m : Int) :
    Comparison.greater.accepts (compare n m) = decide (m < n) := by
  rw [accepts, Bool.eq_iff_iff]
  simp [Int.compare_eq_gt]

theorem Comparison.accepts_greaterOrEquals (n m : Int) :
    Comparison.greaterOrEquals.accepts (compare n m) = decide (m ≤ n) := by
  rw [accepts, Bool.eq_iff_iff]
  simp [Int.compare_eq_lt]

section

variable {figure : Lookup → Json} {user : Uuid} {deposits withdrawals : Product → Int}

theorem WholeSums.isNumber_deposits (h : WholeSums figure user deposits withdrawals)
    (p : Product) : (figure (.deposits p user)).IsNumber := by
  rw [h.deposits]
  exact Json.isNumber_int _

theorem WholeSums.isNumber_withdrawals (h : WholeSums figure user deposits withdrawals)
    (p : Product) : (figure (.withdrawals p user)).IsNumber := by
  rw [h.withdrawals]
  exact Json.isNumber_int _

theorem WholeSums.truth_depositsExceed (h : WholeSums figure user deposits withdrawals)
    (p : Product) (n : Int) :
    (Predicate.depositsExceed p (.int n)).truth figure user = decide (n < deposits p) := by
  simp [Predicate.truth, h.deposits, Comparison.accepts_greater]

theorem WholeSums.truth_withdrawalsExceed (h : WholeSums figure user deposits withdrawals)
    (p : Product) (n : Int) :
    (Predicate.withdrawalsExceed p (.int n)).truth figure user = decide (n < withdrawals p) := by
  simp [Predicate.truth, h.withdrawals, Comparison.accepts_greater]

theorem WholeSums.truth_depositsExceedWithdrawals
    (h : WholeSums figure user deposits withdrawals) (p : Product) :
    (Predicate.depositsExceedWithdrawals p).truth figure user =
      decide (withdrawals p < deposits p) := by
  simp [Predicate.truth, h.deposits, h.withdrawals, Comparison.accepts_greater]

theorem WholeSums.truth_anyDepositsReach (h : WholeSums figure user deposits withdrawals)
    (ps : List Product) (n : Int) :
    (Predicate.anyDepositsReach ps (.int n)).truth figure user =
      decide (∃ p ∈ ps, n ≤ deposits p) := by
  rw [Bool.eq_iff_iff]
  simp [Predicate.truth, h.deposits, Comparison.accepts_greaterOrEquals]

end

/-- **Rule sets are consulted in order.**  Against every provider, also one whose answers change or
fail, a rule set ends as the search through its predicates does: behind the last one if all of them
hold, and only then with the recommendation; at the first one that does not hold; or with the
failure of the first one that fails.  A predicate about several product types searches through them
in the same way, up to the first one whose deposits reach the threshold, with one lookup for each.

So where a provider supplies whole numbers for sums, a predicate about several product types is true
exactly if the deposits on one of them reach the threshold, and the rule sets of the catalog make
their recommendations exactly to the users that they are meant for. -/
theorem rule_sets_are_consulted_in_order {σ : Type} (c : Collaborator Judgement σ) (user : Uuid) :
    (∀ (set : RuleSet) s result past t, Ends c (set.recommend user) s result past t ↔
      ∃ found, Searched c (Predicate.test user) true set.predicates s found past t ∧
        result = found.map fun hold => if hold then some set.recommendation else none) ∧
    (∀ (set : RuleSet) s past t,
      Ends c (set.recommend user) s (.ok (some set.recommendation)) past t ↔
        EachFinds c (Predicate.test user) true set.predicates s past t) ∧
    (∀ ps threshold s result past t,
      Ends c ((Predicate.anyDepositsReach ps threshold).evaluate user) s result past t ↔
        ∃ reached, Searched c (depositsReach user threshold) false ps s reached past t ∧
          result = reached.map .bool) ∧
    (∀ threshold p s, Ends c (depositsReach user threshold p) s
      ((c.answer (.deposits p user) s).1.bind fun total =>
        (Comparison.greaterOrEquals.compare? total threshold).elim (.error .mistyped) .ok)
      [.asked (.deposits p user) (c.answer (.deposits p user) s).1]
      (c.answer (.deposits p user) s).2) ∧
    (∀ Inv figure deposits withdrawals, Supplies c Inv figure →
      WholeSums figure user deposits withdrawals → ∀ s, Inv s →
      (∀ ps (n : Int), (((Predicate.anyDepositsReach ps (.int n)).evaluate user).run c s).1 =
        .ok (.bool (∃ p ∈ ps, n ≤ deposits p))) ∧
      ((Catalog.invest500.recommend user).run c s).1 =
        .ok (if (figure (.usage user .debit)).truthy = true ∧
            ¬ (figure (.usage user .invest)).truthy = true ∧ 1000 < deposits .saving
          then some Catalog.invest500.recommendation else none) ∧
      ((Catalog.topSaving.recommend user).run c s).1 =
        .ok (if (figure (.usage user .debit)).truthy = true ∧
            (50000 ≤ deposits .debit ∨ 50000 ≤ deposits .saving) ∧
            withdrawals .debit < deposits .debit
          then some Catalog.topSaving.recommendation else none) ∧
      ((Catalog.simpleCredit.recommend user).run c s).1 =
        .ok (if ¬ (figure (.usage user .credit)).truthy = true ∧
            withdrawals .debit < deposits .debit ∧ 100000 < withdrawals .debit
          then some Catalog.simpleCredit.recommendation else none)) := by
  refine ⟨?_, ?_, ?_, ?_, ?_⟩
  · exact fun _ _ _ _ _ => ends_recommend_iff
  · exact fun _ _ _ _ => ends_recommend_some_iff
  · exact fun _ _ _ _ _ _ => ends_anyDepositsReach_iff
  · exact fun threshold p s => ends_depositsReach c user threshold p s
  · intro Inv figure deposits withdrawals hc h s hs
    have hdefined : ∀ set ∈ Catalog.all, set.IsDefined := fun _ => Catalog.isDefined_of_mem_all
    refine ⟨?_, ?_, ?_, ?_⟩
    · intro ps n
      have hreached := against_anyReaches h.isNumber_deposits (Json.isNumber_int n) ps
      have htruth := h.truth_anyDepositsReach ps n
      rw [Predicate.truth] at htruth
      rw [htruth] at hreached
      rw [hc.run_eq _ hs]
      exact against_bind_of_ok hreached rfl
    · refine hc.run_recommend h.isNumber_deposits h.isNumber_withdrawals
        (hdefined _ (by simp [Catalog.all])) ?_ hs
      simp [Catalog.invest500, h.truth_depositsExceed]
    · refine hc.run_recommend h.isNumber_deposits h.isNumber_withdrawals
        (hdefined _ (by simp [Catalog.all])) ?_ hs
      simp [Catalog.topSaving, h.truth_anyDepositsReach, h.truth_depositsExceedWithdrawals]
    · refine hc.run_recommend h.isNumber_deposits h.isNumber_withdrawals
        (hdefined _ (by simp [Catalog.all])) ?_ hs
      simp [Catalog.simpleCredit, h.truth_depositsExceedWithdrawals, h.truth_withdrawalsExceed]

/-- The figures of a user of a debit card who has put fifty thousand on it and a thousand aside, and
has spent almost as much. -/
def thrifty : Lookup → Json
  | .usage _ p => .bool (p = .debit)
  | .deposits p _ => .int (if p = .debit then 50000 else 1000)
  | .withdrawals .. => .int 49999
  | .activity .. | .turnover .. => .bool false

/-- A provider of these figures that counts what it is asked. -/
def thriftyProvider : Collaborator Judgement Nat :=
  ⟨fun l s => (.ok (thrifty l), s + 1), fun _ s => s⟩

/-- What is a thousand does not exceed it, what is fifty thousand reaches it. -/
theorem rule_sets_are_consulted_in_order_thrifty :
    ((Catalog.invest500.recommend default).run thriftyProvider 0).1 = .ok none ∧
      ((Catalog.topSaving.recommend default).run thriftyProvider 0).1 =
        .ok (some Catalog.topSaving.recommendation) ∧
      ((Catalog.simpleCredit.recommend default).run thriftyProvider 0).1 = .ok none := by
  have hc : Supplies thriftyProvider (fun _ => True) thrifty :=
    ⟨fun _ _ _ => ⟨rfl, trivial⟩, fun _ _ _ => trivial⟩
  have h : WholeSums thrifty default (fun p => if p = .debit then 50000 else 1000)
      (fun _ => 49999) := ⟨fun _ => rfl, fun _ => rfl⟩
  obtain ⟨-, -, -, -, hfigures⟩ := rule_sets_are_consulted_in_order thriftyProvider default
  obtain ⟨-, hinvest, hsaving, hcredit⟩ := hfigures _ _ _ _ hc h 0 trivial
  exact ⟨hinvest, hsaving, hcredit⟩

end Recommender
