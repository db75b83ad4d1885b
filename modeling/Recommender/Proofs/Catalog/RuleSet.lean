import Recommender.Catalog.RuleSet
import Recommender.Proofs.Rule.Evaluation

/-!
# What rule sets of the fixed catalog mean

A predicate that is defined, with a number for its threshold, is true or false of a user wherever
every lookup is answered by a figure and sums are numbers.  A rule set of such predicates makes its
recommendation exactly if all of them are true, and the fixed catalog consists of such rule sets.
-/

namespace Recommender

/-- A predicate is defined, and its threshold is a number. -/
def Predicate.IsDefined {σ : Type} : Predicate σ → Prop
  | .undefined => False
  | .depositsExceed _ threshold => threshold.IsNumber
  | .withdrawalsExceed _ threshold => threshold.IsNumber
  | .anyDepositsReach _ threshold => threshold.IsNumber
  | _ => True

/-- Every predicate of a rule set is defined. -/
def RuleSet.IsDefined (s : RuleSet) : Prop :=
  ∀ p ∈ s.predicates, p.IsDefined

/-- Whether a predicate is true of a user. -/
def Predicate.truth (figure : Lookup → Json) (user : Uuid) : Predicate Product → Bool
  | .undefined => false
  | .uses p => (figure (.usage user p)).truthy
  | .doesNotUse p => !(figure (.usage user p)).truthy
  | .depositsExceed p threshold =>
    Comparison.greater.compare? (figure (.deposits p user)) threshold == some true
  | .withdrawalsExceed p threshold =>
    Comparison.greater.compare? (figure (.withdrawals p user)) threshold == some true
  | .anyDepositsReach ps threshold => ps.any fun p =>
    Comparison.greaterOrEquals.compare? (figure (.deposits p user)) threshold == some true
  | .depositsExceedWithdrawals p =>
    Comparison.greater.compare? (figure (.deposits p user)) (figure (.withdrawals p user)) ==
      some true

@[simp] theorem Predicate.truth_uses (figure : Lookup → Json) (user : Uuid) (p : Product) :
    (Predicate.uses p).truth figure user = (figure (.usage user p)).truthy := rfl

@[simp] theorem Predicate.truth_doesNotUse (figure : Lookup → Json) (user : Uuid) (p : Product) :
    (Predicate.doesNotUse p).truth figure user = !(figure (.usage user p)).truthy := rfl

theorem Catalog.isDefined_of_mem_all {s : RuleSet} (h : s ∈ Catalog.all) : s.IsDefined := by
  simp only [Catalog.all, List.mem_cons, List.not_mem_nil, or_false] at h
  obtain rfl | rfl | rfl := h <;>
    simp [RuleSet.IsDefined, invest500, topSaving, simpleCredit, Predicate.IsDefined,
      Json.isNumber_int]

section

variable {figure : Lookup → Json} {user : Uuid}

/-- Where the parts of a program have results, the program ends with the last one. -/
theorem against_bind_of_ok {α β : Type} {p : Program Judgement α} {f : α → Program Judgement β}
    {a : α} {result : Except Failure β} (hp : p.against (always figure) = .ok a)
    (hf : (f a).against (always figure) = result) :
    (p.bind f).against (always figure) = result := by
  rw [Program.against_bind, hp]
  exact hf

variable (hdeposits : ∀ p, (figure (.deposits p user)).IsNumber)
  (hwithdrawals : ∀ p, (figure (.withdrawals p user)).IsNumber)

include hdeposits

theorem against_anyReaches {threshold : Json} (ht : threshold.IsNumber)
    (subjects : List Product) :
    (Predicate.anyReaches (fun family product => lookup (.about family user product))
      threshold subjects).against (always figure) =
      .ok (subjects.any fun p => Comparison.greaterOrEquals.compare? (figure (.deposits p user))
        threshold == some true) := by
  induction subjects with
  | nil => rfl
  | cons subject rest ih =>
      have hcompare := against_compareFigures (always figure) .greaterOrEquals
        (hdeposits subject) ht
      refine against_bind_of_ok (against_lookup _) (against_bind_of_ok hcompare ?_)
      rw [List.any_cons]
      cases hreached : Comparison.greaterOrEquals.compare? (figure (.deposits subject user))
        threshold == some true with
      | true => rfl
      | false => exact ih

include hwithdrawals

/-- A predicate that is defined has an answer, which counts as true if the predicate is true. -/
theorem against_predicate {p : Predicate Product} (hp : p.IsDefined) :
    ∃ v, (p.evaluate user).against (always figure) = .ok v ∧ v.truthy = p.truth figure user := by
  cases p with
  | undefined => cases hp
  | uses subject => exact ⟨_, rfl, rfl⟩
  | doesNotUse subject => exact ⟨_, rfl, rfl⟩
  | depositsExceed subject threshold =>
      have hcompare := against_compareFigures (always figure) .greater (hdeposits subject) hp
      exact ⟨_, against_bind_of_ok (against_lookup _) (against_bind_of_ok hcompare rfl), rfl⟩
  | withdrawalsExceed subject threshold =>
      have hcompare := against_compareFigures (always figure) .greater (hwithdrawals subject) hp
      exact ⟨_, against_bind_of_ok (against_lookup _) (against_bind_of_ok hcompare rfl), rfl⟩
  | anyDepositsReach subjects threshold =>
      have hreached := against_anyReaches hdeposits hp subjects
      exact ⟨_, against_bind_of_ok hreached rfl, rfl⟩
  | depositsExceedWithdrawals subject =>
      have hcompare := against_compareFigures (always figure) .greater (hdeposits subject)
        (hwithdrawals subject)
      exact ⟨_, against_bind_of_ok (against_lookup _)
        (against_bind_of_ok (against_lookup _) (against_bind_of_ok hcompare rfl)), rfl⟩

theorem against_allHold {ps : List (Predicate Product)} (hp : ∀ p ∈ ps, p.IsDefined) :
    (allHold user ps).against (always figure) =
      .ok (ps.all fun p => p.truth figure user) := by
  induction ps with
  | nil => rfl
  | cons p rest ih =>
      rw [List.forall_mem_cons] at hp
      obtain ⟨v, hv, htruth⟩ := against_predicate hdeposits hwithdrawals hp.1
      refine against_bind_of_ok hv ?_
      rw [List.all_cons, ← htruth]
      cases v.truthy with
      | true => exact ih hp.2
      | false => rfl

/-- **A rule set that is defined** makes its recommendation exactly if all of its predicates are
true. -/
theorem against_recommend {s : RuleSet} (hs : s.IsDefined) :
    (s.recommend user).against (always figure) =
      .ok (if s.predicates.all fun p => p.truth figure user then some s.recommendation
        else none) :=
  against_bind_of_ok (against_allHold hdeposits hwithdrawals hs) rfl

/-- Against a provider that supplies figures, a rule set that is defined makes its recommendation
exactly if its predicates together say what is true. -/
theorem Supplies.run_recommend {σ : Type} {c : Program.Collaborator Judgement σ}
    {Inv : σ → Prop} (h : Supplies c Inv figure) {set : RuleSet} (hset : set.IsDefined) {P : Prop}
    [Decidable P] (hP : (set.predicates.all fun p => p.truth figure user) = decide P) {s : σ}
    (hs : Inv s) :
    ((set.recommend user).run c s).1 = .ok (if P then some set.recommendation else none) := by
  rw [h.run_eq _ hs, against_recommend hdeposits hwithdrawals hset, hP]
  simp only [decide_eq_true_eq]

end

end Recommender
