import Recommender.Proofs.Catalog.Consultation
import Recommender.Proofs.Rule.Conjunction
import Recommender.Proofs.Rule.Language
import Recommender.Aggregate.Cached

/-!
# The catalog in the query language

What a predicate of a rule set says can be said in the query language: by one clause, or by one of
several, where it is about several product types.  A rule set *reads* as lists of clauses, with one
clause for each predicate, and it recommends its product exactly if all clauses of one of these lists
are true.  So wherever the sum of the transactions of one direction is the sum of deposits or of
withdrawals, a rule set makes its recommendation exactly if a rule that says the same matches.
-/

namespace Recommender

/-- A predicate can be read as a clause of the query language. -/
inductive Predicate.ReadsAs : Predicate Product → Clause → Prop where
  | uses (p : Product) : ReadsAs (.uses p) ⟨.userOf p, false⟩
  | doesNotUse (p : Product) : ReadsAs (.doesNotUse p) ⟨.userOf p, true⟩
  | depositsExceed (p : Product) (n : Int) :
      ReadsAs (.depositsExceed p (.int n)) ⟨.sumCompare p .deposit .greater n, false⟩
  | withdrawalsExceed (p : Product) (n : Int) :
      ReadsAs (.withdrawalsExceed p (.int n)) ⟨.sumCompare p .withdraw .greater n, false⟩
  | anyDepositsReach {ps : List Product} {p : Product} (h : p ∈ ps) (n : Int) :
      ReadsAs (.anyDepositsReach ps (.int n)) ⟨.sumCompare p .deposit .greaterOrEquals n, false⟩
  | depositsExceedWithdrawals (p : Product) :
      ReadsAs (.depositsExceedWithdrawals p) ⟨.depositWithdrawCompare p .greater, false⟩

/-- The threshold of a predicate is a whole number. -/
def Predicate.IsWhole : Predicate Product → Prop
  | .depositsExceed _ threshold => ∃ n : Int, threshold = .int n
  | .withdrawalsExceed _ threshold => ∃ n : Int, threshold = .int n
  | .anyDepositsReach _ threshold => ∃ n : Int, threshold = .int n
  | _ => True

/-- The transactions of one direction add up to the deposits and to the withdrawals of a user. -/
structure SumsAgree (figure : Lookup → Json) (user : Uuid) : Prop where
  deposit : ∀ p, figure (.turnover p .deposit user) = figure (.deposits p user)
  withdraw : ∀ p, figure (.turnover p .withdraw user) = figure (.withdrawals p user)

section

variable {figure : Lookup → Json} {user : Uuid}

/-! ## Predicates -/

/-- A predicate that is true has a reading that is true. -/
theorem Predicate.exists_readsAs_of_truth (hsame : SumsAgree figure user) {p : Predicate Product}
    (hp : p.IsWhole) (h : p.truth figure user = true) :
    ∃ clause, p.ReadsAs clause ∧ clause.truth figure user = true := by
  cases p with
  | undefined => cases h
  | uses p => exact ⟨_, .uses p, by simpa [Clause.truth, Condition.truth] using h⟩
  | doesNotUse p => exact ⟨_, .doesNotUse p, by simpa [Clause.truth, Condition.truth] using h⟩
  | depositsExceed p threshold =>
      obtain ⟨n, rfl⟩ := hp
      refine ⟨_, .depositsExceed p n, ?_⟩
      simpa [Clause.truth, Condition.truth, hsame.deposit, truth] using h
  | withdrawalsExceed p threshold =>
      obtain ⟨n, rfl⟩ := hp
      refine ⟨_, .withdrawalsExceed p n, ?_⟩
      simpa [Clause.truth, Condition.truth, hsame.withdraw, truth] using h
  | anyDepositsReach ps threshold =>
      obtain ⟨n, rfl⟩ := hp
      obtain ⟨p, hmem, hp⟩ := List.any_eq_true.mp h
      refine ⟨_, .anyDepositsReach hmem n, ?_⟩
      simpa [Clause.truth, Condition.truth, hsame.deposit] using hp
  | depositsExceedWithdrawals p =>
      refine ⟨_, .depositsExceedWithdrawals p, ?_⟩
      simpa [Clause.truth, Condition.truth, truth] using h

/-- A predicate that has a reading that is true is true. -/
theorem Predicate.ReadsAs.truth (hsame : SumsAgree figure user) {p : Predicate Product}
    {clause : Clause} (hreads : p.ReadsAs clause) (h : clause.truth figure user = true) :
    p.truth figure user = true := by
  cases hreads with
  | uses p => simpa [Clause.truth, Condition.truth] using h
  | doesNotUse p => simpa [Clause.truth, Condition.truth] using h
  | depositsExceed p n =>
      simpa [Clause.truth, Condition.truth, hsame.deposit, Predicate.truth] using h
  | withdrawalsExceed p n =>
      simpa [Clause.truth, Condition.truth, hsame.withdraw, Predicate.truth] using h
  | anyDepositsReach hmem n =>
      refine List.any_eq_true.mpr ⟨_, hmem, ?_⟩
      simpa [Clause.truth, Condition.truth, hsame.deposit] using h
  | depositsExceedWithdrawals p =>
      simpa [Clause.truth, Condition.truth, Predicate.truth] using h

/-- Predicates are all true exactly if there are readings of them that are all true. -/
theorem all_truth_iff_exists_readsAs (hsame : SumsAgree figure user)
    {ps : List (Predicate Product)} (hp : ∀ p ∈ ps, p.IsWhole) :
    (ps.all fun p => p.truth figure user) = true ↔
      ∃ clauses, List.Forall₂ Predicate.ReadsAs ps clauses ∧
        (clauses.all fun clause => clause.truth figure user) = true := by
  induction ps with
  | nil => simp
  | cons p rest ih =>
      rw [List.forall_mem_cons] at hp
      rw [List.all_cons, Bool.and_eq_true, ih hp.2]
      constructor
      · rintro ⟨hfirst, clauses, hclauses, hall⟩
        obtain ⟨clause, hclause, htrue⟩ := Predicate.exists_readsAs_of_truth hsame hp.1 hfirst
        exact ⟨clause :: clauses, .cons hclause hclauses, by simp [htrue, hall]⟩
      · rintro ⟨_, hreads, hall⟩
        cases hreads with
        | @cons _ clause _ clauses hclause hclauses =>
            rw [List.all_cons, Bool.and_eq_true] at hall
            exact ⟨hclause.truth hsame hall.1, clauses, hclauses, hall.2⟩

/-! ## Rules -/

theorem against_evaluateFrom_of_validate (hf : SumsAreNumbers figure) (total position : Nat)
    {qs : List Query} {clauses : List Clause}
    (h : List.Forall₂ (fun q clause => q.validate = .ok clause) qs clauses) :
    ∃ e, (evaluateFrom user total position qs).against (always figure) = .ok e ∧
      e.matched = clauses.all fun clause => clause.truth figure user := by
  induction h generalizing position with
  | nil => exact ⟨_, rfl, rfl⟩
  | @cons q clause rest clauses hq _ ih =>
      rw [against_evaluateFrom_of_ok hf user total position hq, List.all_cons]
      cases clause.truth figure user with
      | true => exact ih (position + 1)
      | false => exact ⟨_, rfl, rfl⟩

/-- A valid rule that has queries matches exactly if all of its clauses are true. -/
theorem against_matchesUser_of_validate (hf : SumsAreNumbers figure) {r : Rule}
    {clauses : List Clause} (h : r.validate = .ok clauses) (hne : r.queryList ≠ []) :
    (r.matchesUser user).against (always figure) =
      .ok (clauses.all fun clause => clause.truth figure user) := by
  obtain ⟨e, he, hmatched⟩ :=
    against_evaluateFrom_of_validate hf r.queryList.length 0 (mapM_eq_ok_iff.mp h)
  rw [Rule.matchesUser, Program.bind_eq, Program.against_bind, against_evaluate,
    Rule.judge_of_ne_nil hne, he, ← hmatched]
  rfl

end

/-! ## Providers -/

/-- Figures are numbers. -/
structure Figures.AreNumbers (f : Figures) : Prop where
  deposits : ∀ p, (figure f.deposits p).IsNumber
  withdrawals : ∀ p, (figure f.withdrawals p).IsNumber
  transactionCounts : ∀ p, (figure f.transactionCounts p).IsNumber

/-- What is supplied from figures that are numbers. -/
def Figures.supplied (f : Figures) : Lookup → Json
  | .usage _ p => .bool (f.products.contains p)
  | .activity p _ => .bool (Comparison.greaterOrEquals.compare? (figure f.transactionCounts p)
      (.int activeFrom) == some true)
  | .turnover p .deposit _ => figure f.deposits p
  | .turnover p .withdraw _ => figure f.withdrawals p
  | .deposits p _ => figure f.deposits p
  | .withdrawals p _ => figure f.withdrawals p

/-- A desk has given figures, without memos in front of them, and is not told to fail. -/
structure Desk.Shows (f : Figures) (d : Desk) : Prop where
  source : d.provider.source = .figures f
  faults : d.provider.faults = []
  caches : d.caches = none

theorem Figures.AreNumbers.answer_eq {f : Figures} (hf : f.AreNumbers) (l : Lookup) :
    f.answer l = .ok (f.supplied l) := by
  cases l with
  | activity p user =>
      obtain ⟨t, ht⟩ := compare?_of_numbers .greaterOrEquals (hf.transactionCounts p)
        (Json.isNumber_int activeFrom)
      rw [answer, isActive, supplied, ht]
      cases t <;> rfl
  | turnover p d user => cases d <;> rfl
  | _ => rfl

theorem Figures.AreNumbers.sumsAreNumbers {f : Figures} (hf : f.AreNumbers) :
    SumsAreNumbers f.supplied where
  turnover := by
    intro p d user
    cases d with
    | deposit => exact hf.deposits p
    | withdraw => exact hf.withdrawals p
  deposits := fun p _ => hf.deposits p
  withdrawals := fun p _ => hf.withdrawals p

theorem Figures.sumsAgree_supplied (f : Figures) (user : Uuid) : SumsAgree f.supplied user :=
  ⟨fun _ => rfl, fun _ => rfl⟩

theorem Figures.AreNumbers.supplies {f : Figures} (hf : f.AreNumbers) :
    Supplies Desk.collaborator (fun s => s.1.Shows f) f.supplied where
  answer := by
    rintro l ⟨⟨⟨source, faults, calls⟩, caches⟩, tally⟩ ⟨rfl, rfl, rfl⟩
    exact ⟨hf.answer_eq l, rfl, rfl, rfl⟩
  notice := fun _ _ hs => hs

/-! ## The catalog -/

namespace Catalog

/-- What Invest 500 says in the query language. -/
def invest500Reading : List Clause :=
  [⟨.userOf .debit, false⟩, ⟨.userOf .invest, true⟩,
    ⟨.sumCompare .saving .deposit .greater 1000, false⟩]

/-- What Top Saving says in the query language, if it is about the deposits on one product type. -/
def topSavingReading (p : Product) : List Clause :=
  [⟨.userOf .debit, false⟩, ⟨.sumCompare p .deposit .greaterOrEquals 50000, false⟩,
    ⟨.depositWithdrawCompare .debit .greater, false⟩]

/-- What Simple Credit says in the query language. -/
def simpleCreditReading : List Clause :=
  [⟨.userOf .credit, true⟩, ⟨.depositWithdrawCompare .debit .greater, false⟩,
    ⟨.sumCompare .debit .withdraw .greater 100000, false⟩]

theorem isWhole_of_mem_all {set : RuleSet} (h : set ∈ all) : ∀ p ∈ set.predicates, p.IsWhole := by
  simp only [all, List.mem_cons, List.not_mem_nil, or_false] at h
  obtain rfl | rfl | rfl := h <;>
    simp [invest500, topSaving, simpleCredit, Predicate.IsWhole]

theorem readsAs_invest500 (clauses : List Clause) :
    List.Forall₂ Predicate.ReadsAs invest500.predicates clauses ↔
      clauses ∈ [invest500Reading] := by
  rw [List.mem_singleton]
  constructor
  · rintro (_ | ⟨⟨⟩, _ | ⟨⟨⟩, _ | ⟨⟨⟩, ⟨⟩⟩⟩⟩)
    rfl
  · rintro rfl
    exact .cons (.uses _) (.cons (.doesNotUse _) (.cons (.depositsExceed _ _) .nil))

theorem readsAs_topSaving (clauses : List Clause) :
    List.Forall₂ Predicate.ReadsAs topSaving.predicates clauses ↔
      clauses ∈ [topSavingReading .debit, topSavingReading .saving] := by
  rw [List.mem_pair]
  constructor
  · rintro (_ | ⟨⟨⟩, _ | ⟨hreads, _ | ⟨⟨⟩, ⟨⟩⟩⟩⟩)
    cases hreads with
    | anyDepositsReach hp _ =>
        obtain rfl | rfl := List.mem_pair.mp hp
        · exact .inl rfl
        · exact .inr rfl
  · rintro (rfl | rfl)
    · exact .cons (.uses _) (.cons (.anyDepositsReach (List.mem_pair.mpr (.inl rfl)) _)
        (.cons (.depositsExceedWithdrawals _) .nil))
    · exact .cons (.uses _) (.cons (.anyDepositsReach (List.mem_pair.mpr (.inr rfl)) _)
        (.cons (.depositsExceedWithdrawals _) .nil))

theorem readsAs_simpleCredit (clauses : List Clause) :
    List.Forall₂ Predicate.ReadsAs simpleCredit.predicates clauses ↔
      clauses ∈ [simpleCreditReading] := by
  rw [List.mem_singleton]
  constructor
  · rintro (_ | ⟨⟨⟩, _ | ⟨⟨⟩, _ | ⟨⟨⟩, ⟨⟩⟩⟩⟩)
    rfl
  · rintro rfl
    exact .cons (.doesNotUse _) (.cons (.depositsExceedWithdrawals _)
      (.cons (.withdrawalsExceed _ _) .nil))

end Catalog

section

variable {f : Figures} {user : Uuid} {s : Desk × Tally Verdict Nat}

/-- A rule set makes its recommendation exactly if the clauses of one of its readings are all
true. -/
theorem Figures.AreNumbers.run_recommend (hf : f.AreNumbers) {set : RuleSet}
    (hset : set ∈ Catalog.all) {readings : List (List Clause)}
    (hreads : ∀ clauses, List.Forall₂ Predicate.ReadsAs set.predicates clauses ↔
      clauses ∈ readings) (hs : s.1.Shows f) :
    ((set.recommend user).run Desk.collaborator s).1 =
      .ok (if readings.any fun clauses => clauses.all fun clause => clause.truth f.supplied user
        then some set.recommendation else none) := by
  have hsums := hf.sumsAreNumbers
  have htruth : (set.predicates.all fun p => p.truth f.supplied user) =
      readings.any fun clauses => clauses.all fun clause => clause.truth f.supplied user := by
    rw [Bool.eq_iff_iff, all_truth_iff_exists_readsAs (f.sumsAgree_supplied user)
      (Catalog.isWhole_of_mem_all hset), List.any_eq_true]
    exact exists_congr fun clauses => and_congr_left' (hreads clauses)
  refine hf.supplies.run_recommend (hsums.deposits · user) (hsums.withdrawals · user)
    (Catalog.isDefined_of_mem_all hset) ?_ hs
  rw [htruth, Bool.decide_eq_true]

theorem Figures.AreNumbers.run_matchesUser (hf : f.AreNumbers) {r : Rule} {clauses : List Clause}
    (h : r.validate = .ok clauses) (hne : r.queryList ≠ []) (hs : s.1.Shows f) :
    ((r.matchesUser user).run Desk.collaborator s).1 =
      .ok (clauses.all fun clause => clause.truth f.supplied user) := by
  rw [hf.supplies.run_eq _ hs, against_matchesUser_of_validate hf.sumsAreNumbers h hne]

end

/-- **The catalog agrees with the query language.**  Whatever the figures are, as long as they are
numbers, and whatever user is asked about: Invest 500 and Simple Credit are recommended exactly if
the rule matches that says the same, and Top Saving exactly if one of the two rules matches that say
the same with a debit card or a savings account for the deposits.  All of them have an answer. -/
theorem catalog_agrees_with_the_language {f : Figures} (hf : f.AreNumbers) (user : Uuid)
    {s s' s'' : Desk × Tally Verdict Nat} (hs : s.1.Shows f) (hs' : s'.1.Shows f)
    (hs'' : s''.1.Shows f) :
    (∀ r : Rule,
      r.queryList = [.ofTexts "USER_OF" ["DEBIT"] false, .ofTexts "USER_OF" ["INVEST"] true,
        .ofTexts "TRANSACTION_SUM_COMPARE" ["SAVING", "DEPOSIT", ">", "1000"] false] →
      ∃ matching, ((r.matchesUser user).run Desk.collaborator s').1 = .ok matching ∧
        ((Catalog.invest500.recommend user).run Desk.collaborator s).1 =
          .ok (if matching then some Catalog.invest500.recommendation else none)) ∧
    (∀ r : Rule,
      r.queryList = [.ofTexts "USER_OF" ["CREDIT"] true,
        .ofTexts "TRANSACTION_SUM_COMPARE_DEPOSIT_WITHDRAW" ["DEBIT", ">"] false,
        .ofTexts "TRANSACTION_SUM_COMPARE" ["DEBIT", "WITHDRAW", ">", "100000"] false] →
      ∃ matching, ((r.matchesUser user).run Desk.collaborator s').1 = .ok matching ∧
        ((Catalog.simpleCredit.recommend user).run Desk.collaborator s).1 =
          .ok (if matching then some Catalog.simpleCredit.recommendation else none)) ∧
    (∀ r r' : Rule,
      r.queryList = [.ofTexts "USER_OF" ["DEBIT"] false,
        .ofTexts "TRANSACTION_SUM_COMPARE" ["DEBIT", "DEPOSIT", ">=", "50000"] false,
        .ofTexts "TRANSACTION_SUM_COMPARE_DEPOSIT_WITHDRAW" ["DEBIT", ">"] false] →
      r'.queryList = [.ofTexts "USER_OF" ["DEBIT"] false,
        .ofTexts "TRANSACTION_SUM_COMPARE" ["SAVING", "DEPOSIT", ">=", "50000"] false,
        .ofTexts "TRANSACTION_SUM_COMPARE_DEPOSIT_WITHDRAW" ["DEBIT", ">"] false] →
      ∃ matching matching',
        ((r.matchesUser user).run Desk.collaborator s').1 = .ok matching ∧
        ((r'.matchesUser user).run Desk.collaborator s'').1 = .ok matching' ∧
        ((Catalog.topSaving.recommend user).run Desk.collaborator s).1 =
          .ok (if matching || matching' then some Catalog.topSaving.recommendation else none)) := by
  refine ⟨?_, ?_, ?_⟩
  · intro r hr
    have hvalid : r.validate = .ok Catalog.invest500Reading := by
      rw [Rule.validate, hr]
      rfl
    refine ⟨_, hf.run_matchesUser hvalid (by simp [hr]) hs', ?_⟩
    rw [hf.run_recommend (by simp [Catalog.all]) Catalog.readsAs_invest500 hs]
    simp only [List.any_cons, List.any_nil, Bool.or_false]
  · intro r hr
    have hvalid : r.validate = .ok Catalog.simpleCreditReading := by
      rw [Rule.validate, hr]
      rfl
    refine ⟨_, hf.run_matchesUser hvalid (by simp [hr]) hs', ?_⟩
    rw [hf.run_recommend (by simp [Catalog.all]) Catalog.readsAs_simpleCredit hs]
    simp only [List.any_cons, List.any_nil, Bool.or_false]
  · intro r r' hr hr'
    have hvalid : r.validate = .ok (Catalog.topSavingReading .debit) := by
      rw [Rule.validate, hr]
      rfl
    have hvalid' : r'.validate = .ok (Catalog.topSavingReading .saving) := by
      rw [Rule.validate, hr']
      rfl
    refine ⟨_, _, hf.run_matchesUser hvalid (by simp [hr]) hs',
      hf.run_matchesUser hvalid' (by simp [hr']) hs'', ?_⟩
    rw [hf.run_recommend (by simp [Catalog.all]) Catalog.readsAs_topSaving hs]
    simp only [List.any_cons, List.any_nil, Bool.or_false]

namespace Catalog

/-- The figures of users of a debit card who have put fifty thousand into savings. -/
def sparing : Figures where
  products := [.debit]
  deposits := [(.debit, .int 100), (.saving, .int 50000)]
  withdrawals := [(.debit, .int 50)]

/-- A desk that shows these figures. -/
def sparingDesk : Desk × Tally Verdict Nat :=
  (⟨⟨.figures sparing, [], []⟩, none⟩, {})

/-- What Top Saving says, as a rule about the deposits on one product type. -/
def topSavingRule (p : Product) : Rule :=
  .sample "Top Saving" .null [.ofTexts "USER_OF" ["DEBIT"] false,
    .ofTexts "TRANSACTION_SUM_COMPARE" [p.name, "DEPOSIT", ">=", "50000"] false,
    .ofTexts "TRANSACTION_SUM_COMPARE_DEPOSIT_WITHDRAW" ["DEBIT", ">"] false]

/-- The deposits on the debit card do not reach the threshold, those on the savings account do. -/
theorem catalog_agrees_with_the_language_sparing :
    (((topSavingRule .debit).matchesUser default).run Desk.collaborator sparingDesk).1 =
        .ok false ∧
      (((topSavingRule .saving).matchesUser default).run Desk.collaborator sparingDesk).1 =
        .ok true ∧
      ((topSaving.recommend default).run Desk.collaborator sparingDesk).1 =
        .ok (some topSaving.recommendation) := by
  have hnumbers : sparing.AreNumbers := by
    constructor <;> intro p <;> cases p <;> rfl
  have hshows : sparingDesk.1.Shows sparing := ⟨rfl, rfl, rfl⟩
  obtain ⟨-, -, htopSaving⟩ :=
    catalog_agrees_with_the_language hnumbers default hshows hshows hshows
  obtain ⟨matching, matching', hmatching, hmatching', hrecommend⟩ :=
    htopSaving (topSavingRule .debit) (topSavingRule .saving) rfl rfl
  have hfalse : matching = false := (Except.ok.inj hmatching).symm
  have htrue : matching' = true := (Except.ok.inj hmatching').symm
  rw [hmatching, hmatching', hrecommend, hfalse, htrue]
  exact ⟨rfl, rfl, rfl⟩

end Catalog

end Recommender
