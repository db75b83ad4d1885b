import Recommender.Proofs.Program.Simulation
import Recommender.Proofs.Service.Traffic

/-!
# What the operations of the service are confined to

A recommendation looks figures up and lists the rules, and a user name is resolved before it.  An
author's operations write to the stores and record nothing.  No operation counts a match: this is
left to the background.
-/

namespace Recommender

open Program (Confined confined_request confined_record confined_ofOption)

/-- A request of the foreground: it neither counts a match up nor reads the match counts. -/
def BackendRequest.IsForeground : BackendRequest → Prop
  | .increment _ | .listCounts => False
  | _ => True

variable {asks : BackendRequest → Prop} {records : BackendEvent → Prop}

/-! ## Judgements

All that a judgement records is the verdict of a rule.
-/

section

variable (user : Uuid)

theorem silent_lookup (l : Lookup) : (lookup l).Silent :=
  confined_request (I := Judgement) trivial

theorem silent_compareFigures {I : Interface} (c : Comparison) (left right : Json) :
    (compareFigures c left right : Program I Bool).Silent :=
  confined_ofOption _ _

theorem silent_condition_holds (condition : Condition) : (condition.holds user).Silent := by
  cases condition with
  | userOf p => exact Confined.bind (silent_lookup _) fun _ => trivial
  | activeUserOf p => exact Confined.bind (silent_lookup _) fun _ => trivial
  | sumCompare p d c n => exact Confined.bind (silent_lookup _) fun _ => silent_compareFigures c _ _
  | depositWithdrawCompare p c =>
      exact Confined.bind (silent_lookup _) fun _ => Confined.bind (silent_lookup _) fun _ =>
        silent_compareFigures c _ _

theorem silent_evaluateFrom (total position : Nat) (queries : List Query) :
    (evaluateFrom user total position queries).Silent := by
  induction queries generalizing position with
  | nil => trivial
  | cons q rest ih =>
      rw [evaluateFrom]
      split
      · split <;> trivial
      · trivial
      · next clause _ =>
        have hclause : (clause.holds user).Silent :=
          Confined.bind (silent_condition_holds user clause.condition) fun _ => trivial
        refine Confined.bind hclause fun truth => ?_
        cases truth with
        | true => exact ih _
        | false => trivial

theorem silent_rule_judge (r : Rule) : (r.judge user).Silent := by
  rw [Rule.judge]
  split
  · trivial
  · exact silent_evaluateFrom user _ _ _

theorem silent_anyReaches {σ : Type} {I : Interface} {ask : Family → σ → Program I Json}
    (hask : ∀ family subject, (ask family subject).Silent) (threshold : Json) (subjects : List σ) :
    (Predicate.anyReaches ask threshold subjects).Silent := by
  induction subjects with
  | nil => trivial
  | cons subject rest ih =>
      refine Confined.bind (hask _ _) fun total => ?_
      refine Confined.bind (silent_compareFigures _ _ _) fun reached => ?_
      cases reached with
      | true => trivial
      | false => exact ih

theorem silent_evaluateBy {σ : Type} {I : Interface} {ask : Family → σ → Program I Json}
    (hask : ∀ family subject, (ask family subject).Silent) (p : Predicate σ) :
    (p.evaluateBy ask).Silent := by
  cases p with
  | undefined => trivial
  | uses subject => exact hask _ _
  | doesNotUse subject => exact Confined.bind (hask _ _) fun _ => trivial
  | depositsExceed subject threshold =>
      exact Confined.bind (hask _ _) fun _ =>
        Confined.bind (silent_compareFigures _ _ _) fun _ => trivial
  | withdrawalsExceed subject threshold =>
      exact Confined.bind (hask _ _) fun _ =>
        Confined.bind (silent_compareFigures _ _ _) fun _ => trivial
  | anyDepositsReach subjects threshold =>
      exact Confined.bind (silent_anyReaches hask _ _) fun _ => trivial
  | depositsExceedWithdrawals subject =>
      exact Confined.bind (hask _ _) fun _ => Confined.bind (hask _ _) fun _ =>
        Confined.bind (silent_compareFigures _ _ _) fun _ => trivial

theorem silent_allHold (predicates : List (Predicate Product)) :
    (allHold user predicates).Silent := by
  induction predicates with
  | nil => trivial
  | cons p rest ih =>
      have hp : (p.evaluate user).Silent := silent_evaluateBy (fun _ _ => silent_lookup _) p
      refine Confined.bind hp fun truth => ?_
      cases truth.truthy with
      | true => exact ih
      | false => trivial

theorem silent_ruleSet_recommend (s : RuleSet) : (s.recommend user).Silent :=
  Confined.bind (silent_allHold user s.predicates) fun _ => trivial

end

/-! ## Recommendations -/

theorem confined_resolveUser (hresolve : ∀ name, asks (.resolve name)) (name : Json) :
    (resolveUser name).Confined asks records := by
  rw [resolveUser]
  split
  · exact Confined.bind (confined_request (hresolve name)) (confined_ofOption _)
  · exact confined_ofOption _ none

section

variable (hlookup : ∀ l, asks (.lookup l))

include hlookup

/-- A judgement is carried out by lookups and by recording the verdicts that it records. -/
theorem confined_judge {α : Type} {verdicts : Verdict → Prop} {p : Program Judgement α}
    (hp : p.Confined (fun _ => True) verdicts)
    (hverdicts : ∀ v, verdicts v → records (.evaluated v)) :
    (Backend.judge p).Confined asks records := by
  have hl : ∀ l, True → (Program.request (I := Backend) (.lookup l)).Confined asks records :=
    fun l _ => confined_request (hlookup l)
  have he : ∀ v, verdicts v →
      (Program.record (I := Backend) (.evaluated v)).Confined asks records :=
    fun v hv => confined_record (hverdicts v hv)
  exact hp.interpret (J := Judgement) hl he

theorem confined_staticRecommendations (user : Uuid) (catalog : List RuleSet) :
    (staticRecommendations user catalog).Confined asks records := by
  induction catalog with
  | nil => trivial
  | cons s rest ih =>
      exact (confined_judge hlookup (silent_ruleSet_recommend user s) fun _ => False.elim).bind
        fun _ => ih.bind fun _ => trivial

variable (hevaluated : ∀ v, records (.evaluated v))

include hevaluated

theorem confined_dynamicRecommendations (user : Uuid) {rules : List Rule}
    (hmatched : ∀ r ∈ rules, ∀ id, r.countedAs? = some id → records (.matched id)) :
    (dynamicRecommendations user rules).Confined asks records := by
  induction rules with
  | nil => trivial
  | cons r rest ih =>
      rw [List.forall_mem_cons] at hmatched
      have hevaluate := confined_judge hlookup (Program.confined_anyhow (r.evaluate user))
        fun v _ => hevaluated v
      refine hevaluate.bind fun result => ?_
      cases result.matched with
      | true =>
          have hmatch : (recordMatch r.countedAs?).Confined asks records := by
            cases hid : r.countedAs? with
            | none => trivial
            | some id => exact confined_record (hmatched.1 id hid)
          exact hmatch.bind fun _ => (ih hmatched.2).bind fun _ => trivial
      | false => exact ih hmatched.2

variable (hmatched : ∀ id, records (.matched id))

include hmatched

variable (hserved : ∀ origin n, records (.served origin n)) (hlist : asks .listRules)

include hserved hlist

theorem confined_recommend (catalog : List RuleSet) (user : Uuid) :
    (recommend catalog user).Confined asks records := by
  have hrules : Backend.listRules.Confined asks records := confined_request hlist
  refine hrules.bind fun rules => ?_
  refine (confined_dynamicRecommendations hlookup hevaluated user
    fun _ _ id _ => hmatched id).bind fun _ => ?_
  refine (confined_staticRecommendations hlookup user catalog).bind fun _ => ?_
  exact ⟨hserved _ _, hserved _ _, trivial⟩

theorem confined_recommendByName (hresolve : ∀ name, asks (.resolve name))
    (catalog : List RuleSet) (name : Json) :
    (recommendByName catalog name).Confined asks records :=
  (confined_resolveUser hresolve name).bind fun user =>
    (confined_recommend hlookup hevaluated hmatched hserved hlist catalog user).bind fun _ =>
      trivial

end

/-! ## Rules -/

theorem confined_addRule (hsave : ∀ r, asks (.saveRule r)) (hstart : ∀ id, asks (.startCount id))
    (hdelete : ∀ id, asks (.deleteRule id)) (r : Rule) : (addRule r).Confined asks records := by
  have hstore : (storeRule r).Confined asks records := by
    have hsaved : (Backend.saveRule r).Confined asks records := confined_request (hsave r)
    refine hsaved.bind fun id => ?_
    have hstarted : (Backend.startCount id).Confined asks records := confined_request (hstart id)
    refine hstarted.attempt.bind fun started => ?_
    cases started with
    | ok _ => trivial
    | error e => exact Confined.bind (confined_request (hdelete id)) fun _ => trivial
  rw [addRule]
  split
  · trivial
  · split
    · trivial
    · exact hstore

theorem confined_deleteRule (hexists : ∀ id, asks (.ruleExists id))
    (hdelete : ∀ id, asks (.deleteRule id)) (hdrop : ∀ id, asks (.dropCount id)) (id : RuleId) :
    (deleteRule id).Confined asks records := by
  have hpresent : (Backend.ruleExists id).Confined asks records := confined_request (hexists id)
  refine hpresent.bind fun present => ?_
  cases present with
  | true =>
      exact Confined.bind (confined_request (hdelete id)) fun _ => confined_request (hdrop id)
  | false => trivial

/-! ## Calls -/

/-- No call counts a match up or reads the match counts. -/
theorem confined_program (catalog : List RuleSet) (call : ServiceCall) :
    (call.program catalog).Confined BackendRequest.IsForeground (fun _ => True) := by
  cases call with
  | add r => exact confined_addRule (fun _ => trivial) (fun _ => trivial) (fun _ => trivial) r
  | delete id =>
      exact confined_deleteRule (fun _ => trivial) (fun _ => trivial) (fun _ => trivial) id
  | recommend user =>
      exact confined_recommend (fun _ => trivial) (fun _ => trivial) (fun _ => trivial)
        (fun _ _ => trivial) trivial catalog user
  | recommendByName name =>
      exact confined_recommendByName (fun _ => trivial) (fun _ => trivial) (fun _ => trivial)
        (fun _ _ => trivial) trivial (fun _ => trivial) catalog name

end Recommender
