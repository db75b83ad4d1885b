import Recommender.Proofs.Program.Turn
import Recommender.Proofs.Service.Confinement

/-!
# What a call has evaluated

What a call has evaluated so far follows from its history: from the rules that were listed, and from
the answers that its lookups were given.  This is so while the call goes on, after it has ended, and
after it has failed.  The calls only record their matches: it is left to others to count them up.
-/

namespace Recommender

open Program (Leads Settled)

/-- How a judgement ends that is given answers, and which of them are left over; nothing as long as
it wants more answers. -/
def Program.given {α : Type} : Program Judgement α → List (Except Failure Json) →
    Option (Except Failure α × List (Except Failure Json))
  | .done a, answers => some (.ok a, answers)
  | .raise e, answers => some (.error e, answers)
  | .ask _ _, [] => none
  | .ask _ next, answer :: answers => (next answer).given answers
  | .emit _ next, answers => next.given answers

/-- The evaluations of rules that have ended with a result, where lookups are given answers one
after the other.  An evaluation that fails is the last one. -/
def evaluations (user : Uuid) : List Rule → List (Except Failure Json) → List (Rule × Evaluation)
  | [], _ => []
  | r :: rest, answers =>
    match (r.evaluate user).given answers with
    | some (.ok e, answers) => (r, e) :: evaluations user rest answers
    | _ => []

/-- The identifiers of the rules that matched, one for each evaluation of a rule that has one. -/
def matchedIds (results : List (Rule × Evaluation)) : List RuleId :=
  results.filterMap fun p => if p.2.matched then p.1.countedAs? else none

namespace Occurrence

/-- The answer to a lookup. -/
def figure? : Occurrence Backend → Option (Except Failure Json)
  | .asked (.lookup _) answer => some answer
  | _ => none

/-- The rules that were listed. -/
def listed? : Occurrence Backend → Option (List Rule)
  | .asked .listRules (.ok rules) => some rules
  | _ => none

/-- The user whose name was resolved. -/
def resolved? : Occurrence Backend → Option Uuid
  | .asked (.resolve _) (.ok user) => user
  | _ => none

/-- The match that was recorded. -/
def matched? : Occurrence Backend → Option RuleId
  | .recorded (.matched id) => some id
  | _ => none

/-- The match that was asked to be counted up, also where this failed. -/
def incremented? : Occurrence Backend → Option RuleId
  | .asked (.increment id) _ => some id
  | _ => none

end Occurrence

/-- The answers that lookups were given. -/
def figures (history : List (Occurrence Backend)) : List (Except Failure Json) :=
  history.filterMap Occurrence.figure?

/-- The rules that were listed; none if they were not. -/
def listed (history : List (Occurrence Backend)) : List Rule :=
  (history.findSome? Occurrence.listed?).getD []

/-- The matches that were recorded. -/
def recordedMatches (history : List (Occurrence Backend)) : List RuleId :=
  history.filterMap Occurrence.matched?

/-- The matches that were asked to be counted up, also where this failed. -/
def incrementedIds (history : List (Occurrence Backend)) : List RuleId :=
  history.filterMap Occurrence.incremented?

/-- What a call has evaluated. -/
def ServiceCall.evaluations (history : List (Occurrence Backend)) :
    ServiceCall → List (Rule × Evaluation)
  | .recommend user => Recommender.evaluations user (listed history) (figures history)
  | .recommendByName _ =>
    (history.findSome? Occurrence.resolved?).elim [] fun user =>
      Recommender.evaluations user (listed history) (figures history)
  | .add _ | .delete _ => []

/-! ## Judgements -/

section

variable {α : Type} {history : List (Occurrence Backend)} {p : Program Judgement α}
  {q : Program Backend α}

theorem figures_append (before after : List (Occurrence Backend)) :
    figures (before ++ after) = figures before ++ figures after :=
  List.filterMap_append

theorem recordedMatches_append (before after : List (Occurrence Backend)) :
    recordedMatches (before ++ after) = recordedMatches before ++ recordedMatches after :=
  List.filterMap_append

/-- A judgement that has ended was given the answers in its history, and another one wants more. -/
theorem leads_judge (h : Leads (Backend.judge p) history q) (hq : q.Settled) :
    (∃ result, q = .ofExcept result ∧
      ∀ more, p.given (figures history ++ more) = some (result, more)) ∨
    (∃ r next, q = .ask r next) ∧ p.given (figures history) = none := by
  rw [Backend.judge] at h
  induction p generalizing history with
  | done a =>
      cases h
      exact .inl ⟨.ok a, rfl, fun _ => rfl⟩
  | raise e =>
      cases h
      exact .inl ⟨.error e, rfl, fun _ => rfl⟩
  | ask l next ih =>
      cases h with
      | refl => exact .inr ⟨⟨_, _, rfl⟩, rfl⟩
      | @ask _ _ answer after _ h =>
          have hrest : Leads (Backend.judge (next answer)) after q := by
            cases answer <;> exact h
          have hcases := ih answer hrest
          exact hcases
  | emit v next ih =>
      cases h with
      | refl => cases hq
      | emit h =>
          have hrest := ih h
          exact hrest

/-- A judgement that is done was given the answers that it wanted. -/
theorem given_of_leads_done {a : α} (h : Leads (Backend.judge p) history (.done a))
    (more : List (Except Failure Json)) :
    p.given (figures history ++ more) = some (.ok a, more) := by
  obtain ⟨result, hresult, hgiven⟩ | ⟨⟨_, _, hask⟩, -⟩ := leads_judge h trivial
  · cases result with
    | ok b =>
        cases hresult
        exact hgiven more
    | error why => cases hresult
  · cases hask

/-- A judgement that goes on, or has failed, has no result. -/
theorem not_given_of_leads (h : Leads (Backend.judge p) history q) (hq : q.Settled)
    (hnone : q.result? = none) (a : α) (more : List (Except Failure Json)) :
    p.given (figures history) ≠ some (.ok a, more) := by
  obtain ⟨result, rfl, hgiven⟩ | ⟨-, hgiven⟩ := leads_judge h hq
  · cases result with
    | ok a => cases hnone
    | error why =>
        have hfailed := hgiven []
        rw [List.append_nil] at hfailed
        rw [hfailed]
        exact nofun
  · rw [hgiven]
    exact nofun

end

/-! ## Counting up -/

section

variable {α : Type} {history : List (Occurrence Backend)} {catalog : List RuleSet}
  {asks : BackendRequest → Prop} {records : BackendEvent → Prop} {p q : Program Backend α}

/-- A program that is not allowed to count matches up counts none. -/
theorem incrementedIds_of_confined (hp : p.Confined asks records)
    (hincrement : ∀ id, ¬ asks (.increment id)) (h : Leads p history q) :
    incrementedIds history = [] := by
  rw [incrementedIds, List.filterMap_eq_nil_iff]
  intro o ho
  have hwithin := hp.within h o ho
  cases o with
  | recorded e => rfl
  | asked r answer =>
      cases r with
      | increment id => exact absurd hwithin (hincrement id)
      | _ => rfl

/-- No call counts a match up. -/
theorem incrementedIds_of_leads {call : ServiceCall} {q : Program Backend call.Result}
    (h : Leads (call.program catalog) history q) : incrementedIds history = [] :=
  incrementedIds_of_confined (confined_program catalog call) (fun _ => id) h

end

end Recommender
