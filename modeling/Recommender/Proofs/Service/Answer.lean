import Recommender.Proofs.Aggregate.Parallel
import Recommender.Proofs.Service.Confinement
import Recommender.Proofs.Service.Serving

/-!
# What a request for recommendations is answered with

A request lists the rules, lets them take their turns, lets the rule sets take theirs, and records
how many recommendations it serves.  The first turn that fails ends the request: nothing that comes
later is evaluated.  This is so for every collaborator, hence also for one that keeps the history
beside its state.

A request by name resolves the name first.  If the name is somebody's, the rest is the request for
this user, and what it leaves behind differs in nothing but the one call that resolved the name.
-/

namespace Recommender

/-- Turns that are taken one after the other, each with its result. -/
inductive InTurn {α β σ : Type} (turn : α → σ → Except Failure β × σ) :
    List α → σ → List β → σ → Prop where
  | nil (s : σ) : InTurn turn [] s [] s
  | cons {a : α} {b : β} {rest : List α} {bs : List β} {s t u : σ}
      (first : turn a s = (.ok b, t)) (others : InTurn turn rest t bs u) :
      InTurn turn (a :: rest) s (b :: bs) u

section

variable {σ : Type} (c : Program.Collaborator Backend σ)

/-- The turn of a rule: it is evaluated, and if it matched, its match is to be counted. -/
def Rule.turn (user : Uuid) (r : Rule) (s : σ) : Except Failure Evaluation × σ :=
  match (r.evaluate user).run (judging c) s with
  | (.error why, s) => (.error why, s)
  | (.ok e, s) =>
    (.ok e, if e.matched then r.countedAs?.elim s fun id => c.notice (.matched id) s else s)

/-- The turn of a rule set. -/
def RuleSet.turn (user : Uuid) (set : RuleSet) (s : σ) :
    Except Failure (Option Recommendation) × σ :=
  (set.recommend user).run (judging c) s

/-- The recommendations of the rules that matched, where each rule has its result. -/
def recommendationsOf (rules : List Rule) (results : List Evaluation) : List Recommendation :=
  ((rules.zip results).filter fun p => p.2.matched).map fun p => p.1.recommendation

/-- What a request is answered with, and the state that it leaves. -/
inductive Recommended (catalog : List RuleSet) (user : Uuid) (s : σ) :
    Except Failure (List Recommendation) → σ → Prop where
  | notListed {why : Failure} {t : σ} (hlist : c.answer .listRules s = (.error why, t)) :
      Recommended catalog user s (.error why) t
  | ruleFailed {rules before after : List Rule} {r : Rule} {results : List Evaluation}
      {why : Failure} {t u v : σ} (hlist : c.answer .listRules s = (.ok rules, t))
      (h : rules = before ++ r :: after) (hbefore : InTurn (Rule.turn c user) before t results u)
      (hr : r.turn c user u = (.error why, v)) : Recommended catalog user s (.error why) v
  | ruleSetFailed {rules : List Rule} {before after : List RuleSet} {set : RuleSet}
      {results : List Evaluation} {found : List (Option Recommendation)} {why : Failure}
      {t u v w : σ} (hlist : c.answer .listRules s = (.ok rules, t))
      (hrules : InTurn (Rule.turn c user) rules t results u) (h : catalog = before ++ set :: after)
      (hbefore : InTurn (RuleSet.turn c user) before u found v)
      (hset : set.turn c user v = (.error why, w)) : Recommended catalog user s (.error why) w
  | answered {rules : List Rule} {results : List Evaluation}
      {found : List (Option Recommendation)} {t u v : σ}
      (hlist : c.answer .listRules s = (.ok rules, t))
      (hrules : InTurn (Rule.turn c user) rules t results u)
      (hsets : InTurn (RuleSet.turn c user) catalog u found v) :
      Recommended catalog user s (.ok (recommendationsOf rules results ++ found.reduceOption))
        (c.notice (.served .static found.reduceOption.length)
          (c.notice (.served .dynamic (recommendationsOf rules results).length) v))

end

/-! ## Turns -/

section

variable {σ : Type} {c : Program.Collaborator Backend σ} {catalog : List RuleSet} {user : Uuid}
  {s t u : σ}

theorem recommendationsOf_cons (r : Rule) (rules : List Rule) (e : Evaluation)
    (results : List Evaluation) : recommendationsOf (r :: rules) (e :: results) =
      if e.matched then r.recommendation :: recommendationsOf rules results
      else recommendationsOf rules results := by
  cases h : e.matched <;> simp [recommendationsOf, h]

/-- The rules after one go on where its turn has ended. -/
theorem run_dynamicRecommendations_cons (r : Rule) (rest : List Rule) (s : σ) :
    (dynamicRecommendations user (r :: rest)).run c s =
      match r.turn c user s with
      | (.error why, s) => (.error why, s)
      | (.ok e, s) =>
        match (dynamicRecommendations user rest).run c s with
        | (result, s) => (result.map fun others =>
            if e.matched then r.recommendation :: others else others, s) := by
  rw [dynamicRecommendations, Program.bind_eq, Program.run_bind, run_judge, Rule.turn]
  rcases (r.evaluate user).run (judging c) s with ⟨why | e, t⟩
  · rfl
  · cases hm : e.matched with
    | true =>
        have hmatch : (recordMatch r.countedAs?).run c t =
            (.ok (), r.countedAs?.elim t fun id => c.notice (.matched id) t) := by
          cases r.countedAs? <;> rfl
        simp only [hm, if_true, Program.bind_eq, Program.run_bind, hmatch]
        rcases (dynamicRecommendations user rest).run c _ with ⟨_ | others, u⟩ <;> rfl
    | false =>
        simp only [hm, Bool.false_eq_true, if_false]
        rcases (dynamicRecommendations user rest).run c t with ⟨_ | others, u⟩ <;> rfl

theorem run_staticRecommendations_cons (set : RuleSet) (rest : List RuleSet) (s : σ) :
    (staticRecommendations user (set :: rest)).run c s =
      match set.turn c user s with
      | (.error why, s) => (.error why, s)
      | (.ok o, s) =>
        match (staticRecommendations user rest).run c s with
        | (result, s) => (result.map (o.toList ++ ·), s) := by
  rw [staticRecommendations, Program.bind_eq, Program.run_bind, run_judge, RuleSet.turn]
  rcases (set.recommend user).run (judging c) s with ⟨why | o, t⟩
  · rfl
  · simp only [Program.bind_eq, Program.run_bind]
    rcases (staticRecommendations user rest).run c t with ⟨_ | others, u⟩ <;> rfl

/-- Rules that have all taken their turns contribute the recommendations of those that matched. -/
theorem InTurn.run_rules {rules : List Rule} {results : List Evaluation}
    (h : InTurn (Rule.turn c user) rules s results t) :
    (dynamicRecommendations user rules).run c s = (.ok (recommendationsOf rules results), t) := by
  induction h with
  | nil s => rfl
  | @cons r e rules results s t u first others ih =>
      rw [run_dynamicRecommendations_cons, first, recommendationsOf_cons]
      simp only [ih]
      rfl

/-- A rule whose turn fails ends the request, whatever rules come later. -/
theorem InTurn.run_rules_error {rules : List Rule} {results : List Evaluation}
    (h : InTurn (Rule.turn c user) rules s results t) {r : Rule} {why : Failure}
    (hr : r.turn c user t = (.error why, u)) (after : List Rule) :
    (dynamicRecommendations user (rules ++ r :: after)).run c s = (.error why, u) := by
  induction h with
  | nil s =>
      rw [List.nil_append, run_dynamicRecommendations_cons, hr]
  | cons first others ih =>
      rw [List.cons_append, run_dynamicRecommendations_cons, first]
      simp only [ih hr]
      rfl

theorem InTurn.run_sets {sets : List RuleSet} {found : List (Option Recommendation)}
    (h : InTurn (RuleSet.turn c user) sets s found t) :
    (staticRecommendations user sets).run c s = (.ok found.reduceOption, t) := by
  induction h with
  | nil s => rfl
  | @cons set o sets found s t u first others ih =>
      rw [run_staticRecommendations_cons, first]
      simp only [ih]
      cases o <;> rfl

theorem InTurn.run_sets_error {sets : List RuleSet} {found : List (Option Recommendation)}
    (h : InTurn (RuleSet.turn c user) sets s found t) {set : RuleSet} {why : Failure}
    (hset : set.turn c user t = (.error why, u)) (after : List RuleSet) :
    (staticRecommendations user (sets ++ set :: after)).run c s = (.error why, u) := by
  induction h with
  | nil s =>
      rw [List.nil_append, run_staticRecommendations_cons, hset]
  | cons first others ih =>
      rw [List.cons_append, run_staticRecommendations_cons, first]
      simp only [ih hset]
      rfl

/-! ## Requests -/

/-- After the rules are listed, the rules take their turns, and then the rule sets. -/
theorem run_recommend (catalog : List RuleSet) (user : Uuid) (s : σ) :
    (recommend catalog user).run c s =
      match c.answer .listRules s with
      | (.error why, s) => (.error why, s)
      | (.ok rules, s) =>
        match (dynamicRecommendations user rules).run c s with
        | (.error why, s) => (.error why, s)
        | (.ok dynamic, s) =>
          match (staticRecommendations user catalog).run c s with
          | (.error why, s) => (.error why, s)
          | (.ok static, s) => (.ok (dynamic ++ static),
              c.notice (.served .static static.length)
                (c.notice (.served .dynamic dynamic.length) s)) := by
  have hlist : Backend.listRules.run c s = c.answer .listRules s :=
    Program.run_request (I := Backend) c .listRules s
  rw [recommend, Program.bind_eq, Program.run_bind, hlist]
  rcases c.answer .listRules s with ⟨why | rules, t⟩
  · rfl
  · simp only [Program.bind_eq, Program.run_bind]
    rcases (dynamicRecommendations user rules).run c t with ⟨why | dynamic, u⟩
    · rfl
    · dsimp only
      rcases (staticRecommendations user catalog).run c u with ⟨why | static, v⟩ <;> rfl

/-- A request ends as it is answered. -/
theorem Recommended.run_eq {outcome : Except Failure (List Recommendation)}
    (h : Recommended c catalog user s outcome t) :
    (recommend catalog user).run c s = (outcome, t) := by
  rw [run_recommend]
  cases h with
  | notListed hlist => rw [hlist]
  | ruleFailed hlist h hbefore hr =>
      rw [hlist]
      simp only [h, hbefore.run_rules_error hr]
  | ruleSetFailed hlist hrules h hbefore hset =>
      rw [hlist]
      simp only [hrules.run_rules, h, hbefore.run_sets_error hset]
  | answered hlist hrules hsets =>
      rw [hlist]
      simp only [hrules.run_rules, hsets.run_sets]

end

/-! ## The call that resolves a name -/

namespace ServiceState

/-- Services that differ in nothing but the calls that reached the provider up to some moment. -/
structure AlikeSince (past past' : List Call) (s t : ServiceState) : Prop where
  desk : s.desk.Parallel Eq past past' t.desk
  others : { t with desk := s.desk } = s

variable {past past' : List Call} {s t : ServiceState}

theorem AlikeSince.of_desk (h : AlikeSince past past' s t) {d e : Desk}
    (hd : d.Parallel Eq past past' e) :
    AlikeSince past past' { s with desk := d } { t with desk := e } :=
  ⟨hd, congrArg (fun u : ServiceState => { u with desk := d }) h.others⟩

end ServiceState

end Recommender
