import Mathlib.Data.List.Basic
import Recommender.Proofs.Service.Matches

/-!
# What a call has recorded

Between two turns of a call, what it has recorded follows from its history, like what it has
evaluated.  Of every evaluation that has ended it has recorded the verdict, and then the match, if
the rule matched and has an identifier; once it has returned, it has recorded how many
recommendations of each origin it returned.  An evaluation that fails leaves nothing, and neither
does a call that fails leave anything behind its last evaluation.
-/

namespace Recommender

open Program (Leads Settled)

/-- The event that was recorded. -/
def Occurrence.event? : Occurrence Backend → Option BackendEvent
  | .recorded e => some e
  | .asked .. => none

/-- The events that were recorded. -/
def recordedEvents (history : List (Occurrence Backend)) : List BackendEvent :=
  history.filterMap Occurrence.event?

/-- The match that an event records. -/
def BackendEvent.matched? : BackendEvent → Option RuleId
  | .matched id => some id
  | _ => none

/-- What is recorded of the evaluation of a rule that has ended. -/
def evaluationEvents (p : Rule × Evaluation) : List BackendEvent :=
  .evaluated p.2.verdict :: (if p.2.matched then p.1.countedAs?.toList else []).map .matched

/-- What is recorded of recommendations that are returned. -/
def servedEvents (recommendations : Origin → List Recommendation) : List BackendEvent :=
  [.served .dynamic (recommendations .dynamic).length,
    .served .static (recommendations .static).length]

/-- The recommendations of the rules that matched. -/
def matchedRecommendations (results : List (Rule × Evaluation)) : List Recommendation :=
  (results.filter (·.2.matched)).map (·.1.recommendation)

/-- What judgements come to that are carried out one after the other, where lookups are given
answers, and the answers that are left over.  A judgement that fails is the last one. -/
def judgeAll {α β : Type} (judge : α → Program Judgement β) :
    List α → List (Except Failure Json) → List (α × β) × List (Except Failure Json)
  | [], answers => ([], answers)
  | a :: rest, answers =>
    match (judge a).given answers with
    | some (.ok b, more) => ((a, b) :: (judgeAll judge rest more).1, (judgeAll judge rest more).2)
    | some (.error _, more) => ([], more)
    | none => ([], [])

/-- What rule sets recommend that are asked behind the evaluation of rules. -/
def findings (catalog : List RuleSet) (user : Uuid) (rules : List Rule)
    (answers : List (Except Failure Json)) : List (RuleSet × Option Recommendation) :=
  (judgeAll (·.recommend user) catalog (judgeAll (·.evaluate user) rules answers).2).1

namespace ServiceCall

/-- What the rule sets recommend that a call asks once it has evaluated the rules. -/
def findings (catalog : List RuleSet) (history : List (Occurrence Backend)) :
    ServiceCall → List (RuleSet × Option Recommendation)
  | .recommend user => Recommender.findings catalog user (listed history) (figures history)
  | .recommendByName _ =>
    (history.findSome? Occurrence.resolved?).elim [] fun user =>
      Recommender.findings catalog user (listed history) (figures history)
  | .add _ | .delete _ => []

/-- The recommendations of a call: those of the rules that matched, and those of the rule sets that
recommend something. -/
def recommendations (catalog : List RuleSet) (history : List (Occurrence Backend))
    (call : ServiceCall) : Origin → List Recommendation
  | .dynamic => matchedRecommendations (call.evaluations history)
  | .static => (call.findings catalog history).filterMap (·.2)

/-- The recommendations in the result of a call. -/
def recommended? : (call : ServiceCall) → call.Result → Option (List Recommendation)
  | .recommend _, recommendations => some recommendations
  | .recommendByName _, (_, recommendations) => some recommendations
  | .add _, _ | .delete _, _ => none

/-- The recommendations that a call has returned. -/
def returned? (call : ServiceCall) (rest : Program Backend call.Result) :
    Option (List Recommendation) :=
  rest.result?.bind call.recommended?

/-- What a call has recorded is what its evaluations leave, followed by what it served if it has
returned; and what it has returned is its recommendations. -/
structure Accounted (catalog : List RuleSet) (call : ServiceCall)
    (history : List (Occurrence Backend)) (rest : Program Backend call.Result) : Prop where
  recorded : recordedEvents history = (call.evaluations history).flatMap evaluationEvents ++
    (call.returned? rest).elim [] fun _ => servedEvents (call.recommendations catalog history)
  returned : ∀ recommendations, call.returned? rest = some recommendations →
    recommendations = call.recommendations catalog history .dynamic ++
      call.recommendations catalog history .static

end ServiceCall

theorem recordedEvents_append (before after : List (Occurrence Backend)) :
    recordedEvents (before ++ after) = recordedEvents before ++ recordedEvents after :=
  List.filterMap_append

/-- A program that is not allowed to record anything records nothing. -/
theorem recordedEvents_of_confined {α : Type} {asks : BackendRequest → Prop}
    {p q : Program Backend α} {history : List (Occurrence Backend)}
    (hp : p.Confined asks fun _ => False) (h : Leads p history q) :
    recordedEvents history = [] := by
  rw [recordedEvents, List.filterMap_eq_nil_iff]
  intro o ho
  have hwithin := hp.within h o ho
  cases o with
  | asked r answer => rfl
  | recorded e => exact hwithin.elim

/-! ## Judgements one after the other -/

section

variable {α β : Type} (judge : α → Program Judgement β) {a : α} {rest : List α}
  {answers : List (Except Failure Json)}

theorem judgeAll_cons_of_given {b : β} {more : List (Except Failure Json)}
    (h : (judge a).given answers = some (.ok b, more)) : judgeAll judge (a :: rest) answers =
      ((a, b) :: (judgeAll judge rest more).1, (judgeAll judge rest more).2) := by
  rw [judgeAll, h]

theorem judgeAll_cons_of_not_given
    (h : ∀ b more, (judge a).given answers ≠ some (.ok b, more)) :
    (judgeAll judge (a :: rest) answers).1 = [] := by
  rw [judgeAll]
  split
  · next b more hgiven => exact absurd hgiven (h b more)
  · rfl
  · rfl

theorem evaluations_eq (user : Uuid) (rules : List Rule) (answers : List (Except Failure Json)) :
    evaluations user rules answers = (judgeAll (·.evaluate user) rules answers).1 := by
  induction rules generalizing answers with
  | nil => rfl
  | cons r rest ih =>
      rw [evaluations, judgeAll]
      split
      · next e more hgiven =>
        rw [hgiven, ih]
      · next hnot =>
        split
        · next e more hgiven => exact absurd hgiven (hnot e more)
        · rfl
        · rfl

end

section

variable {history : List (Occurrence Backend)} {user : Uuid}

/-- To evaluate a rule is to judge it and to record the verdict. -/
theorem judge_evaluate (r : Rule) : Backend.judge (r.evaluate user) =
    (Backend.judge (r.judge user)).bind fun e =>
      .emit (.evaluated e.verdict) (.done { e with ruleId := r.id }) :=
  Program.interpret_bind (J := Backend) _ _ (r.judge user) _

/-- An evaluation has recorded its verdict once it is done, and nothing before. -/
theorem leads_evaluate {r : Rule} {p : Program Backend Evaluation}
    (h : Leads (Backend.judge (r.evaluate user)) history p) (hp : p.Settled) :
    (p.result? = none ∧ recordedEvents history = []) ∨
      ∃ e, p = .done e ∧ recordedEvents history = [.evaluated e.verdict] := by
  have hsilent : (Backend.judge (r.judge user)).Confined (fun _ => True) fun _ => False :=
    confined_judge (fun _ => trivial) (silent_rule_judge user r) fun _ => id
  rw [judge_evaluate] at h
  obtain ⟨p', hp', hnone, rfl⟩ | ⟨before, e, after, rfl, hbefore, hafter⟩ :=
    Program.leads_bind_cases h
  · exact .inl ⟨Program.result?_bind_of_eq_none hnone _, recordedEvents_of_confined hsilent hp'⟩
  · cases hafter with
    | refl => cases hp
    | emit hdone =>
        cases hdone
        refine .inr ⟨_, rfl, ?_⟩
        rw [recordedEvents_append, recordedEvents_of_confined hsilent hbefore]
        rfl

/-! ## Rules and rule sets -/

theorem matchedRecommendations_cons (r : Rule) (e : Evaluation)
    (results : List (Rule × Evaluation)) : matchedRecommendations ((r, e) :: results) =
      if e.matched then r.recommendation :: matchedRecommendations results
      else matchedRecommendations results := by
  cases h : e.matched <;> simp [matchedRecommendations, h]

/-- After a rule is evaluated, its match is recorded, if it matched and has an identifier, and the
other rules are evaluated. -/
theorem leads_after_evaluation {r : Rule} {rest : List Rule} {e : Evaluation}
    {q : Program Backend (List Recommendation)}
    (h : Leads (if e.matched then (do
        recordMatch r.countedAs?
        let others ← dynamicRecommendations user rest
        return r.recommendation :: others) else dynamicRecommendations user rest) history q)
    (hq : q.Settled) :
    ∃ later q', Leads (dynamicRecommendations user rest) later q' ∧ q'.Settled ∧
      q.result? = q'.result?.map (fun others =>
        if e.matched then r.recommendation :: others else others) ∧
      figures history = figures later ∧
      .evaluated e.verdict :: recordedEvents history =
        evaluationEvents (r, e) ++ recordedEvents later := by
  cases hm : e.matched with
  | false =>
      rw [hm] at h
      refine ⟨history, q, h, hq, ?_, rfl, ?_⟩
      · simp
      · simp [evaluationEvents, hm]
  | true =>
      rw [hm, if_pos rfl] at h
      cases hid : r.countedAs? with
      | none =>
          rw [hid] at h
          obtain ⟨q', hq', hsettled, hresult⟩ := Program.leads_map h hq
          refine ⟨history, q', hq', hsettled, hresult, rfl, ?_⟩
          simp [evaluationEvents, hm, hid]
      | some id =>
          rw [hid] at h
          cases h with
          | refl => cases hq
          | emit h =>
              obtain ⟨q', hq', hsettled, hresult⟩ := Program.leads_map h hq
              refine ⟨_, q', hq', hsettled, hresult, rfl, ?_⟩
              simp [evaluationEvents, hm, hid, recordedEvents, Occurrence.event?]

/-- Rules that are evaluated leave what their evaluations leave that have ended.  Once all of them
are evaluated, further answers are left over. -/
theorem leads_dynamicRecommendations {rules : List Rule} {q : Program Backend (List Recommendation)}
    (h : Leads (dynamicRecommendations user rules) history q) (hq : q.Settled) :
    ∃ results, recordedEvents history = results.flatMap evaluationEvents ∧
      ((q.result? = none ∧ (judgeAll (·.evaluate user) rules (figures history)).1 = results) ∨
        (q.result? = some (matchedRecommendations results) ∧
          ∀ more,
            judgeAll (·.evaluate user) rules (figures history ++ more) = (results, more))) := by
  induction rules generalizing history q with
  | nil =>
      cases h
      exact ⟨[], rfl, .inr ⟨rfl, fun _ => rfl⟩⟩
  | cons r rest ih =>
      obtain ⟨p, hp, hnone, rfl⟩ | ⟨before, e, after, rfl, hbefore, hafter⟩ :=
        Program.leads_bind_cases h
      · -- The evaluation of the rule goes on, or has failed.
        have hsettled := hq.of_bind hnone
        obtain ⟨-, hrecorded⟩ | ⟨e, rfl, -⟩ := leads_evaluate hp hsettled
        · have hnot := not_given_of_leads hp hsettled hnone
          exact ⟨[], hrecorded, .inl ⟨Program.result?_bind_of_eq_none hnone _,
            judgeAll_cons_of_not_given (fun r : Rule => r.evaluate user) hnot⟩⟩
        · cases hnone
      · obtain ⟨hnone, -⟩ | ⟨e', he, hverdict⟩ := leads_evaluate hbefore trivial
        · cases hnone
        cases he
        have hgiven := given_of_leads_done hbefore
        obtain ⟨later, q', hlater, hsettled, hresult, hfigures, hrecorded⟩ :=
          leads_after_evaluation hafter hq
        obtain ⟨results, hresults, hcases⟩ := ih hlater hsettled
        refine ⟨(r, e) :: results, ?_, ?_⟩
        · rw [recordedEvents_append, hverdict, List.singleton_append, hrecorded, hresults]
          rfl
        · rw [figures_append, hfigures]
          obtain ⟨hnone, hjudged⟩ | ⟨hsome, hjudged⟩ := hcases
          · left
            rw [hresult, hnone, judgeAll_cons_of_given (fun r : Rule => r.evaluate user) (hgiven _),
              hjudged]
            exact ⟨rfl, rfl⟩
          · right
            rw [hresult, hsome, matchedRecommendations_cons]
            refine ⟨rfl, fun more => ?_⟩
            rw [List.append_assoc,
              judgeAll_cons_of_given (fun r : Rule => r.evaluate user) (hgiven _), hjudged]

/-- Rule sets that are all asked have answered with what they recommend. -/
theorem leads_staticRecommendations {sets : List RuleSet} {recommendations : List Recommendation}
    (h : Leads (staticRecommendations user sets) history (.done recommendations)) :
    recommendations = (judgeAll (·.recommend user) sets (figures history)).1.filterMap (·.2) := by
  induction sets generalizing history recommendations with
  | nil =>
      cases h
      rfl
  | cons set rest ih =>
      obtain ⟨before, o, after, rfl, hbefore, hafter⟩ := Program.leads_bind_done h
      obtain ⟨before', others, after', rfl, hothers, hrest⟩ := Program.leads_bind_done hafter
      cases hrest
      have hgiven : (set.recommend user).given (figures before ++ figures before') =
          some (.ok o, figures before') := given_of_leads_done hbefore _
      rw [List.append_nil, figures_append,
        judgeAll_cons_of_given (fun s : RuleSet => s.recommend user) hgiven, ih hothers]
      cases o <;> rfl

/-- What follows the evaluation of the rules records how many recommendations are returned, and
nothing if none are. -/
theorem leads_afterRules {catalog : List RuleSet} {dynamic : List Recommendation}
    {q : Program Backend (List Recommendation)}
    (h : Leads (do
        let static ← staticRecommendations user catalog
        Backend.record (.served .dynamic dynamic.length)
        Backend.record (.served .static static.length)
        return dynamic ++ static) history q)
    (hq : q.Settled) :
    (q.result? = none ∧ recordedEvents history = []) ∨
      ∃ static, static = (judgeAll (·.recommend user) catalog (figures history)).1.filterMap (·.2) ∧
        q.result? = some (dynamic ++ static) ∧
        recordedEvents history =
          [.served .dynamic dynamic.length, .served .static static.length] := by
  have hsilent : (staticRecommendations user catalog).Confined (fun _ => True) fun _ => False :=
    confined_staticRecommendations (fun _ => trivial) user catalog
  obtain ⟨p, hp, hnone, rfl⟩ | ⟨before, static, after, rfl, hbefore, hafter⟩ :=
    Program.leads_bind_cases (p := staticRecommendations user catalog) h
  · exact .inl ⟨Program.result?_bind_of_eq_none hnone _, recordedEvents_of_confined hsilent hp⟩
  · right
    have hstatic := leads_staticRecommendations hbefore
    rcases hafter with _ | _ | hafter
    · cases hq
    rcases hafter with _ | _ | hafter
    · cases hq
    cases hafter
    refine ⟨static, ?_, rfl, ?_⟩
    · rw [figures_append, hstatic]
      exact congrArg (fun answers => List.filterMap (·.2) (judgeAll _ catalog answers).1)
        (List.append_nil _).symm
    · rw [recordedEvents_append, recordedEvents_of_confined hsilent hbefore]
      rfl

end

/-! ## Calls -/

section

variable {history : List (Occurrence Backend)} {catalog : List RuleSet}

open ServiceCall (Accounted)

/-- A call that has returned no recommendations has recorded what its evaluations leave. -/
theorem accounted_of_returned?_eq_none {call : ServiceCall} {q : Program Backend call.Result}
    (hreturned : call.returned? q = none)
    (hrecorded : recordedEvents history = (call.evaluations history).flatMap evaluationEvents) :
    Accounted catalog call history q where
  recorded := by
    rw [hreturned, hrecorded]
    exact (List.append_nil _).symm
  returned := fun _ h => by
    rw [hreturned] at h
    cases h

theorem accounted_of_result?_eq_none {call : ServiceCall} {q : Program Backend call.Result}
    (hq : q.result? = none)
    (hrecorded : recordedEvents history = (call.evaluations history).flatMap evaluationEvents) :
    Accounted catalog call history q := by
  refine accounted_of_returned?_eq_none ?_ hrecorded
  rw [ServiceCall.returned?, hq]
  rfl

theorem accounted_recommend {user : Uuid} {q : Program Backend (List Recommendation)}
    (h : Leads (recommend catalog user) history q) (hq : q.Settled) :
    Accounted catalog (.recommend user) history q := by
  cases h with
  | refl => exact accounted_of_result?_eq_none rfl rfl
  | @ask _ _ answer after _ h =>
      cases answer with
      | error why =>
          cases h
          exact accounted_of_result?_eq_none rfl rfl
      | ok rules =>
          have hevaluations : (ServiceCall.recommend user).evaluations
              (.asked .listRules (.ok rules) :: after) =
                (judgeAll (·.evaluate user) rules (figures after)).1 := evaluations_eq _ _ _
          have hfindings : (ServiceCall.recommend user).findings catalog
              (.asked .listRules (.ok rules) :: after) =
                (judgeAll (·.recommend user) catalog
                  (judgeAll (·.evaluate user) rules (figures after)).2).1 := rfl
          obtain ⟨p, hp, hnone, rfl⟩ | ⟨before, dynamic, later, rfl, hbefore, hlater⟩ :=
            Program.leads_bind_cases (p := dynamicRecommendations user rules) h
          · obtain ⟨results, hrecorded, ⟨-, hjudged⟩ | ⟨hsome, -⟩⟩ :=
              leads_dynamicRecommendations hp (hq.of_bind hnone)
            · refine accounted_of_result?_eq_none (Program.result?_bind_of_eq_none hnone _) ?_
              rw [hevaluations, hjudged]
              exact hrecorded
            · rw [hnone] at hsome
              cases hsome
          · obtain ⟨results, hrecorded, ⟨hnone, -⟩ | ⟨hsome, hjudged⟩⟩ :=
              leads_dynamicRecommendations hbefore trivial
            · cases hnone
            obtain rfl : dynamic = matchedRecommendations results := Option.some.inj hsome
            rw [figures_append, hjudged] at hevaluations
            rw [figures_append, hjudged] at hfindings
            have happend : recordedEvents (.asked .listRules (.ok rules) :: (before ++ later)) =
                results.flatMap evaluationEvents ++ recordedEvents later := by
              rw [← hrecorded]
              exact recordedEvents_append before later
            obtain ⟨hnone, hquiet⟩ | ⟨static, rfl, hsome, hserved⟩ := leads_afterRules hlater hq
            · refine accounted_of_result?_eq_none hnone ?_
              rw [happend, hquiet, List.append_nil, hevaluations]
            · have hreturned : (ServiceCall.recommend user).returned? q = some _ :=
                congrArg (Option.bind · (ServiceCall.recommend user).recommended?) hsome
              refine ⟨?_, ?_⟩
              · rw [hreturned, happend, hserved, hevaluations]
                simp only [servedEvents, ServiceCall.recommendations, hevaluations, hfindings]
                rfl
              · rw [hreturned]
                simp only [ServiceCall.recommendations, hevaluations, hfindings]
                rintro _ ⟨⟩
                rfl

theorem accounted_recommendByName {name : Json} {q : Program Backend (Uuid × List Recommendation)}
    (h : Leads (recommendByName catalog name) history q) (hq : q.Settled) :
    Accounted catalog (.recommendByName name) history q := by
  rw [recommendByName, resolveUser] at h
  cases hname : name.truthy with
  | false =>
      rw [hname] at h
      cases h
      exact accounted_of_result?_eq_none rfl rfl
  | true =>
      rw [hname] at h
      cases h with
      | refl => exact accounted_of_result?_eq_none rfl rfl
      | @ask _ _ answer after _ h =>
          rcases answer with why | _ | user
          · cases h
            exact accounted_of_result?_eq_none rfl rfl
          · cases h
            exact accounted_of_result?_eq_none rfl rfl
          · obtain ⟨p, hp, hsettled, hresult⟩ :=
              Program.leads_map (p := recommend catalog user) h hq
            have hreturned : (ServiceCall.recommendByName name).returned? q =
                (ServiceCall.recommend user).returned? p := by
              have hbind :=
                congrArg (Option.bind · (ServiceCall.recommendByName name).recommended?) hresult
              refine hbind.trans ?_
              cases p <;> rfl
            obtain ⟨hrecorded, hfound⟩ := accounted_recommend hp hsettled
            rw [← hreturned] at hrecorded hfound
            exact ⟨hrecorded, hfound⟩

/-- **Between its turns, a call has recorded what its evaluations and its result leave.** -/
theorem accounted_of_leads {call : ServiceCall} {q : Program Backend call.Result}
    (h : Leads (call.program catalog) history q) (hq : q.Settled) :
    Accounted catalog call history q := by
  cases call with
  | add r =>
      have hconfined : (addRule r).Confined (fun _ => True) fun _ => False :=
        confined_addRule (fun _ => trivial) (fun _ => trivial) (fun _ => trivial) r
      have hreturned : (ServiceCall.add r).returned? q = none := by
        rw [ServiceCall.returned?]
        cases q.result? <;> rfl
      exact accounted_of_returned?_eq_none hreturned (recordedEvents_of_confined hconfined h)
  | delete id =>
      have hconfined : (deleteRule id).Confined (fun _ => True) fun _ => False :=
        confined_deleteRule (fun _ => trivial) (fun _ => trivial) (fun _ => trivial) id
      have hreturned : (ServiceCall.delete id).returned? q = none := by
        rw [ServiceCall.returned?]
        cases q.result? <;> rfl
      exact accounted_of_returned?_eq_none hreturned (recordedEvents_of_confined hconfined h)
  | recommend user => exact accounted_recommend h hq
  | recommendByName name => exact accounted_recommendByName h hq

/-! ## Matches -/

theorem recordedMatches_eq (history : List (Occurrence Backend)) :
    recordedMatches history = (recordedEvents history).filterMap BackendEvent.matched? := by
  have hmatched : Occurrence.matched? = fun o => o.event?.bind BackendEvent.matched? := by
    funext o
    cases o with
    | asked r answer => rfl
    | recorded e => cases e <;> rfl
  rw [recordedMatches, recordedEvents, List.filterMap_filterMap, hmatched]

theorem matchedIds_eq (results : List (Rule × Evaluation)) :
    matchedIds results = (results.flatMap evaluationEvents).filterMap BackendEvent.matched? := by
  have hevents : ∀ p, (evaluationEvents p).filterMap BackendEvent.matched? =
      (if p.2.matched then p.1.countedAs? else none).toList := by
    intro p
    rw [evaluationEvents]
    cases p.2.matched with
    | false => rfl
    | true => cases p.1.countedAs? <;> rfl
  rw [matchedIds, List.filterMap_flatMap, funext hevents, List.filterMap_eq_flatMap_toList]

/-- **Between its turns, a call has recorded the matches among its evaluations**, each of them
once. -/
theorem recordedMatches_of_leads {call : ServiceCall} {q : Program Backend call.Result}
    (h : Leads (call.program catalog) history q) (hq : q.Settled) :
    recordedMatches history = matchedIds (call.evaluations history) := by
  rw [recordedMatches_eq, matchedIds_eq, (accounted_of_leads h hq).recorded, List.filterMap_append]
  cases call.returned? q <;> simp [servedEvents, BackendEvent.matched?]

end

end Recommender
