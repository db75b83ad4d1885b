import Recommender.Proofs.Catalog.RuleSet
import Recommender.Proofs.Service.Serving

/-!
# Malformed rules and the recommendations of the others

A request for recommendations is looked at against collaborators that raise nothing.  A rule of
which a query is rejected then contributes nothing, as if it were not in the store.  The one
exception is a numeral of too many digits: it is no malformed request but a failure of its own, and
where the judgement of a rule reaches it, the whole request fails.
-/

namespace Recommender

/-- Whether a rule matches a user, where lookups are answered by figures. -/
def Rule.matchesBy (figure : Lookup → Json) (user : Uuid) (r : Rule) : Bool :=
  ((r.evaluate user).against (always figure)).toOption.any (·.matched)

/-- The recommendations of the rules that match. -/
def matching (figure : Lookup → Json) (user : Uuid) (rules : List Rule) : List Recommendation :=
  (rules.filter fun r => r.matchesBy figure user).map Rule.recommendation

/-- The recommendations of the rule sets that hold. -/
def standing (figure : Lookup → Json) (user : Uuid) (catalog : List RuleSet) :
    List Recommendation :=
  catalog.flatMap fun s =>
    ((s.recommend user).against (always figure)).toOption.elim [] Option.toList

/-! ## Rejected queries -/

section

variable {figure : Lookup → Json} {user : Uuid}

/-- A rule that is accepted reaches no numeral of too many digits. -/
theorem not_reachesOverlong_of_accepted {r : Rule} (h : r.accepted = true) :
    ¬ ReachesOverlong figure user r.queryList := by
  rintro ⟨before, q, after, hqs, -, hlong⟩
  have hmem : q ∈ r.queryList := hqs ▸ List.mem_append_right before List.mem_cons_self
  obtain ⟨clause, hclause⟩ := Rule.accepted_iff.mp h q hmem
  exact Query.not_overlong_of_ok hclause hlong

/-- A rule that matches is accepted. -/
theorem accepted_of_matchesBy (hf : SumsAreNumbers figure) {r : Rule}
    (hr : ∀ q ∈ r.queryList, q.IsText) (h : r.matchesBy figure user = true) :
    r.accepted = true := by
  rw [Rule.accepted_iff]
  obtain ⟨-, result, hresult, hmatched⟩ | ⟨-, hfail⟩ := against_evaluate_cases hf user hr
  · rw [Rule.matchesBy, hresult] at h
    intro q hq
    obtain ⟨clause, hclause, -⟩ := (hmatched.mp h).2 q hq
    exact ⟨clause, hclause⟩
  · rw [Rule.matchesBy, hfail] at h
    cases h

/-- Leaving out the rules that are not accepted leaves the matches as they are. -/
theorem matching_filter_accepted (hf : SumsAreNumbers figure) {rules : List Rule}
    (hr : ∀ r ∈ rules, ∀ q ∈ r.queryList, q.IsText) :
    matching figure user (rules.filter Rule.accepted) = matching figure user rules := by
  rw [matching, List.filter_filter, matching]
  congr 1
  refine List.filter_congr fun r hmem => ?_
  cases hmatch : r.matchesBy figure user with
  | false => rfl
  | true => simp [accepted_of_matchesBy hf (hr r hmem) hmatch]

end

/-! ## Requests against collaborators that raise nothing -/

section

variable {σ : Type} {c : Program.Collaborator Backend σ} {Inv : σ → Prop}
  {figure : Lookup → Json} {rules : List Rule}

theorem Serves.yields_recordMatch (h : Serves c Inv figure rules) (id : Option RuleId) :
    Program.Yields c Inv (recordMatch id) (.ok ()) := by
  cases id with
  | some id => exact h.yields_record (.matched id)
  | none => exact Program.yields_done ()

/-- Rules that reach no numeral of too many digits contribute their matches. -/
theorem Serves.yields_dynamic (h : Serves c Inv figure rules) (hf : SumsAreNumbers figure)
    (user : Uuid) {rs : List Rule} (hr : ∀ r ∈ rs, ∀ q ∈ r.queryList, q.IsText)
    (hreach : ∀ r ∈ rs, ¬ ReachesOverlong figure user r.queryList) :
    Program.Yields c Inv (dynamicRecommendations user rs) (.ok (matching figure user rs)) := by
  induction rs with
  | nil => exact Program.yields_done []
  | cons r rest ih =>
      rw [List.forall_mem_cons] at hr hreach
      have hrest := ih hr.2 hreach.2
      obtain ⟨result, hresult⟩ : ∃ result,
          (r.evaluate user).against (always figure) = .ok result := by
        obtain ⟨-, result, hresult, -⟩ | ⟨hnot, -⟩ := against_evaluate_cases hf user hr.1
        · exact ⟨result, hresult⟩
        · exact absurd hnot hreach.1
      have hjudge := h.yields_judge (r.evaluate user)
      have hmatches : r.matchesBy figure user = result.matched := by
        rw [Rule.matchesBy, hresult]
        rfl
      rw [hresult] at hjudge
      refine hjudge.bind ?_
      cases hm : result.matched with
      | true =>
          have hmatching : matching figure user (r :: rest) =
              r.recommendation :: matching figure user rest := by
            rw [matching, List.filter_cons_of_pos (hmatches.trans hm), List.map_cons, matching]
          rw [hmatching]
          exact (h.yields_recordMatch r.countedAs?).bind (hrest.bind (Program.yields_done _))
      | false =>
          have hmatching : matching figure user (r :: rest) = matching figure user rest := by
            rw [matching, List.filter_cons_of_neg (by simp [hmatches, hm]), matching]
          rw [hmatching]
          exact hrest

/-- One rule that reaches a numeral of too many digits fails all of them. -/
theorem Serves.yields_dynamic_error (h : Serves c Inv figure rules) (hf : SumsAreNumbers figure)
    (user : Uuid) {rs : List Rule} (hr : ∀ r ∈ rs, ∀ q ∈ r.queryList, q.IsText)
    (hreach : ∃ r ∈ rs, ReachesOverlong figure user r.queryList) :
    Program.Yields c Inv (dynamicRecommendations user rs) (.error .unreadable) := by
  induction rs with
  | nil =>
      obtain ⟨r, hr, -⟩ := hreach
      cases hr
  | cons r rest ih =>
      rw [List.forall_mem_cons] at hr
      have hjudge := h.yields_judge (r.evaluate user)
      obtain ⟨hnot, result, hresult, -⟩ | ⟨-, hfail⟩ := against_evaluate_cases hf user hr.1
      · -- The head is judged to the end, so the rule in question is one of the others.
        have hrest : ∃ r ∈ rest, ReachesOverlong figure user r.queryList := by
          obtain ⟨r', hmem, hlong⟩ := hreach
          obtain rfl | hmem := List.mem_cons.mp hmem
          · exact absurd hlong hnot
          · exact ⟨r', hmem, hlong⟩
        rw [hresult] at hjudge
        refine hjudge.bind ?_
        cases hm : result.matched with
        | true => exact (h.yields_recordMatch r.countedAs?).bind (ih hr.2 hrest).bind_error
        | false => exact ih hr.2 hrest
      · rw [hfail] at hjudge
        exact hjudge.bind_error

theorem Serves.yields_static (h : Serves c Inv figure rules) (hf : SumsAreNumbers figure)
    (user : Uuid) {catalog : List RuleSet} (hs : ∀ s ∈ catalog, s.IsDefined) :
    Program.Yields c Inv (staticRecommendations user catalog)
      (.ok (standing figure user catalog)) := by
  induction catalog with
  | nil => exact Program.yields_done []
  | cons s rest ih =>
      rw [List.forall_mem_cons] at hs
      obtain ⟨o, ho⟩ : ∃ o, (s.recommend user).against (always figure) = .ok o :=
        ⟨_, against_recommend (hf.deposits · user) (hf.withdrawals · user) hs.1⟩
      have hjudge := h.yields_judge (s.recommend user)
      have hstanding : standing figure user (s :: rest) =
          o.toList ++ standing figure user rest := by
        rw [standing, List.flatMap_cons, ho]
        rfl
      rw [ho] at hjudge
      rw [hstanding]
      exact hjudge.bind ((ih hs.2).bind (Program.yields_done _))

/-- A request for recommendations that reaches no numeral of too many digits ends with them. -/
theorem Serves.yields_recommend (h : Serves c Inv figure rules) (hf : SumsAreNumbers figure)
    (user : Uuid) {catalog : List RuleSet} (hs : ∀ s ∈ catalog, s.IsDefined)
    (hr : ∀ r ∈ rules, ∀ q ∈ r.queryList, q.IsText)
    (hreach : ∀ r ∈ rules, ¬ ReachesOverlong figure user r.queryList) :
    Program.Yields c Inv (recommend catalog user)
      (.ok (matching figure user rules ++ standing figure user catalog)) := by
  have hlist : Program.Yields c Inv Backend.listRules (.ok rules) :=
    Program.yields_request h.listRules
  have hdynamic := h.yields_dynamic hf user hr hreach
  have hstatic := h.yields_static hf user hs
  exact hlist.bind (hdynamic.bind (hstatic.bind
    ((h.yields_record _).bind ((h.yields_record _).bind (Program.yields_done _)))))

/-- A request for recommendations that reaches a numeral of too many digits fails. -/
theorem Serves.yields_recommend_error (h : Serves c Inv figure rules) (hf : SumsAreNumbers figure)
    (user : Uuid) (catalog : List RuleSet) (hr : ∀ r ∈ rules, ∀ q ∈ r.queryList, q.IsText)
    (hreach : ∃ r ∈ rules, ReachesOverlong figure user r.queryList) :
    Program.Yields c Inv (recommend catalog user) (.error .unreadable) := by
  have hlist : Program.Yields c Inv Backend.listRules (.ok rules) :=
    Program.yields_request h.listRules
  exact hlist.bind (h.yields_dynamic_error hf user hr hreach).bind_error

end

/-- **A malformed rule never blocks the others, but for a numeral of too many digits.**  Let the
rules of a store be of texts, and the collaborators raise nothing.  A request for recommendations
returns normally exactly if no rule of the store reaches a numeral of too many digits, and fails
otherwise.  Over the store without the rules that are not accepted, it always returns normally; and
with the same recommendations, if it does so over the whole store.  And a rule with a query that is
rejected is evaluated to the end without a match, unless it reaches such a numeral. -/
theorem recommend_returns_unless_overlong {σ σ' : Type} {c : Program.Collaborator Backend σ}
    {c' : Program.Collaborator Backend σ'} {Inv : σ → Prop} {Inv' : σ' → Prop}
    {figure : Lookup → Json} {rules : List Rule} (h : Serves c Inv figure rules)
    (h' : Serves c' Inv' figure (rules.filter Rule.accepted)) (hf : SumsAreNumbers figure)
    (hr : ∀ r ∈ rules, ∀ q ∈ r.queryList, q.IsText) {catalog : List RuleSet}
    (hs : ∀ s ∈ catalog, s.IsDefined) (user : Uuid) {s : σ} {s' : σ'} (hi : Inv s) (hi' : Inv' s') :
    ((∃ recs, ((recommend catalog user).run c s).1 = .ok recs) ↔
      ∀ r ∈ rules, ¬ ReachesOverlong figure user r.queryList) ∧
    ((∃ r ∈ rules, ReachesOverlong figure user r.queryList) →
      ((recommend catalog user).run c s).1 = .error .unreadable) ∧
    (∃ recs, ((recommend catalog user).run c' s').1 = .ok recs ∧
      ((∀ r ∈ rules, ¬ ReachesOverlong figure user r.queryList) →
        ((recommend catalog user).run c s).1 = .ok recs)) ∧
    (∀ r : Rule, (∀ q ∈ r.queryList, q.IsText) → r.accepted = false →
      ¬ ReachesOverlong figure user r.queryList →
      ∃ result, ((Backend.judge (r.evaluate user)).run c s).1 = .ok result ∧
        result.matched = false) := by
  have hreturns := fun hreach => (h.yields_recommend hf user hs hr hreach s hi).1
  have hfails := fun hreach => (h.yields_recommend_error hf user catalog hr hreach s hi).1
  refine ⟨⟨?_, fun hreach => ⟨_, hreturns hreach⟩⟩, hfails, ?_, ?_⟩
  · rintro ⟨recs, hrecs⟩ r hmem hreach
    rw [hfails ⟨r, hmem, hreach⟩] at hrecs
    cases hrecs
  · have hr' : ∀ r ∈ rules.filter Rule.accepted, ∀ q ∈ r.queryList, q.IsText :=
      fun r hmem => hr r (List.mem_filter.mp hmem).1
    have hreach' : ∀ r ∈ rules.filter Rule.accepted, ¬ ReachesOverlong figure user r.queryList :=
      fun r hmem => not_reachesOverlong_of_accepted (List.mem_filter.mp hmem).2
    have hkept := (h'.yields_recommend hf user hs hr' hreach' s' hi').1
    rw [matching_filter_accepted hf hr] at hkept
    exact ⟨_, hkept, hreturns⟩
  · intro r htext hrejected hreach
    have hjudge := (h.yields_judge (r.evaluate user) s hi).1
    obtain ⟨-, result, hresult, -⟩ | ⟨hlong, -⟩ := against_evaluate_cases hf user htext
    · refine ⟨result, by rw [hjudge, hresult], ?_⟩
      have hmatches : r.matchesBy figure user = result.matched := by
        rw [Rule.matchesBy, hresult]
        rfl
      rw [← hmatches, Bool.eq_false_iff]
      intro hm
      rw [accepted_of_matchesBy hf htext hm] at hrejected
      cases hrejected
    · exact absurd hlong hreach

/-- A rule that compares a sum with a numeral of one digit too many. -/
def blocking : Rule :=
  .sample "Blocking" (.int 1) [.ofTexts "TRANSACTION_SUM_COMPARE"
    ["DEBIT", "DEPOSIT", ">", String.ofList (List.replicate 4301 '1')] false]

/-- A rule that is accepted. -/
def working : Rule :=
  .sample "Working" (.int 2) [.ofTexts "USER_OF" ["DEBIT"] true]

/-- A service whose store has both rules. -/
def blockedService : ServiceState where
  rules := (({} : RuleStore).place (.number 1) blocking).place (.number 2) working

/-- A service whose store has the accepted rule only. -/
def freedService : ServiceState where
  rules := ({} : RuleStore).place (.number 2) working

theorem overlong_of_mem_blocking {q : Query} (h : q ∈ blocking.queryList) : q.Overlong := by
  cases List.mem_singleton.mp h
  exact ⟨.debit, .deposit, .greater, ">", _, rfl, rfl, .inr rfl,
    Numeral.overlong_replicate (by decide)⟩

theorem reachesOverlong_blocking (figure : Lookup → Json) (user : Uuid) :
    ReachesOverlong figure user blocking.queryList :=
  ⟨[], _, [], rfl, nofun, overlong_of_mem_blocking List.mem_cons_self⟩

theorem filter_accepted_blocked : [blocking, working].filter Rule.accepted = [working] := by
  have hblocking : ¬ blocking.accepted = true := fun h =>
    not_reachesOverlong_of_accepted h (reachesOverlong_blocking (fun _ => .null) default)
  rw [List.filter_cons_of_neg hblocking]
  rfl

theorem recommend_returns_unless_overlong_blocked :
    (blockedService.perform (recommend Catalog.all default)).1 = .error .unreadable ∧
      ∃ recs, (freedService.perform (recommend Catalog.all default)).1 = .ok recs := by
  let figure := fun l => (({} : Figures).answer l).toOption.getD .null
  have hanswer : ∀ l, ({} : Figures).answer l = .ok (figure l) := by
    intro l
    cases l with
    | turnover p d user => cases d <;> rfl
    | _ => rfl
  have hsums : SumsAreNumbers figure :=
    ⟨fun p d user => by cases d <;> rfl, fun p user => rfl, fun p user => rfl⟩
  have hcaches : ∀ c, some ({} : Caches) = some c → c.Remembers figure := by
    intro c hc
    cases hc
    exact Caches.remembers_start figure
  have htext : ∀ r ∈ [blocking, working], ∀ q ∈ r.queryList, q.IsText := by
    intro r hr q hq
    simp only [List.mem_cons, List.not_mem_nil, or_false] at hr
    obtain rfl | rfl := hr
    · cases List.mem_singleton.mp hq
      exact ⟨_, _, rfl, rfl⟩
    · cases List.mem_singleton.mp hq
      exact ⟨_, _, rfl, rfl⟩
  have hfreed : Serves ServiceState.collaborator (ServiceState.Steady {} figure [working]) figure
      ([blocking, working].filter Rule.accepted) := by
    rw [filter_accepted_blocked]
    exact serves_steady hanswer [working]
  have hsteady : blockedService.Steady {} figure [blocking, working] :=
    ⟨rfl, fun g => rfl, rfl, hcaches, rfl⟩
  have hsteady' : freedService.Steady {} figure [working] :=
    ⟨rfl, fun g => rfl, rfl, hcaches, rfl⟩
  obtain ⟨-, hfails, ⟨recs, hrecs, -⟩, -⟩ := recommend_returns_unless_overlong
    (serves_steady hanswer [blocking, working]) hfreed hsums htext
    (fun s => Catalog.isDefined_of_mem_all) default hsteady hsteady'
  have hreach := reachesOverlong_blocking figure default
  exact ⟨hfails ⟨blocking, List.mem_cons_self, hreach⟩, recs, hrecs⟩

end Recommender
