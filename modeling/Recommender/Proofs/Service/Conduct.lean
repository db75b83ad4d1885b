import Recommender.Proofs.Service.Ledger

/-!
# The operations of the service are in order

Each operation, from whatever state it is called in, asks and records only what is in order,
however the others go on between its requests: what it has learned about the stores stays true.
-/

namespace Recommender

namespace ServiceState

open Program

variable {s : Recorded Backend ServiceState}

/-- Nothing is said of a result. -/
abbrev Anyhow {α : Type} : α → Recorded Backend ServiceState → Prop :=
  fun _ _ => True

/-- A program keeps to the ledger, whatever it ends with. -/
abbrev Proper {α : Type} (p : Program Backend α) (s : Recorded Backend ServiceState) : Prop :=
  p.Abides ledger Anyhow s

/-- A request that is always in order. -/
theorem proper_request {r : BackendRequest} (h : r.InOrder s.state.rules) :
    Proper (request (I := Backend) r) s :=
  abides_request h fun _ _ _ _ _ => trivial

/-- Whatever is asked of a provider is in order. -/
theorem proper_judge {α : Type} (p : Program Judgement α) (s : Recorded Backend ServiceState) :
    Proper (Backend.judge p) s := by
  rw [Backend.judge]
  induction p generalizing s with
  | done a => trivial
  | raise e => trivial
  | ask l next ih =>
      have hlookup : Proper (request (I := Backend) (.lookup l)) s := proper_request trivial
      exact hlookup.attempt.bind fun t answer _ _ => ih answer t
  | emit v next ih =>
      have hrecord : Proper (Backend.record (.evaluated v)) s := abides_record trivial trivial
      exact hrecord.bind fun t _ _ _ => ih t

/-! ## Adding and deleting rules -/

/-- A saved rule has been handed a number. -/
theorem abides_saveRule {r : Rule} (h : r.accepted = true) (s : Recorded Backend ServiceState) :
    (Backend.saveRule r).Abides ledger (fun n t => t.state.rules.Issued n) s := by
  refine abides_request h fun t n ht _ hn => ?_
  have hfollows := follows_answer (.saveRule r) t
  rw [hn] at hfollows
  obtain rfl : n = t.state.rules.nextId := hfollows.truthful
  rw [hfollows.rules]
  exact ⟨ht.numbered.rules.first, Int.lt_succ _⟩

/-- An identifier that has a rule was handed out. -/
theorem abides_ruleExists (id : RuleId) (s : Recorded Backend ServiceState) :
    (Backend.ruleExists id).Abides ledger
      (fun present t => present = true → ∃ n, id.key = .number n ∧ t.state.rules.Issued n) s := by
  have hask : ledger.MayAsk (.ruleExists id) s := trivial
  refine abides_request hask fun t present ht _ hanswer hpresent => ?_
  have hfollows := follows_answer (.ruleExists id) t
  rw [hanswer] at hfollows
  obtain rfl : present = t.state.rules.contains id := hfollows.truthful
  rw [hfollows.rules]
  exact ht.numbered.rules.issued_of_contains hpresent

/-- Once it is deleted, a rule that was handed out is retired. -/
theorem abides_deleteRule {id : RuleId} (h : ∃ n, id.key = .number n ∧ s.state.rules.Issued n) :
    (Backend.deleteRule id).Abides ledger (fun _ t => t.state.rules.Retired id) s := by
  have hask : ledger.MayAsk (.deleteRule id) s := trivial
  refine abides_request hask fun t a _ hst hanswer => ?_
  have hfollows := follows_answer (.deleteRule id) t
  rw [hanswer] at hfollows
  obtain ⟨n, hkey, hn⟩ := h
  rw [hfollows.rules]
  exact RuleStore.retired_delete ⟨n, hkey, hst.issued hn⟩

theorem proper_storeRule {r : Rule} (h : r.accepted = true) (s : Recorded Backend ServiceState) :
    Proper (storeRule r) s := by
  refine (abides_saveRule h s).bind fun t n _ hn => ?_
  have hstart : Proper (Backend.startCount n) t := proper_request ⟨n, rfl, hn⟩
  refine hstart.attempt.bind fun u started _ _ => ?_
  cases started with
  | ok _ => trivial
  | error e =>
      have hundo : Proper (Backend.deleteRule n) u := proper_request trivial
      exact hundo.bind fun _ _ _ _ => trivial

theorem proper_addRule (r : Rule) (s : Recorded Backend ServiceState) : Proper (addRule r) s := by
  rw [addRule]
  split
  · trivial
  · cases hv : r.validate with
    | error e => trivial
    | ok clauses => exact proper_storeRule (Rule.accepted_of_validate hv) s

theorem proper_deleteRule (id : RuleId) (s : Recorded Backend ServiceState) :
    Proper (deleteRule id) s := by
  refine (abides_ruleExists id s).bind fun t present _ hpresent => ?_
  cases present with
  | false => trivial
  | true => exact (abides_deleteRule (hpresent rfl)).bind fun u _ _ hgone => proper_request hgone

/-! ## Recommending -/

/-- Rules have numbers that were handed out. -/
def Known (rules : List Rule) (s : Recorded Backend ServiceState) : Prop :=
  ∀ r ∈ rules, ∃ n, r.id = .int n ∧ s.state.rules.Issued n

theorem Known.later {rules : List Rule} {t : Recorded Backend ServiceState} (h : Known rules s)
    (hst : Later s t) : Known rules t := by
  intro r hr
  obtain ⟨n, hid, hn⟩ := h r hr
  exact ⟨n, hid, hst.issued hn⟩

/-- Listed rules have numbers that were handed out. -/
theorem abides_listRules (s : Recorded Backend ServiceState) :
    Backend.listRules.Abides ledger Known s := by
  have hask : ledger.MayAsk .listRules s := trivial
  refine abides_request hask fun t rules ht _ hanswer r hr => ?_
  have hfollows := follows_answer .listRules t
  rw [hanswer] at hfollows
  obtain rfl : rules = t.state.rules.toList := hfollows.truthful
  rw [hfollows.rules]
  exact ht.numbered.rules.issued_of_mem hr

theorem proper_recordMatch {r : Rule} (h : ∃ n, r.id = .int n ∧ s.state.rules.Issued n) :
    Proper (recordMatch r.countedAs?) s := by
  obtain ⟨n, hid, hn⟩ := h
  have hcounted : r.countedAs? = some (.number n) := by
    rw [Rule.countedAs?, hid]
    rfl
  rw [hcounted]
  exact abides_record ⟨n, rfl, hn⟩ trivial

theorem proper_dynamicRecommendations (user : Uuid) {rules : List Rule} (h : Known rules s) :
    Proper (dynamicRecommendations user rules) s := by
  induction rules generalizing s with
  | nil => trivial
  | cons r rest ih =>
      rw [dynamicRecommendations]
      refine (proper_judge (r.evaluate user) s).bind fun t result hst _ => ?_
      obtain ⟨hr, hrest⟩ := List.forall_mem_cons.mp (h.later hst)
      split
      · refine (proper_recordMatch hr).bind fun u _ htu _ => ?_
        have hothers : Known rest u := Known.later hrest htu
        exact (ih hothers).bind fun _ _ _ _ => trivial
      · exact ih hrest

theorem proper_staticRecommendations (user : Uuid) (catalog : List RuleSet)
    (s : Recorded Backend ServiceState) : Proper (staticRecommendations user catalog) s := by
  induction catalog generalizing s with
  | nil => trivial
  | cons rs rest ih =>
      exact (proper_judge (rs.recommend user) s).bind fun t _ _ _ =>
        (ih t).bind fun _ _ _ _ => trivial

theorem proper_recommend (catalog : List RuleSet) (user : Uuid)
    (s : Recorded Backend ServiceState) : Proper (recommend catalog user) s := by
  refine (abides_listRules s).bind fun t rules _ hrules => ?_
  refine (proper_dynamicRecommendations user hrules).bind fun u dynamic _ _ => ?_
  refine (proper_staticRecommendations user catalog u).bind fun v static _ _ => ?_
  exact ⟨trivial, trivial, trivial⟩

theorem proper_recommendByName (catalog : List RuleSet) (name : Json)
    (s : Recorded Backend ServiceState) : Proper (recommendByName catalog name) s := by
  have hresolve : Proper (resolveUser name) s := by
    rw [resolveUser]
    split
    · have hname : Proper (Backend.resolve name) s := proper_request trivial
      exact hname.bind fun _ _ _ _ => abides_ofOption _ fun _ _ => trivial
    · trivial
  exact hresolve.bind fun t user _ _ =>
    (proper_recommend catalog user t).bind fun _ _ _ _ => trivial

end ServiceState

end Recommender
