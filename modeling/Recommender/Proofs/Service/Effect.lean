import Recommender.Proofs.Program.History
import Recommender.Service.State

/-!
# What requests and events do to the stores

Each occurrence changes the rule store, the match counts and the matches still to be counted in one
way, which depends on the occurrence alone: a request that failed changes nothing.  Whatever a
provider does, and whichever operations are told to fail, a step of an operation *follows* from what
occurred in it.
-/

namespace Recommender

namespace Occurrence

/-- The rule store after an occurrence. -/
def rulesAfter : Occurrence Backend → RuleStore → RuleStore
  | .asked (.saveRule r) (.ok _), s => (s.save r).2
  | .asked (.deleteRule id) (.ok _), s => s.delete id
  | _, s => s

/-- The match counts after an occurrence. -/
def countsAfter : Occurrence Backend → MatchCounts → MatchCounts
  | .asked (.startCount id) (.ok _), m => m.start id
  | .asked (.increment id) (.ok _), m => m.increment id
  | .asked (.dropCount id) (.ok _), m => m.drop id
  | _, m => m

/-- The matches still to be counted after an occurrence. -/
def pendingAfter : Occurrence Backend → List RuleId → List RuleId
  | .recorded (.matched id), ids => ids ++ [id]
  | _, ids => ids

/-- What was answered about the rules of a store is so. -/
def Truthful : Occurrence Backend → RuleStore → Prop
  | .asked (.saveRule _) (.ok n), s => n = s.nextId
  | .asked .listRules (.ok rules), s => rules = s.toList
  | .asked (.ruleExists id) (.ok present), s => present = s.contains id
  | _, _ => True

end Occurrence

namespace ServiceState

/-- The running service with its history. -/
def recorder : Program.Collaborator Backend (Recorded Backend ServiceState) :=
  collaborator.recording

/-- A state follows from another one by an occurrence. -/
structure Follows (o : Occurrence Backend) (s t : Recorded Backend ServiceState) : Prop where
  history : t.history = s.history ++ [o]
  rules : t.state.rules = o.rulesAfter s.state.rules
  counts : t.state.counts = o.countsAfter s.state.counts
  pending : t.state.pending = o.pendingAfter s.state.pending
  truthful : o.Truthful s.state.rules

/-- What is told to fail does nothing, and everything else is done. -/
theorem unlessFaulty_cases {α : Type} (op : Operation) (s : ServiceState)
    (act : ServiceState → α × ServiceState) :
    (∃ e, s.unlessFaulty op act = (.error e, s)) ∨
      s.unlessFaulty op act = (.ok (act s).1, (act s).2) := by
  rw [unlessFaulty]
  cases s.faults.find? op with
  | some e => exact .inl ⟨e, rfl⟩
  | none => exact .inr rfl

/-- Every answered request leads to what follows from it. -/
theorem follows_answer (r : BackendRequest) (s : Recorded Backend ServiceState) :
    Follows (.asked r (recorder.answer r s).1) s (recorder.answer r s).2 := by
  simp only [recorder, Program.Collaborator.recording, collaborator]
  cases r with
  | lookup l => exact ⟨rfl, rfl, rfl, rfl, trivial⟩
  | resolve name => exact ⟨rfl, rfl, rfl, rfl, trivial⟩
  | listCounts =>
      obtain ⟨e, h⟩ | h := unlessFaulty_cases .listCounts s.state fun s => (s.counts.toList, s)
      all_goals
        simp only [answer, h]
        exact ⟨rfl, rfl, rfl, rfl, trivial⟩
  | _ =>
      rw [answer]
      rcases unlessFaulty_cases _ s.state _ with ⟨e, h⟩ | h
      all_goals
        rw [h]
        exact ⟨rfl, rfl, rfl, rfl, by trivial⟩

theorem follows_of_answer {r : BackendRequest} {a : Except Failure r.Answer} {s t : ServiceState}
    (h : s.answer r = (a, t)) : Follows (.asked r a) ⟨s, []⟩ ⟨t, [.asked r a]⟩ := by
  have hfollows := follows_answer r ⟨s, []⟩
  simp only [recorder, Program.Collaborator.recording, collaborator, h] at hfollows
  exact hfollows

/-- Every event leads to what follows from it. -/
theorem follows_notice (e : BackendEvent) (s : Recorded Backend ServiceState) :
    Follows (.recorded e) s (recorder.notice e s) := by
  cases e <;> exact ⟨rfl, rfl, rfl, rfl, trivial⟩

end ServiceState

end Recommender
