import Recommender.Proofs.Aggregate.Key
import Recommender.Proofs.Rule.Evaluation
import Recommender.Service.State

/-!
# Collaborators that raise nothing

A collaborator of the service *serves* figures and rules if it answers every lookup by its figure
and lists the rules, for as long as its state keeps an invariant.  The running service does so by
itself where no fault is in the way: its provider works from the figures, and what its memos
remember are these figures.
-/

namespace Recommender

/-- As long as its state keeps an invariant, a collaborator of the service answers every lookup by
its figure and lists given rules. -/
structure Serves {σ : Type} (c : Program.Collaborator Backend σ) (Inv : σ → Prop)
    (figure : Lookup → Json) (rules : List Rule) : Prop where
  lookup : ∀ l s, Inv s →
    (c.answer (.lookup l) s).1 = .ok (figure l) ∧ Inv (c.answer (.lookup l) s).2
  listRules : ∀ s, Inv s → (c.answer .listRules s).1 = .ok rules ∧ Inv (c.answer .listRules s).2
  notice : ∀ e s, Inv s → Inv (c.notice e s)

/-- The collaborator of a judgement that a collaborator of the service makes. -/
def judging {σ : Type} (c : Program.Collaborator Backend σ) :
    Program.Collaborator Judgement σ where
  answer := fun l s => c.answer (.lookup l) s
  notice := fun v s => c.notice (.evaluated v) s

section

variable {σ : Type} {c : Program.Collaborator Backend σ} {Inv : σ → Prop}
  {figure : Lookup → Json} {rules : List Rule}

/-- A judgement is carried out by the collaborator that makes it. -/
theorem run_judge (c : Program.Collaborator Backend σ) {α : Type} (p : Program Judgement α)
    (s : σ) : (Backend.judge p).run c s = p.run (judging c) s :=
  Program.run_interpret (d := judging c)
    (fun l s => Program.run_request c (BackendRequest.lookup l) s) (fun _ _ => rfl) p s

/-- A judgement ends as the figures say. -/
theorem Serves.yields_judge (h : Serves c Inv figure rules) {α : Type} (p : Program Judgement α) :
    Program.Yields c Inv (Backend.judge p) (p.against (always figure)) := by
  have hyields : Program.Yields (judging c) Inv p (p.against (always figure)) :=
    Program.yields_against h.lookup (fun v => h.notice (.evaluated v)) p
  intro s hs
  rw [run_judge]
  exact hyields s hs

theorem Serves.yields_record (h : Serves c Inv figure rules) (e : BackendEvent) :
    Program.Yields c Inv (Backend.record e) (.ok ()) :=
  Program.yields_record (h.notice e)

end

/-! ## The running service -/

/-- What a collection of memos remembers are given figures, and no load is in flight. -/
structure Caches.Remembers (c : Caches) (figure : Lookup → Json) : Prop where
  settled : ∀ g, (c.memo g).inFlight = []
  figure_eq : ∀ l v, Assoc.find? l.key (c.memo l.family).entries = some v → figure l = v

theorem Caches.remembers_start (figure : Lookup → Json) : ({} : Caches).Remembers figure where
  settled := fun _ => rfl
  figure_eq := fun l v h => by cases h

theorem Caches.Remembers.set {c : Caches} {figure : Lookup → Json} (h : c.Remembers figure)
    {g : Family} {m : Memo Json} (hm : m.inFlight = [])
    (he : ∀ l v, l.family = g → Assoc.find? l.key m.entries = some v → figure l = v) :
    (c.set g m).Remembers figure where
  settled := fun g' => by
    by_cases hg : g' = g
    · rw [hg, memo_set_self, hm]
    · rw [memo_set_ne c hg, h.settled]
  figure_eq := fun l v hl => by
    by_cases hg : l.family = g
    · rw [hg, memo_set_self] at hl
      exact he l v hg hl
    · rw [memo_set_ne c hg] at hl
      exact h.figure_eq l v hl

/-- A lookup is answered by its figure, from memory or by the provider, if the provider answers it
so. -/
theorem Caches.Remembers.answer {σ : Type} {c : Caches} {figure : Lookup → Json}
    (h : c.Remembers figure) {provider : Lookup → σ → Except Failure Json × σ} {l : Lookup} {s : σ}
    (hp : (provider l s).1 = .ok (figure l)) :
    ∃ c' s', c.answer provider l s = (.ok (figure l), c', s') ∧ c'.Remembers figure ∧
      (s' = s ∨ s' = (provider l s).2) := by
  cases hfind : Assoc.find? l.key (c.memo l.family).entries with
  | some v =>
      obtain ⟨m, hm, he, hf⟩ := answer_of_remembered hfind provider s
      refine ⟨c.set l.family m, s, ?_, h.set (by rw [hf, h.settled]) ?_, .inl rfl⟩
      · rw [hm, h.figure_eq l v hfind]
      · intro l' v' hg hl'
        rw [he, ← hg] at hl'
        exact h.figure_eq l' v' hl'
  | none =>
      have hlacks : (c.memo l.family).Lacks l.key :=
        ⟨hfind, by rw [h.settled, Assoc.find?_nil]⟩
      obtain ⟨m, hm, he, hf⟩ := answer_of_lacks hlacks provider s
      rw [hp] at hm he
      refine ⟨c.set l.family m, _, hm, h.set (by rw [hf, h.settled]; rfl) ?_, .inr rfl⟩
      intro l' v' hg hl'
      have hput : m.entries = Assoc.put l.key (figure l) (c.memo l.family).entries := he
      rw [hput] at hl'
      by_cases hk : l'.key = l.key
      · rw [hk, Assoc.find?_put_self, Option.some.injEq] at hl'
        rw [Lookup.eq_of_key_eq hg hk, hl']
      · rw [Assoc.find?_put_ne hk, ← hg] at hl'
        exact h.figure_eq l' v' hl'

/-- The provider works from figures, no operation in question is told to fail, the memos remember
the figures, and the store has given rules. -/
structure ServiceState.Steady (f : Figures) (figure : Lookup → Json) (rules : List Rule)
    (s : ServiceState) : Prop where
  source : s.desk.provider.source = .figures f
  lookup : ∀ g, s.faults.find? (.lookup g) = none
  listRules : s.faults.find? .listRules = none
  caches : ∀ c, s.desk.caches = some c → c.Remembers figure
  rules : s.rules.toList = rules

namespace ServiceState.Steady

variable {f : Figures} {figure : Lookup → Json} {rules : List Rule} {s : ServiceState}

theorem provider_answer (h : s.Steady f figure rules) (hf : ∀ l, f.answer l = .ok (figure l))
    (l : Lookup) : s.desk.provider.answer l =
      (.ok (figure l), s.desk.provider.called (.lookup l)) := by
  have hfault : s.desk.provider.faults.find? (.lookup l.family) = none := h.lookup l.family
  rw [Provider.answer, Provider.answerCall, hfault, h.source, ← hf]
  rfl

/-- A call that reaches the provider leaves the service steady. -/
theorem of_called (h : s.Steady f figure rules) {p : Provider} {l : Lookup}
    (hp : p = s.desk.provider ∨ p = s.desk.provider.called (.lookup l)) {caches : Option Caches}
    (hc : ∀ c, caches = some c → c.Remembers figure) :
    Steady f figure rules { s with desk := ⟨p, caches⟩ } := by
  obtain rfl | rfl := hp
  · exact ⟨h.source, h.lookup, h.listRules, hc, h.rules⟩
  · exact ⟨h.source, h.lookup, h.listRules, hc, h.rules⟩

theorem answer_lookup (h : s.Steady f figure rules) (hf : ∀ l, f.answer l = .ok (figure l))
    (l : Lookup) :
    (s.answer (.lookup l)).1 = .ok (figure l) ∧
      Steady f figure rules (s.answer (.lookup l)).2 := by
  have hprovider := h.provider_answer hf l
  cases hcaches : s.desk.caches with
  | none =>
      have hdesk : s.desk.answer l =
          (.ok (figure l), ⟨s.desk.provider.called (.lookup l), none⟩) := by
        rw [Desk.answer, hcaches]
        simp only [hprovider]
      rw [ServiceState.answer, hdesk]
      exact ⟨rfl, h.of_called (.inr rfl) nofun⟩
  | some c =>
      have hvalue : (s.desk.provider.answer l).1 = .ok (figure l) := congrArg Prod.fst hprovider
      obtain ⟨c', p, hanswer, hremembers, hp⟩ := (h.caches c hcaches).answer hvalue
      have hdesk : s.desk.answer l = (.ok (figure l), ⟨p, some c'⟩) := by
        rw [Desk.answer, hcaches]
        simp only [hanswer]
      rw [hprovider] at hp
      rw [ServiceState.answer, hdesk]
      refine ⟨rfl, h.of_called hp ?_⟩
      intro c'' hc
      cases hc
      exact hremembers

theorem answer_listRules (h : s.Steady f figure rules) :
    s.answer .listRules = (.ok rules, s) := by
  rw [ServiceState.answer, unlessFaulty, h.listRules, h.rules]

theorem notice (h : s.Steady f figure rules) (e : BackendEvent) :
    (s.notice e).Steady f figure rules := by
  cases e with
  | evaluated v => exact ⟨h.source, h.lookup, h.listRules, h.caches, h.rules⟩
  | matched id => exact ⟨h.source, h.lookup, h.listRules, h.caches, h.rules⟩
  | served origin n => exact ⟨h.source, h.lookup, h.listRules, h.caches, h.rules⟩

end ServiceState.Steady

/-- **The running service serves** its figures and rules while it is steady. -/
theorem serves_steady {f : Figures} {figure : Lookup → Json} (hf : ∀ l, f.answer l = .ok (figure l))
    (rules : List Rule) :
    Serves ServiceState.collaborator (ServiceState.Steady f figure rules) figure rules where
  lookup := fun l s h => h.answer_lookup hf l
  listRules := fun s h => by
    have hanswer : ServiceState.collaborator.answer .listRules s = (.ok rules, s) :=
      h.answer_listRules
    rw [hanswer]
    exact ⟨rfl, h⟩
  notice := fun e s h => h.notice e

end Recommender
