import Recommender.Proofs.Program.History

/-!
# Programs among others

Between two requests of a program others may change the state that they share.  A *discipline* says
which states are valid, which state may come after which, and what may be asked and recorded in
which state; whatever is allowed leads from a valid state to a later valid one.  A program *abides*
by a discipline from a state on if it asks and records only what is allowed, however the state
changes to a later one before each of its requests.

The rules for composing such programs carry what a program has learned, as a condition on its result
and the state in which it ends.
-/

namespace Recommender.Program

variable {I : Interface} {α β σ : Type} {c : Collaborator I σ}

/-- What is allowed among programs that share a collaborator. -/
structure Discipline (c : Collaborator I σ) where
  Valid : σ → Prop
  /-- The second state may come after the first one. -/
  Later : σ → σ → Prop
  MayAsk : I.Request → σ → Prop
  MayRecord : I.Event → σ → Prop
  refl : ∀ s, Later s s
  trans : ∀ {s t u}, Later s t → Later t u → Later s u
  mayAsk_later : ∀ {r s t}, Later s t → MayAsk r s → MayAsk r t
  mayRecord_later : ∀ {e s t}, Later s t → MayRecord e s → MayRecord e t
  answer : ∀ {r s}, Valid s → MayAsk r s → Valid (c.answer r s).2 ∧ Later s (c.answer r s).2
  notice : ∀ {e s}, Valid s → MayRecord e s → Valid (c.notice e s) ∧ Later s (c.notice e s)

/-- From a state on, a program asks and records only what is allowed, and if it is done, its result
and the last state meet a condition. -/
def Abides (d : Discipline c) (Q : α → σ → Prop) : Program I α → σ → Prop
  | .done a, s => Q a s
  | .raise _, _ => True
  | .ask r next, s => d.MayAsk r s ∧
      ∀ t, d.Valid t → d.Later s t → (next (c.answer r t).1).Abides d Q (c.answer r t).2
  | .emit e next, s => d.MayRecord e s ∧ next.Abides d Q s

/-- A condition that holds is not lost in later states. -/
def Discipline.Keeps (d : Discipline c) (Q : α → σ → Prop) : Prop :=
  ∀ {a s t}, d.Later s t → Q a s → Q a t

namespace Abides

variable {d : Discipline c} {Q : α → σ → Prop} {R : β → σ → Prop} {s t : σ}

/-- A program still abides if its next request comes later. -/
theorem later {p : Program I α} (h : p.Abides d Q s) (hQ : d.Keeps Q) (hst : d.Later s t) :
    p.Abides d Q t := by
  induction p with
  | done a => exact hQ hst h
  | raise e => trivial
  | ask r next ih =>
      exact ⟨d.mayAsk_later hst h.1, fun u hu htu => h.2 u hu (d.trans hst htu)⟩
  | emit e next ih => exact ⟨d.mayRecord_later hst h.1, ih h.2⟩

/-- Single steps of a program that abides lead to later valid states, in which the rest of the
program abides. -/
theorem step {p : Program I α} (h : p.Abides d Q s) (hQ : d.Keeps Q) (hs : d.Valid s) :
    d.Valid (p.step c s).2 ∧ d.Later s (p.step c s).2 ∧
      (p.step c s).1.Abides d Q (p.step c s).2 := by
  cases p with
  | done a => exact ⟨hs, d.refl s, h⟩
  | raise e => exact ⟨hs, d.refl s, h⟩
  | ask r next =>
      obtain ⟨hvalid, hlater⟩ := d.answer hs h.1
      exact ⟨hvalid, hlater, h.2 s hs (d.refl s)⟩
  | emit e next =>
      obtain ⟨hvalid, hlater⟩ := d.notice hs h.1
      exact ⟨hvalid, hlater, h.2.later hQ hlater⟩

theorem bind {p : Program I α} {f : α → Program I β} (hp : p.Abides d Q s)
    (hf : ∀ t a, d.Later s t → Q a t → (f a).Abides d R t) : (p.bind f).Abides d R s := by
  induction p generalizing s with
  | done a => exact hf s a (d.refl s) hp
  | raise e => trivial
  | ask r next ih =>
      refine ⟨hp.1, fun t ht hst => ih _ (hp.2 t ht hst) fun u a htu ha => ?_⟩
      have hanswer := (d.answer ht (d.mayAsk_later hst hp.1)).2
      exact hf u a (d.trans hst (d.trans hanswer htu)) ha
  | emit e next ih => exact ⟨hp.1, ih hp.2 hf⟩

/-- Going on after a failure: the condition is met where there is none. -/
theorem attempt {p : Program I α} (h : p.Abides d Q s) :
    p.attempt.Abides d (fun result t => ∀ a, result = .ok a → Q a t) s := by
  induction p generalizing s with
  | done a =>
      intro b hb
      cases hb
      exact h
  | raise e => exact nofun
  | ask r next ih => exact ⟨h.1, fun t ht hst => ih _ (h.2 t ht hst)⟩
  | emit e next ih => exact ⟨h.1, ih h.2⟩

end Abides

variable {d : Discipline c} {Q : α → σ → Prop} {s : σ}

theorem abides_ofExcept {result : Except Failure α} (h : ∀ a, result = .ok a → Q a s) :
    (ofExcept result : Program I α).Abides d Q s := by
  cases result with
  | ok a => exact h a rfl
  | error e => trivial

theorem abides_ofOption {o : Option α} (e : Failure) (h : ∀ a, o = some a → Q a s) :
    (ofOption e o : Program I α).Abides d Q s := by
  cases o with
  | some a => exact h a rfl
  | none => trivial

theorem abides_request {r : I.Request} {Q : I.Answer r → σ → Prop} (hr : d.MayAsk r s)
    (h : ∀ t a, d.Valid t → d.Later s t → (c.answer r t).1 = .ok a → Q a (c.answer r t).2) :
    (request r).Abides d Q s :=
  ⟨hr, fun t ht hst => abides_ofExcept fun a ha => h t a ht hst ha⟩

theorem abides_record {e : I.Event} {Q : Unit → σ → Prop} (he : d.MayRecord e s) (h : Q () s) :
    (record e).Abides d Q s :=
  ⟨he, h⟩

end Recommender.Program
