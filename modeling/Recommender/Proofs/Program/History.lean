import Recommender.Program

/-!
# What programs ask and record

A program asks its collaborator and records events, one after the other.  Its *history* is the list
of these occurrences, each request together with its answer.  A collaborator can keep the history
beside its state; this changes neither its answers nor its state.

Where several programs share a collaborator, each of them goes on by single steps.
-/

namespace Recommender

/-- Something that a program has done. -/
inductive Occurrence (I : Interface) where
  /-- It asked a request, and this was the answer. -/
  | asked (r : I.Request) (answer : Except Failure (I.Answer r))
  /-- It recorded an event. -/
  | recorded (e : I.Event)

/-- A state with the history that led to it. -/
structure Recorded (I : Interface) (σ : Type) where
  state : σ
  history : List (Occurrence I) := []

namespace Program

variable {I : Interface} {α β σ : Type}

/-! ## Keeping a history -/

/-- A collaborator that keeps the history beside its state. -/
def Collaborator.recording (c : Collaborator I σ) : Collaborator I (Recorded I σ) where
  answer := fun r s =>
    ((c.answer r s.state).1,
      ⟨(c.answer r s.state).2, s.history ++ [.asked r (c.answer r s.state).1]⟩)
  notice := fun e s => ⟨c.notice e s.state, s.history ++ [.recorded e]⟩

/-- A program ends with a history as it ends without one. -/
theorem run_recording (c : Collaborator I σ) (p : Program I α) (s : Recorded I σ) :
    ((p.run c.recording s).1, (p.run c.recording s).2.state) = p.run c s.state := by
  induction p generalizing s with
  | done a => rfl
  | raise e => rfl
  | ask r next ih => exact ih _ _
  | emit e next ih => exact ih _

/-! ## Single steps -/

/-- A program after its next request or event, if it has not ended. -/
def step (c : Collaborator I σ) : Program I α → σ → Program I α × σ
  | .ask r next, s => (next (c.answer r s).1, (c.answer r s).2)
  | .emit e next, s => (next, c.notice e s)
  | p, s => (p, s)

/-- Whether a program has ended. -/
def ended : Program I α → Bool
  | .done _ | .raise _ => true
  | .ask .. | .emit .. => false

/-- The result of a program that is done. -/
def result? : Program I α → Option α
  | .done a => some a
  | _ => none

/-- A program's next request is a given one. -/
def Asks (r : I.Request) (p : Program I α) : Prop :=
  ∃ next, p = .ask r next

/-- A program that has no result has none with something behind it. -/
theorem result?_bind_of_eq_none {p : Program I α} (h : p.result? = none) (f : α → Program I β) :
    (p.bind f).result? = none := by
  cases p with
  | done a => cases h
  | _ => rfl

theorem Asks.not_ended {r : I.Request} {p : Program I α} (h : p.Asks r) : p.ended = false := by
  obtain ⟨next, rfl⟩ := h
  rfl

theorem Asks.attempt {r : I.Request} {p : Program I α} (h : p.Asks r) : p.attempt.Asks r := by
  obtain ⟨next, rfl⟩ := h
  exact ⟨_, rfl⟩

/-- What is asked next does not depend on what comes after a program. -/
theorem Asks.bind {r : I.Request} {p : Program I α} (h : p.Asks r) (f : α → Program I β) :
    (p.bind f).Asks r := by
  obtain ⟨next, rfl⟩ := h
  exact ⟨_, rfl⟩

end Program

end Recommender
