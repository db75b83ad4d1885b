import Recommender.Program

/-!
# Programs against fixed answers

A program that is given fixed answers ends in one way: nothing of its result depends on a state.
A collaborator whose answers are fixed as long as its state keeps an invariant makes every program
end in this way, whatever it does to the state otherwise.
-/

namespace Recommender.Program

variable {I : Interface} {α β σ : Type}

/-- How a program ends that is given fixed answers. -/
def against (answer : (r : I.Request) → Except Failure (I.Answer r)) :
    Program I α → Except Failure α
  | .done a => .ok a
  | .raise e => .error e
  | .ask r next => (next (answer r)).against answer
  | .emit _ next => next.against answer

/-- Against a collaborator a program ends with a result and keeps an invariant, in every state that
has the invariant. -/
def Yields (c : Collaborator I σ) (Inv : σ → Prop) (p : Program I α) (r : Except Failure α) :
    Prop :=
  ∀ s, Inv s → (p.run c s).1 = r ∧ Inv (p.run c s).2

/-! ## Fixed answers -/

section Against

variable (answer : (r : I.Request) → Except Failure (I.Answer r))

@[simp] theorem against_done (a : α) : (.done a : Program I α).against answer = .ok a := rfl

@[simp] theorem against_bind (p : Program I α) (f : α → Program I β) :
    (p.bind f).against answer = (p.against answer).bind fun a => (f a).against answer := by
  induction p with
  | done a => rfl
  | raise e => rfl
  | ask r next ih => rw [bind, against, ih, against]
  | emit e next ih => rw [bind, against, ih, against]

@[simp] theorem against_request (r : I.Request) : (request r).against answer = answer r := by
  rw [request, against]
  cases answer r <;> rfl

@[simp] theorem against_ofOption (e : Failure) (o : Option α) :
    (ofOption e o : Program I α).against answer = o.elim (.error e) .ok := by
  cases o <;> rfl

theorem against_ofExcept (result : Except Failure α) :
    (ofExcept result : Program I α).against answer = result := by
  cases result <;> rfl

theorem against_attempt (p : Program I α) :
    p.attempt.against answer = .ok (p.against answer) := by
  induction p with
  | done a => rfl
  | raise e => rfl
  | ask r next ih => rw [attempt, against, ih, against]
  | emit e next ih => rw [attempt, against, ih, against]

end Against

/-! ## Collaborators -/

section Yields

variable {c : Collaborator I σ} {Inv : σ → Prop}

theorem yields_done (a : α) : Yields c Inv (.done a) (.ok a) := by
  intro s hs
  exact ⟨rfl, hs⟩

theorem yields_request {r : I.Request} {result : Except Failure (I.Answer r)}
    (h : ∀ s, Inv s → (c.answer r s).1 = result ∧ Inv (c.answer r s).2) :
    Yields c Inv (request r) result := by
  intro s hs
  rw [run_request]
  exact h s hs

theorem yields_record {e : I.Event} (h : ∀ s, Inv s → Inv (c.notice e s)) :
    Yields c Inv (record e) (.ok ()) := by
  intro s hs
  exact ⟨rfl, h s hs⟩

theorem Yields.bind {p : Program I α} {f : α → Program I β} {a : α} {r : Except Failure β}
    (hp : Yields c Inv p (.ok a)) (hf : Yields c Inv (f a) r) : Yields c Inv (p.bind f) r := by
  intro s hs
  obtain ⟨hresult, hinv⟩ := hp s hs
  cases hrun : p.run c s with
  | mk result s' =>
      rw [hrun] at hresult hinv
      cases hresult
      rw [run_bind, hrun]
      exact hf s' hinv

theorem Yields.bind_error {p : Program I α} {f : α → Program I β} {e : Failure}
    (hp : Yields c Inv p (.error e)) : Yields c Inv (p.bind f) (.error e) := by
  intro s hs
  obtain ⟨hresult, hinv⟩ := hp s hs
  cases hrun : p.run c s with
  | mk result s' =>
      rw [hrun] at hresult hinv
      cases hresult
      rw [run_bind, hrun]
      exact ⟨rfl, hinv⟩

/-- **A collaborator with fixed answers** makes every program end as the answers say. -/
theorem yields_against {answer : (r : I.Request) → Except Failure (I.Answer r)}
    (hr : ∀ r s, Inv s → (c.answer r s).1 = answer r ∧ Inv (c.answer r s).2)
    (he : ∀ e s, Inv s → Inv (c.notice e s)) (p : Program I α) :
    Yields c Inv p (p.against answer) := by
  induction p with
  | done a => exact yields_done a
  | raise e => exact fun s hs => ⟨rfl, hs⟩
  | ask r next ih =>
      intro s hs
      obtain ⟨hresult, hinv⟩ := hr r s hs
      rw [run, against, ← hresult]
      exact ih _ _ hinv
  | emit e next ih => exact fun s hs => ih _ (he e s hs)

end Yields

end Recommender.Program
