import Recommender.Proofs.Program.History

/-!
# Programs that others rely on

Programs that share a state may each have a part of it to themselves.  So what a step of a program
may do is not what the others may do between two of its steps: a program *relies* on the others for
the one, and the others rely on it for the other.

A program *conforms* from a state on if each of its steps does what it may do, however the others
change the state before it, and if its end meets a condition.
-/

namespace Recommender.Program

variable {I : Interface} {α β σ : Type}

/-- What may happen to a state that programs share. -/
structure Pact (σ : Type) where
  /-- What others may do between two steps of a program. -/
  Others : σ → σ → Prop
  /-- What a step of the program may do. -/
  Own : σ → σ → Prop
  refl : ∀ s, Others s s
  trans : ∀ {s t u}, Others s t → Others t u → Others s u

/-- From a state on, each step of a program does what it may do, and the end of the program and the
state in which it ends meet a condition. -/
def Conforms (c : Collaborator I σ) (d : Pact σ) (Q : Except Failure α → σ → Prop) :
    Program I α → σ → Prop
  | .done a, s => Q (.ok a) s
  | .raise e, s => Q (.error e) s
  | .ask r next, s => ∀ t, d.Others s t → d.Own t (c.answer r t).2 ∧
      (next (c.answer r t).1).Conforms c d Q (c.answer r t).2
  | .emit e next, s => ∀ t, d.Others s t → d.Own t (c.notice e t) ∧
      next.Conforms c d Q (c.notice e t)

/-- Whatever it is answered, a program ends after at most so many steps. -/
def EndsWithin : Program I α → Nat → Prop
  | .done _, _ | .raise _, _ => True
  | .ask _ next, n => ∃ m, n = m + 1 ∧ ∀ answer, (next answer).EndsWithin m
  | .emit _ next, n => ∃ m, n = m + 1 ∧ next.EndsWithin m

/-! ## Programs that conform -/

namespace Conforms

variable {c : Collaborator I σ} {d : Pact σ} {Q : Except Failure α → σ → Prop}
  {R : Except Failure β → σ → Prop} {p : Program I α} {s t : σ}

/-- A program still conforms after others have changed the state. -/
theorem later (h : p.Conforms c d Q s) (hQ : ∀ {r s t}, d.Others s t → Q r s → Q r t)
    (hst : d.Others s t) : p.Conforms c d Q t := by
  cases p with
  | done a => exact hQ hst h
  | raise e => exact hQ hst h
  | ask r next => exact fun u htu => h u (d.trans hst htu)
  | emit e next => exact fun u htu => h u (d.trans hst htu)

theorem mono {Q' : Except Failure α → σ → Prop} (h : p.Conforms c d Q s)
    (hQ : ∀ r t, Q r t → Q' r t) : p.Conforms c d Q' s := by
  induction p generalizing s with
  | done a => exact hQ _ s h
  | raise e => exact hQ _ s h
  | ask r next ih => exact fun t hst => ⟨(h t hst).1, ih _ (h t hst).2⟩
  | emit e next ih => exact fun t hst => ⟨(h t hst).1, ih (h t hst).2⟩

/-- A step of a program that conforms does what it may do, and what is left conforms. -/
theorem step (h : p.Conforms c d Q s) :
    (p.ended = true ∨ d.Own s (p.step c s).2) ∧ (p.step c s).1.Conforms c d Q (p.step c s).2 := by
  cases p with
  | done a => exact ⟨.inl rfl, h⟩
  | raise e => exact ⟨.inl rfl, h⟩
  | ask r next => exact ⟨.inr (h s (d.refl s)).1, (h s (d.refl s)).2⟩
  | emit e next => exact ⟨.inr (h s (d.refl s)).1, (h s (d.refl s)).2⟩

/-- What comes after a program goes on from where the program is done; failures are passed on. -/
theorem bind {f : α → Program I β} (hp : p.Conforms c d Q s)
    (hdone : ∀ t a, Q (.ok a) t → (f a).Conforms c d R t)
    (hfailed : ∀ t e, Q (.error e) t → R (.error e) t) : (p.bind f).Conforms c d R s := by
  induction p generalizing s with
  | done a => exact hdone s a hp
  | raise e => exact hfailed s e hp
  | ask r next ih => exact fun t hst => ⟨(hp t hst).1, ih _ (hp t hst).2⟩
  | emit e next ih => exact fun t hst => ⟨(hp t hst).1, ih (hp t hst).2⟩

theorem attempt {Q : Except Failure (Except Failure α) → σ → Prop}
    (h : p.Conforms c d (fun r s => Q (.ok r) s) s) : p.attempt.Conforms c d Q s := by
  induction p generalizing s with
  | done a => exact h
  | raise e => exact h
  | ask r next ih => exact fun t hst => ⟨(h t hst).1, ih _ (h t hst).2⟩
  | emit e next ih => exact fun t hst => ⟨(h t hst).1, ih (h t hst).2⟩

theorem ended_cases (h : p.Conforms c d Q s) (hended : p.ended = true) :
    (∃ a, p = .done a ∧ Q (.ok a) s) ∨ ∃ e, p = .raise e ∧ Q (.error e) s := by
  cases p with
  | done a => exact .inl ⟨a, rfl, h⟩
  | raise e => exact .inr ⟨e, rfl, h⟩
  | ask r next => cases hended
  | emit e next => cases hended

end Conforms

section

variable {c : Collaborator I σ} {d : Pact σ} {Q : Except Failure α → σ → Prop} {s : σ}

theorem conforms_ofExcept {result : Except Failure α} (h : Q result s) :
    (ofExcept result : Program I α).Conforms c d Q s := by
  cases result with
  | ok a => exact h
  | error e => exact h

theorem conforms_request {r : I.Request} {Q : Except Failure (I.Answer r) → σ → Prop}
    (h : ∀ t, d.Others s t → d.Own t (c.answer r t).2 ∧ Q (c.answer r t).1 (c.answer r t).2) :
    (request r : Program I (I.Answer r)).Conforms c d Q s :=
  fun t hst => ⟨(h t hst).1, conforms_ofExcept (h t hst).2⟩

theorem conforms_record {e : I.Event} {Q : Except Failure Unit → σ → Prop}
    (h : ∀ t, d.Others s t → d.Own t (c.notice e t) ∧ Q (.ok ()) (c.notice e t)) :
    (record e : Program I Unit).Conforms c d Q s :=
  h

end

/-! ## Programs that end -/

namespace EndsWithin

variable {p : Program I α} {n : Nat}

theorem ended (h : p.EndsWithin 0) : p.ended = true := by
  cases p with
  | done a => rfl
  | raise e => rfl
  | ask r next =>
      obtain ⟨m, hm, -⟩ := h
      cases hm
  | emit e next =>
      obtain ⟨m, hm, -⟩ := h
      cases hm

/-- With each step there is one less to come. -/
theorem step (h : p.EndsWithin n) (c : Collaborator I σ) (s : σ) :
    (p.step c s).1.EndsWithin (n - 1) := by
  cases p with
  | done a => trivial
  | raise e => trivial
  | ask r next =>
      obtain ⟨m, rfl, hnext⟩ := h
      exact hnext _
  | emit e next =>
      obtain ⟨m, rfl, hnext⟩ := h
      exact hnext

end EndsWithin

end Recommender.Program
