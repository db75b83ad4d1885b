import Recommender.Proofs.Program.History

/-!
# Programs in two runs

A program may be run against two collaborators, or twice against one.  Where related states answer
equally and stay related, the program ends equally in both runs, and each of its steps leads to the
same program.  It is enough that this is so of what the program may ask and record: programs are
*confined* to requests and events of some kinds.
-/

namespace Recommender.Program

variable {I J : Interface} {α β σ τ : Type}

/-- Whatever it is answered, a program asks and records only what is of some kinds. -/
def Confined (asks : I.Request → Prop) (records : I.Event → Prop) : Program I α → Prop
  | .done _ | .raise _ => True
  | .ask r next => asks r ∧ ∀ answer, (next answer).Confined asks records
  | .emit e next => records e ∧ next.Confined asks records

/-- Whatever it is answered, a program records nothing. -/
def Silent (p : Program I α) : Prop :=
  p.Confined (fun _ => True) (fun _ => False)

/-- Related states answer equally and stay related, as far as requests and events of some kinds
are concerned. -/
structure Simulates (asks : I.Request → Prop) (records : I.Event → Prop) (c : Collaborator I σ)
    (d : Collaborator I τ) (R : σ → τ → Prop) : Prop where
  answer : ∀ {r s t}, asks r → R s t →
    (c.answer r s).1 = (d.answer r t).1 ∧ R (c.answer r s).2 (d.answer r t).2
  notice : ∀ {e s t}, records e → R s t → R (c.notice e s) (d.notice e t)

variable {asks : I.Request → Prop} {records : I.Event → Prop}

/-! ## Confined programs -/

theorem confined_ofExcept (result : Except Failure α) :
    (ofExcept result : Program I α).Confined asks records := by
  cases result <;> trivial

theorem confined_ofOption (e : Failure) (o : Option α) :
    (ofOption e o : Program I α).Confined asks records := by
  cases o <;> trivial

theorem confined_request {r : I.Request} (h : asks r) : (request r).Confined asks records :=
  ⟨h, confined_ofExcept⟩

theorem confined_record {e : I.Event} (h : records e) : (record e).Confined asks records :=
  ⟨h, trivial⟩

theorem Confined.bind {p : Program I α} {f : α → Program I β} (hp : p.Confined asks records)
    (hf : ∀ a, (f a).Confined asks records) : (p.bind f).Confined asks records := by
  induction p with
  | done a => exact hf a
  | raise e => trivial
  | ask r next ih => exact ⟨hp.1, fun answer => ih answer (hp.2 answer)⟩
  | emit e next ih => exact ⟨hp.1, ih hp.2⟩

theorem Confined.attempt {p : Program I α} (h : p.Confined asks records) :
    p.attempt.Confined asks records := by
  induction p with
  | done a => trivial
  | raise e => trivial
  | ask r next ih => exact ⟨h.1, fun answer => ih answer (h.2 answer)⟩
  | emit e next ih => exact ⟨h.1, ih h.2⟩

/-- Carried out by confined programs, a program is confined. -/
theorem Confined.interpret {asks' : J.Request → Prop} {records' : J.Event → Prop}
    {onRequest : (r : J.Request) → Program I (J.Answer r)} {onEvent : J.Event → Program I Unit}
    (hr : ∀ r, asks' r → (onRequest r).Confined asks records)
    (he : ∀ e, records' e → (onEvent e).Confined asks records) {p : Program J α}
    (hp : p.Confined asks' records') : (p.interpret onRequest onEvent).Confined asks records := by
  induction p with
  | done a => trivial
  | raise e => trivial
  | ask r next ih => exact (hr r hp.1).attempt.bind fun answer => ih answer (hp.2 answer)
  | emit e next ih => exact (he e hp.1).bind fun _ => ih hp.2

theorem confined_anyhow (p : Program I α) : p.Confined (fun _ => True) (fun _ => True) := by
  induction p with
  | done a => trivial
  | raise e => trivial
  | ask r next ih => exact ⟨trivial, ih⟩
  | emit e next ih => exact ⟨trivial, ih⟩

/-- What requests and events of some kinds preserve is preserved by a confined program. -/
theorem Confined.invariant_run {p : Program I α} (h : p.Confined asks records)
    {c : Collaborator I σ} {P : σ → Prop} (hanswer : ∀ r s, asks r → P s → P (c.answer r s).2)
    (hnotice : ∀ e s, records e → P s → P (c.notice e s)) {s : σ} (hs : P s) :
    P (p.run c s).2 := by
  induction p generalizing s with
  | done a => exact hs
  | raise e => exact hs
  | ask r next ih => exact ih _ (h.2 _) (hanswer r s h.1 hs)
  | emit e next ih => exact ih h.2 (hnotice e s h.1 hs)

theorem Confined.step {p : Program I α} (h : p.Confined asks records) (c : Collaborator I σ)
    (s : σ) : (p.step c s).1.Confined asks records := by
  cases p with
  | done a => exact h
  | raise e => exact h
  | ask r next => exact h.2 _
  | emit e next => exact h.2

/-! ## Simulation -/

section

variable {c : Collaborator I σ} {d : Collaborator I τ} {R : σ → τ → Prop} {s : σ} {t : τ}

theorem run_ask (c : Collaborator I σ) (r : I.Request)
    (next : Except Failure (I.Answer r) → Program I α) (s : σ) :
    (ask r next).run c s = (next (c.answer r s).1).run c (c.answer r s).2 := rfl

/-- **A confined program ends equally in two runs** from related states, and leaves related
states. -/
theorem Simulates.run (h : Simulates asks records c d R) {p : Program I α}
    (hp : p.Confined asks records) (hst : R s t) :
    (p.run c s).1 = (p.run d t).1 ∧ R (p.run c s).2 (p.run d t).2 := by
  induction p generalizing s t with
  | done a => exact ⟨rfl, hst⟩
  | raise e => exact ⟨rfl, hst⟩
  | ask r next ih =>
      obtain ⟨hanswer, hrel⟩ := h.answer hp.1 hst
      have hrest := ih (c.answer r s).1 (hp.2 _) hrel
      rw [hanswer] at hrest
      rw [run_ask, run_ask, hanswer]
      exact hrest
  | emit e next ih => exact ih hp.2 (h.notice hp.1 hst)

/-- A step leads a confined program to the same program in two runs, and to related states. -/
theorem Simulates.step (h : Simulates asks records c d R) {p : Program I α}
    (hp : p.Confined asks records) (hst : R s t) :
    (p.step c s).1 = (p.step d t).1 ∧ R (p.step c s).2 (p.step d t).2 := by
  cases p with
  | done a => exact ⟨rfl, hst⟩
  | raise e => exact ⟨rfl, hst⟩
  | ask r next =>
      obtain ⟨hanswer, hrel⟩ := h.answer hp.1 hst
      exact ⟨congrArg next hanswer, hrel⟩
  | emit e next => exact ⟨rfl, h.notice hp.1 hst⟩

/-- Where related states answer equally, equal histories stay equal. -/
theorem Simulates.recording (h : Simulates asks records c d R) :
    Simulates asks records c.recording d.recording fun s t =>
      R s.state t.state ∧ s.history = t.history where
  answer := fun {r s t} hr hst => by
    obtain ⟨hanswer, hrel⟩ := h.answer hr hst.1
    refine ⟨hanswer, hrel, ?_⟩
    simp only [Collaborator.recording, hst.2, hanswer]
  notice := fun he hst => ⟨h.notice he hst.1, congrArg (· ++ _) hst.2⟩

end

end Recommender.Program
