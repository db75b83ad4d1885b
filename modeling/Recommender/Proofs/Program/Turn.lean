import Recommender.Proofs.Program.Simulation

/-!
# Programs by turns

A program that shares its collaborator with others goes on by *turns*: it asks its next request, and
records all events up to the request after it.  Others may go on between two turns, but not within
one.

A program *leads* through a history to what is left of it, where the requests are answered as the
history says.  So the history of a program tells how far it has come, whoever took part in it.
-/

namespace Recommender

/-- An occurrence is of some kinds. -/
def Occurrence.Within {I : Interface} (asks : I.Request → Prop) (records : I.Event → Prop) :
    Occurrence I → Prop
  | .asked r _ => asks r
  | .recorded e => records e

namespace Program

variable {I : Interface} {α β σ : Type}

/-- Record events up to the next request. -/
def settle (c : Collaborator I σ) : Program I α → σ → Program I α × σ
  | .emit e next, s => next.settle c (c.notice e s)
  | p, s => (p, s)

/-- Ask the next request, and record events up to the one after it. -/
def turn (c : Collaborator I σ) : Program I α → σ → Program I α × σ
  | .ask r next, s => (next (c.answer r s).1).settle c (c.answer r s).2
  | p, s => p.settle c s

/-- A program has ended, or asks a request next. -/
def Settled : Program I α → Prop
  | .emit .. => False
  | _ => True

/-- A program leads through a history to another one. -/
inductive Leads : Program I α → List (Occurrence I) → Program I α → Prop where
  | refl (p : Program I α) : Leads p [] p
  | ask {r : I.Request} {next : Except Failure (I.Answer r) → Program I α}
      {answer : Except Failure (I.Answer r)} {history : List (Occurrence I)} {q : Program I α}
      (rest : Leads (next answer) history q) : Leads (.ask r next) (.asked r answer :: history) q
  | emit {e : I.Event} {next : Program I α} {history : List (Occurrence I)} {q : Program I α}
      (rest : Leads next history q) : Leads (.emit e next) (.recorded e :: history) q

/-! ## Turns -/

section

variable (c : Collaborator I σ)

theorem settled_settle (p : Program I α) (s : σ) : (p.settle c s).1.Settled := by
  induction p generalizing s with
  | done a => trivial
  | raise e => trivial
  | ask r next ih => trivial
  | emit e next ih => exact ih _

theorem settled_turn (p : Program I α) (s : σ) : (p.turn c s).1.Settled := by
  cases p with
  | ask r next => exact settled_settle c _ _
  | _ => exact settled_settle c _ _

/-- What every answer and every event preserve is preserved by turns. -/
theorem settle_related {R : σ → σ → Prop} (refl : ∀ s, R s s)
    (trans : ∀ {s t u}, R s t → R t u → R s u) (notice : ∀ e s, R s (c.notice e s))
    (p : Program I α) (s : σ) : R s (p.settle c s).2 := by
  induction p generalizing s with
  | emit e next ih => exact trans (notice e s) (ih _)
  | _ => exact refl s

theorem turn_related {R : σ → σ → Prop} (refl : ∀ s, R s s)
    (trans : ∀ {s t u}, R s t → R t u → R s u) (answer : ∀ r s, R s (c.answer r s).2)
    (notice : ∀ e s, R s (c.notice e s)) (p : Program I α) (s : σ) : R s (p.turn c s).2 := by
  cases p with
  | ask r next => exact trans (answer r s) (settle_related c refl trans notice _ _)
  | _ => exact settle_related c refl trans notice _ s

/-- A program that has ended takes no more turns. -/
theorem turn_of_ended {p : Program I α} (h : p.ended = true) (s : σ) : p.turn c s = (p, s) := by
  cases p with
  | done a => rfl
  | raise e => rfl
  | _ => cases h

/-- What is recorded up to the next request leads to this request. -/
theorem leads_settle (p : Program I α) (s : Recorded I σ) :
    ∃ history, (p.settle c.recording s).2.history = s.history ++ history ∧
      Leads p history (p.settle c.recording s).1 := by
  induction p generalizing s with
  | emit e next ih =>
      obtain ⟨history, hs, h⟩ := ih (c.recording.notice e s)
      refine ⟨.recorded e :: history, ?_, .emit h⟩
      rw [settle, hs]
      exact List.append_assoc s.history [.recorded e] history
  | _ => exact ⟨[], (List.append_nil _).symm, .refl _⟩

theorem leads_turn (p : Program I α) (s : Recorded I σ) :
    ∃ history, (p.turn c.recording s).2.history = s.history ++ history ∧
      Leads p history (p.turn c.recording s).1 := by
  cases p with
  | ask r next =>
      obtain ⟨history, hs, h⟩ := leads_settle c (next (c.answer r s.state).1)
        (c.recording.answer r s).2
      refine ⟨.asked r (c.answer r s.state).1 :: history, ?_, .ask h⟩
      rw [turn]
      exact hs.trans (List.append_assoc s.history [.asked r (c.answer r s.state).1] history)
  | _ => exact leads_settle c _ s

end

/-! ## Histories -/

section

variable {p q r : Program I α} {history more : List (Occurrence I)}

theorem Leads.trans (h : Leads p history q) (h' : Leads q more r) :
    Leads p (history ++ more) r := by
  induction h with
  | refl p => exact h'
  | ask rest ih => exact .ask (ih h')
  | emit rest ih => exact .emit (ih h')

/-- A composed program is still in its first part, or has got the result of this part. -/
theorem leads_bind_cases {f : α → Program I β} {q : Program I β} (h : Leads (p.bind f) history q) :
    (∃ p', Leads p history p' ∧ p'.result? = none ∧ q = p'.bind f) ∨
      ∃ before a after, history = before ++ after ∧ Leads p before (.done a) ∧
        Leads (f a) after q := by
  induction p generalizing history with
  | done a => exact .inr ⟨[], a, history, rfl, .refl _, h⟩
  | raise e =>
      cases h
      exact .inl ⟨.raise e, .refl _, rfl, rfl⟩
  | ask r next ih =>
      cases h with
      | refl => exact .inl ⟨.ask r next, .refl _, rfl, rfl⟩
      | ask rest =>
          obtain ⟨p', hp', hnot, hq⟩ | ⟨before, a, after, rfl, hbefore, hafter⟩ := ih _ rest
          · exact .inl ⟨p', .ask hp', hnot, hq⟩
          · exact .inr ⟨_ :: before, a, after, rfl, .ask hbefore, hafter⟩
  | emit e next ih =>
      cases h with
      | refl => exact .inl ⟨.emit e next, .refl _, rfl, rfl⟩
      | emit rest =>
          obtain ⟨p', hp', hnot, hq⟩ | ⟨before, a, after, rfl, hbefore, hafter⟩ := ih rest
          · exact .inl ⟨p', .emit hp', hnot, hq⟩
          · exact .inr ⟨_ :: before, a, after, rfl, .emit hbefore, hafter⟩

/-- A composed program that is done has got the result of its first part. -/
theorem leads_bind_done {f : α → Program I β} {b : β} (h : Leads (p.bind f) history (.done b)) :
    ∃ before a after, history = before ++ after ∧ Leads p before (.done a) ∧
      Leads (f a) after (.done b) := by
  obtain ⟨p', -, hnone, hq⟩ | hdone := leads_bind_cases h
  · have hresult := result?_bind_of_eq_none hnone f
    rw [← hq] at hresult
    cases hresult
  · exact hdone

theorem Settled.of_bind {f : α → Program I β} (h : (p.bind f).Settled)
    (hp : p.result? = none) : p.Settled := by
  cases p with
  | done a => cases hp
  | emit e next => exact h
  | _ => trivial

/-- What a program leads to is the same if its result is only changed at the end. -/
theorem leads_map {g : α → β} {q : Program I β}
    (h : Leads (p.bind fun a => .done (g a)) history q) (hq : q.Settled) :
    ∃ p', Leads p history p' ∧ p'.Settled ∧ q.result? = p'.result?.map g := by
  obtain ⟨p', hp', hnone, rfl⟩ | ⟨before, a, after, rfl, hbefore, hafter⟩ := leads_bind_cases h
  · refine ⟨p', hp', hq.of_bind hnone, ?_⟩
    rw [result?_bind_of_eq_none hnone, hnone]
    rfl
  · cases hafter
    rw [List.append_nil]
    exact ⟨.done a, hbefore, trivial, rfl⟩

/-- What a confined program does is of the kinds that it is confined to. -/
theorem Confined.within {asks : I.Request → Prop} {records : I.Event → Prop}
    (hp : p.Confined asks records) (h : Leads p history q) :
    ∀ o ∈ history, o.Within asks records := by
  induction h with
  | refl p => exact nofun
  | ask rest ih => exact List.forall_mem_cons.mpr ⟨hp.1, ih (hp.2 _)⟩
  | emit rest ih => exact List.forall_mem_cons.mpr ⟨hp.1, ih hp.2⟩

end

end Program

end Recommender
