import Recommender.Proofs.Program.History

/-!
# Tests run one after the other

A loop over tests goes on for as long as they find one truth value, and ends early at the first test
that finds the other one: a loop that goes on at `true` asks whether all of them hold, one that goes
on at `false` asks whether any of them does.  A test that fails ends the loop with its failure.
What the loop asks is what the tests have asked that it has run, and nothing of the tests behind.
-/

namespace Recommender.Program

variable {I : Interface} {α β σ : Type}

/-- Against a collaborator and from a state of it, a program ends with a result, having asked and
recorded something, and leaves a state. -/
def Ends (c : Collaborator I σ) (p : Program I α) (s : σ) (result : Except Failure α)
    (past : List (Occurrence I)) (t : σ) : Prop :=
  p.run c.recording ⟨s, []⟩ = (result, ⟨t, past⟩)

/-- Run tests, one after the other, for as long as they find a given truth value; the last one that
is run decides. -/
def testWhile (go : Bool) (test : α → Program I Bool) : List α → Program I Bool
  | [] => .done go
  | a :: rest => (test a).bind fun found =>
    if found = go then testWhile go test rest else .done found

section

variable (c : Collaborator I σ)

/-- Tests that are run one after the other all find a given truth value. -/
inductive EachFinds (test : α → Program I Bool) (truth : Bool) :
    List α → σ → List (Occurrence I) → σ → Prop where
  | nil (s : σ) : EachFinds test truth [] s [] s
  | cons {a : α} {rest : List α} {past more : List (Occurrence I)} {s t u : σ}
      (first : Ends c (test a) s (.ok truth) past t)
      (others : EachFinds test truth rest t more u) :
      EachFinds test truth (a :: rest) s (past ++ more) u

/-- How a loop over tests that goes on at a given truth value ends: behind the last test, at the
first one that finds the other truth value, or at the first one that fails. -/
inductive Searched (test : α → Program I Bool) (go : Bool) (items : List α) (s : σ) :
    Except Failure Bool → List (Occurrence I) → σ → Prop where
  | exhausted {past : List (Occurrence I)} {t : σ} (all : EachFinds c test go items s past t) :
      Searched test go items s (.ok go) past t
  | stopped {before after : List α} {a : α} {past more : List (Occurrence I)} {t u : σ}
      (h : items = before ++ a :: after) (passed : EachFinds c test go before s past t)
      (decisive : Ends c (test a) t (.ok (!go)) more u) :
      Searched test go items s (.ok (!go)) (past ++ more) u
  | failed {before after : List α} {a : α} {past more : List (Occurrence I)} {t u : σ}
      {why : Failure} (h : items = before ++ a :: after)
      (passed : EachFinds c test go before s past t)
      (decisive : Ends c (test a) t (.error why) more u) :
      Searched test go items s (.error why) (past ++ more) u

end

section

variable {c : Collaborator I σ} {s t u : σ} {past more : List (Occurrence I)}

/-! ## Ends of programs -/

/-- What has happened before does not matter for a program. -/
theorem run_recording_append (c : Collaborator I σ) (p : Program I α) (s : σ)
    (past : List (Occurrence I)) :
    p.run c.recording ⟨s, past⟩ =
      ((p.run c.recording ⟨s, []⟩).1, ⟨(p.run c.recording ⟨s, []⟩).2.state,
        past ++ (p.run c.recording ⟨s, []⟩).2.history⟩) := by
  induction p generalizing s past with
  | done a => simp [run]
  | raise e => simp [run]
  | ask r next ih =>
      have hask : ∀ past, (ask r next).run c.recording ⟨s, past⟩ =
          (next (c.answer r s).1).run c.recording
            ⟨(c.answer r s).2, past ++ [.asked r (c.answer r s).1]⟩ := fun _ => rfl
      rw [hask, hask, ih _ _ (past ++ _), ih _ _ ([] ++ _)]
      simp
  | emit e next ih =>
      have hemit : ∀ past, (emit e next).run c.recording ⟨s, past⟩ =
          next.run c.recording ⟨c.notice e s, past ++ [.recorded e]⟩ := fun _ => rfl
      rw [hemit, hemit, ih _ (past ++ _), ih _ ([] ++ _)]
      simp

/-- A program has one end. -/
theorem exists_ends (c : Collaborator I σ) (p : Program I α) (s : σ) :
    ∃ result past t, Ends c p s result past t :=
  ⟨_, _, _, rfl⟩

theorem Ends.unique {p : Program I α} {result result' : Except Failure α}
    (h : Ends c p s result past t) (h' : Ends c p s result' more u) :
    result = result' ∧ past = more ∧ t = u := by
  rw [Ends, h] at h'
  cases h'
  exact ⟨rfl, rfl, rfl⟩

theorem ends_done (c : Collaborator I σ) (a : α) (s : σ) : Ends c (.done a) s (.ok a) [] s :=
  rfl

theorem Ends.bind {p : Program I α} {f : α → Program I β} {a : α} {result : Except Failure β}
    (hp : Ends c p s (.ok a) past t) (hf : Ends c (f a) t result more u) :
    Ends c (p.bind f) s result (past ++ more) u := by
  rw [Ends] at hp hf
  rw [Ends, run_bind, hp]
  simp only
  rw [run_recording_append, hf]

theorem Ends.bind_error {p : Program I α} {f : α → Program I β} {why : Failure}
    (hp : Ends c p s (.error why) past t) : Ends c (p.bind f) s (.error why) past t := by
  rw [Ends] at hp ⊢
  rw [run_bind, hp]

/-- A program that goes on with a value of another one's result ends as this one ends. -/
theorem ends_bind_done_iff {p : Program I α} {g : α → β} {result : Except Failure β} :
    Ends c (p.bind fun a => .done (g a)) s result past t ↔
      ∃ r, Ends c p s r past t ∧ result = r.map g := by
  obtain ⟨r, past', t', hp⟩ := exists_ends c p s
  have hmap : Ends c (p.bind fun a => .done (g a)) s (r.map g) past' t' := by
    cases r with
    | ok a =>
        have hends := hp.bind (f := fun a => .done (g a)) (ends_done c (g a) t')
        rwa [List.append_nil] at hends
    | error why => exact hp.bind_error
  constructor
  · intro h
    obtain ⟨rfl, rfl, rfl⟩ := hmap.unique h
    exact ⟨r, hp, rfl⟩
  · rintro ⟨r', hp', rfl⟩
    obtain ⟨rfl, rfl, rfl⟩ := hp.unique hp'
    exact hmap

/-! ## Loops -/

variable {test : α → Program I Bool} {go : Bool} {items : List α}

theorem ends_testWhile_of_stops {a : α} {rest : List α}
    (h : Ends c (test a) s (.ok (!go)) past t) :
    Ends c (testWhile go test (a :: rest)) s (.ok (!go)) past t := by
  have hstop : Ends c (if (!go) = go then testWhile go test rest else .done !go) t (.ok (!go)) []
      t := by
    cases go <;> rfl
  have hends := h.bind (f := fun found =>
    if found = go then testWhile go test rest else .done found) hstop
  rwa [List.append_nil] at hends

theorem ends_testWhile_of_passes {a : α} {rest : List α} {result : Except Failure Bool}
    (h : Ends c (test a) s (.ok go) past t)
    (hrest : Ends c (testWhile go test rest) t result more u) :
    Ends c (testWhile go test (a :: rest)) s result (past ++ more) u :=
  h.bind (by rwa [if_pos rfl])

/-- Behind tests that pass, a loop goes on with the others. -/
theorem EachFinds.ends_testWhile {rest : List α} {result : Except Failure Bool}
    (h : EachFinds c test go items s past t)
    (hrest : Ends c (testWhile go test rest) t result more u) :
    Ends c (testWhile go test (items ++ rest)) s result (past ++ more) u := by
  induction h with
  | nil s => exact hrest
  | cons first others ih =>
      rw [List.append_assoc]
      exact ends_testWhile_of_passes first (ih hrest)

theorem Searched.ends {result : Except Failure Bool}
    (h : Searched c test go items s result past t) :
    Ends c (testWhile go test items) s result past t := by
  cases h with
  | exhausted all =>
      have hlast : Ends c (testWhile go test []) t (.ok go) [] t := ends_done c go t
      have hends := all.ends_testWhile hlast
      rwa [List.append_nil, List.append_nil] at hends
  | stopped h passed decisive =>
      rw [h]
      exact passed.ends_testWhile (ends_testWhile_of_stops decisive)
  | failed h passed decisive =>
      rw [h]
      exact passed.ends_testWhile decisive.bind_error

/-- Every loop ends in one of the ways. -/
theorem exists_searched (c : Collaborator I σ) (test : α → Program I Bool) (go : Bool)
    (items : List α) (s : σ) : ∃ result past t, Searched c test go items s result past t := by
  induction items generalizing s with
  | nil => exact ⟨_, _, _, .exhausted (.nil s)⟩
  | cons a rest ih =>
      have hfirst : a :: rest = [] ++ a :: rest := rfl
      obtain ⟨found, past, t, ha⟩ := exists_ends c (test a) s
      cases found with
      | error why => exact ⟨_, _, _, .failed hfirst (.nil s) ha⟩
      | ok found =>
          -- The loop goes on behind the first test, and ends as it ends there, only if it passes.
          by_cases hgo : found = go
          · subst hgo
            obtain ⟨result, more, u, hrest⟩ := ih t
            cases hrest with
            | exhausted all => exact ⟨_, _, _, .exhausted (.cons ha all)⟩
            | stopped h passed decisive =>
                have hlater := congrArg (a :: ·) h
                exact ⟨_, _, _, .stopped hlater (.cons ha passed) decisive⟩
            | failed h passed decisive =>
                have hlater := congrArg (a :: ·) h
                exact ⟨_, _, _, .failed hlater (.cons ha passed) decisive⟩
          · rw [Bool.eq_not.mpr hgo] at ha
            exact ⟨_, _, _, .stopped hfirst (.nil s) ha⟩

/-- **A loop over tests** ends behind the last test, or at the first one that decides or fails, and
has asked what the tests have asked up to there. -/
theorem ends_testWhile_iff {result : Except Failure Bool} :
    Ends c (testWhile go test items) s result past t ↔
      Searched c test go items s result past t := by
  constructor
  · intro h
    obtain ⟨result', past', t', hsearched⟩ := exists_searched c test go items s
    obtain ⟨rfl, rfl, rfl⟩ := h.unique hsearched.ends
    exact hsearched
  · exact Searched.ends

end

end Recommender.Program
