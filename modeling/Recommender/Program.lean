import Recommender.Failure

/-!
# Programs that consult collaborators

An operation of the service works by asking collaborators and looking at what they answer.  A
`Program` is such an operation as data: it is done, it has failed, it asks one request and goes on
with the answer or the collaborator's failure, or it records an event that nobody answers.  Nothing
happens between two requests but what the program says, so the requests are the points at which
other programs may run.

A program is run to its end against one state by `Program.run`, and carried out by programs of
another interface by `Program.interpret`.
-/

namespace Recommender

/-- What programs may ask, what is answered, and what they may record. -/
structure Interface where
  Request : Type
  Answer : Request → Type
  Event : Type

/-- A program over an interface. -/
inductive Program (I : Interface) (α : Type) where
  /-- The program is done. -/
  | done (a : α)
  /-- The program has failed. -/
  | raise (e : Failure)
  /-- The program asks a request. -/
  | ask (r : I.Request) (next : Except Failure (I.Answer r) → Program I α)
  /-- The program records an event. -/
  | emit (e : I.Event) (next : Program I α)

namespace Program

variable {I J : Interface} {α β σ : Type}

/-! ## Composition -/

/-- Go on with the result of a program, unless it failed. -/
def bind (p : Program I α) (f : α → Program I β) : Program I β :=
  match p with
  | .done a => f a
  | .raise e => .raise e
  | .ask r next => .ask r fun answer => (next answer).bind f
  | .emit e next => .emit e (next.bind f)

instance : Monad (Program I) where
  pure := .done
  bind := bind

/-- Go on with the result of a program or its failure. -/
def attempt (p : Program I α) : Program I (Except Failure α) :=
  match p with
  | .done a => .done (.ok a)
  | .raise e => .done (.error e)
  | .ask r next => .ask r fun answer => (next answer).attempt
  | .emit e next => .emit e next.attempt

/-- The program that ends as a result says. -/
def ofExcept : Except Failure α → Program I α
  | .ok a => .done a
  | .error e => .raise e

/-- Ask one request. -/
def request (r : I.Request) : Program I (I.Answer r) :=
  .ask r ofExcept

/-- Record one event. -/
def record (e : I.Event) : Program I Unit :=
  .emit e (.done ())

/-- The result that a program has if an optional value is present, and a failure otherwise. -/
def ofOption (e : Failure) : Option α → Program I α
  | some a => .done a
  | none => .raise e

/-- Do one thing after a program, whether it failed or not, and end as the program ended. -/
def andFinally (p : Program I α) (last : Program I Unit) : Program I α :=
  p.attempt.bind fun result => last.bind fun _ => ofExcept result

@[simp] theorem bind_eq (p : Program I α) (f : α → Program I β) : p >>= f = p.bind f := rfl

@[simp] theorem pure_eq (a : α) : (pure a : Program I α) = .done a := rfl

@[simp] theorem bind_done (p : Program I α) : p.bind .done = p := by
  induction p with
  | done a => rfl
  | raise e => rfl
  | ask r next ih => simp [bind, ih]
  | emit e next ih => simp [bind, ih]

theorem bind_assoc {γ : Type} (p : Program I α) (f : α → Program I β) (g : β → Program I γ) :
    (p.bind f).bind g = p.bind fun a => (f a).bind g := by
  induction p with
  | done a => rfl
  | raise e => rfl
  | ask r next ih => simp [bind, ih]
  | emit e next ih => simp [bind, ih]

/-! ## Carrying programs out -/

/-- Carry a program out by programs of another interface, one for each request and event. -/
def interpret (onRequest : (r : I.Request) → Program J (I.Answer r))
    (onEvent : I.Event → Program J Unit) : Program I α → Program J α
  | .done a => .done a
  | .raise e => .raise e
  | .ask r next =>
    (onRequest r).attempt.bind fun answer => (next answer).interpret onRequest onEvent
  | .emit e next => (onEvent e).bind fun _ => next.interpret onRequest onEvent

theorem interpret_bind (onRequest : (r : I.Request) → Program J (I.Answer r))
    (onEvent : I.Event → Program J Unit) (p : Program I α) (f : α → Program I β) :
    (p.bind f).interpret onRequest onEvent =
      (p.interpret onRequest onEvent).bind fun a => (f a).interpret onRequest onEvent := by
  induction p with
  | done a => rfl
  | raise e => rfl
  | ask r next ih => simp [bind, interpret, bind_assoc, ih]
  | emit e next ih => simp [bind, interpret, bind_assoc, ih]

/-- A collaborator: it answers requests and takes notice of events, both on one state. -/
structure Collaborator (I : Interface) (σ : Type) where
  answer : (r : I.Request) → σ → Except Failure (I.Answer r) × σ
  notice : I.Event → σ → σ

/-- Run a program to its end against one collaborator. -/
def run (c : Collaborator I σ) : Program I α → σ → Except Failure α × σ
  | .done a, s => (.ok a, s)
  | .raise e, s => (.error e, s)
  | .ask r next, s =>
    match c.answer r s with
    | (answer, s) => (next answer).run c s
  | .emit e next, s => next.run c (c.notice e s)

@[simp] theorem run_request (c : Collaborator I σ) (r : I.Request) (s : σ) :
    (request r).run c s = c.answer r s := by
  rw [request, run]
  cases c.answer r s with
  | mk answer s' => cases answer <;> rfl

theorem run_bind (c : Collaborator I σ) (p : Program I α) (f : α → Program I β) (s : σ) :
    (p.bind f).run c s =
      match p.run c s with
      | (.ok a, s) => (f a).run c s
      | (.error e, s) => (.error e, s) := by
  induction p generalizing s with
  | done a => rfl
  | raise e => rfl
  | ask r next ih => simp [bind, run, ih]
  | emit e next ih => simp [bind, run, ih]

theorem run_attempt (c : Collaborator I σ) (p : Program I α) (s : σ) :
    p.attempt.run c s = (.ok (p.run c s).1, (p.run c s).2) := by
  induction p generalizing s with
  | done a => rfl
  | raise e => rfl
  | ask r next ih => simp [attempt, run, ih]
  | emit e next ih => simp [attempt, run, ih]

theorem run_interpret {c : Collaborator J σ} {d : Collaborator I σ}
    {onRequest : (r : I.Request) → Program J (I.Answer r)} {onEvent : I.Event → Program J Unit}
    (hr : ∀ r s, (onRequest r).run c s = d.answer r s)
    (he : ∀ e s, (onEvent e).run c s = (.ok (), d.notice e s)) (p : Program I α) (s : σ) :
    (p.interpret onRequest onEvent).run c s = p.run d s := by
  induction p generalizing s with
  | done a => rfl
  | raise e => rfl
  | ask r next ih => simp [interpret, run_bind, run_attempt, hr, ih, run]
  | emit e next ih => simp [interpret, run_bind, he, ih, run]

end Program

end Recommender
