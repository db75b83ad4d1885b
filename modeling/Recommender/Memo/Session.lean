import Recommender.Memo.Basic

/-!
# Sessions: a memo with its loads and callers

A session is a memo together with every load that has begun and every caller that has requested a
key.  It moves by six events.  A caller requests a key.  A load completes with an outcome; nobody
knows of it until the load *settles*, when the memo takes notice and the callers that wait for it
may go on.  Each of them resumes at a time of its own, unless it is cancelled before.  The memo is
cleared.

A load does not end with its callers: cancelling a caller leaves the load in flight.
-/

namespace Recommender

/-- How far a load has come. -/
inductive LoadStage (V : Type) where
  | running
  /-- The load has ended, and nobody has been told. -/
  | completed (o : Outcome V)
  /-- The memo has taken notice of the outcome, and callers may go on with it. -/
  | settled (o : Outcome V)
  deriving Repr, Inhabited

/-- A load that has begun. -/
structure Load (V : Type) where
  ticket : LoadTicket
  stage : LoadStage V := .running
  deriving Repr, Inhabited

/-- Where a caller stands. -/
inductive Caller (V : Type) where
  /-- The caller waits for a load. -/
  | waiting (load : Nat)
  /-- The caller was answered, or went on with the outcome of the load that it waited for. -/
  | finished (o : Outcome V)
  /-- The caller was cancelled while it waited. -/
  | cancelled
  deriving Repr, Inhabited

/-- A memo with its loads, by number, and its callers, in the order in which they came. -/
structure Session (V : Type) where
  memo : Memo V := {}
  loads : List (Load V) := []
  callers : List (Caller V) := []
  deriving Repr, Inhabited

/-- What can happen in a session. -/
inductive SessionEvent (V : Type) where
  | request (key : String)
  | complete (load : Nat) (o : Outcome V)
  | settle (load : Nat)
  | resume (caller : Nat)
  | cancel (caller : Nat)
  | clear
  deriving Repr

namespace LoadStage

variable {V : Type}

/-- The outcome of a load that has ended. -/
def outcome? : LoadStage V → Option (Outcome V)
  | .running => none
  | .completed o => some o
  | .settled o => some o

/-- The outcome of a load that has settled. -/
def settlement? : LoadStage V → Option (Outcome V)
  | .settled o => some o
  | _ => none

end LoadStage

namespace Caller

variable {V : Type}

/-- A caller after it was cancelled. -/
def afterCancelling : Caller V → Caller V
  | .waiting _ => .cancelled
  | c => c

end Caller

namespace Session

variable {V : Type}

/-- The ticket of a load. -/
def ticket? (s : Session V) (load : Nat) : Option LoadTicket :=
  s.loads[load]?.map (·.ticket)

/-- The outcome of a load, once it has ended. -/
def outcome? (s : Session V) (load : Nat) : Option (Outcome V) :=
  s.loads[load]?.bind (·.stage.outcome?)

/-- The outcome of a load, once it has settled. -/
def settlement? (s : Session V) (load : Nat) : Option (Outcome V) :=
  s.loads[load]?.bind (·.stage.settlement?)

/-- Where a caller stands that joins a load: it waits, unless the load has ended already. -/
def joining (s : Session V) (load : Nat) : Caller V :=
  (s.outcome? load).elim (.waiting load) .finished

/-- A caller requests a key; it begins a load if the key is neither remembered nor being loaded. -/
def request (s : Session V) (key : String) : Session V :=
  match s.memo.request key with
  | (.remembered v, memo) => { s with memo, callers := s.callers ++ [.finished (.value v)] }
  | (.joined n, memo) => { s with memo, callers := s.callers ++ [s.joining n] }
  | (.began t, memo) =>
    { memo, loads := s.loads ++ [{ ticket := t }], callers := s.callers ++ [.waiting t.number] }

/-- A load that is running ends with an outcome. -/
def complete (s : Session V) (load : Nat) (o : Outcome V) : Session V :=
  match s.loads[load]? with
  | some ⟨ticket, .running⟩ => { s with loads := s.loads.set load ⟨ticket, .completed o⟩ }
  | _ => s

/-- A load that has ended settles: the memo takes notice of its outcome. -/
def settle (s : Session V) (load : Nat) : Session V :=
  match s.loads[load]? with
  | some ⟨ticket, .completed o⟩ =>
    { s with
      memo := s.memo.settle ticket o
      loads := s.loads.set load ⟨ticket, .settled o⟩ }
  | _ => s

/-- Where a caller stands once it has had its turn: it goes on if its load has settled. -/
def afterResuming (s : Session V) : Caller V → Caller V
  | .waiting n => (s.settlement? n).elim (.waiting n) .finished
  | c => c

/-- A caller has its turn. -/
def resume (s : Session V) (caller : Nat) : Session V :=
  { s with callers := s.callers.modify caller s.afterResuming }

/-- A caller is cancelled. -/
def cancel (s : Session V) (caller : Nat) : Session V :=
  { s with callers := s.callers.modify caller Caller.afterCancelling }

/-- The memo is cleared. -/
def clear (s : Session V) : Session V :=
  { s with memo := s.memo.clear.2 }

/-- One event happens. -/
def step (s : Session V) : SessionEvent V → Session V
  | .request key => s.request key
  | .complete load o => s.complete load o
  | .settle load => s.settle load
  | .resume caller => s.resume caller
  | .cancel caller => s.cancel caller
  | .clear => s.clear

/-- Events happen one after the other. -/
def run (s : Session V) (events : List (SessionEvent V)) : Session V :=
  events.foldl step s

/-- A load ends, and everything that follows from it happens at once: it settles, and every caller
has its turn. -/
def deliver (s : Session V) (load : Nat) (o : Outcome V) : Session V :=
  s.run (.complete load o :: .settle load :: (List.range s.callers.length).map .resume)

@[simp] theorem run_nil (s : Session V) : s.run [] = s := rfl

@[simp] theorem run_cons (s : Session V) (e : SessionEvent V) (events : List (SessionEvent V)) :
    s.run (e :: events) = (s.step e).run events := rfl

theorem run_append (s : Session V) (first second : List (SessionEvent V)) :
    s.run (first ++ second) = (s.run first).run second := by
  simp [run]

end Session

end Recommender
