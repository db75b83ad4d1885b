import Recommender.Memo.Session

/-!
# Loads behind gates

A gated session lets the time at which loads settle be chosen from outside.  A load either settles
as soon as it has begun or waits at a named gate; releasing a gate settles every load that waits
there with one outcome, and every load that comes to the gate later.  Only the first release of a
gate counts.  Callers may be named, to be cancelled by name.
-/

namespace Recommender

/-- A session whose loads wait at gates. -/
structure GatedSession (V : Type) where
  session : Session V := {}
  /-- The gates that have been released. -/
  released : List (String × Outcome V) := []
  /-- The gates at which loads wait, by the number of the load. -/
  waiting : List (Nat × String) := []
  /-- The callers that have a name. -/
  names : List (String × Nat) := []
  deriving Repr, Inhabited

namespace GatedSession

variable {V : Type}

/-- The number of the load that a request has begun, if it has begun one. -/
def newLoad? (before after : Session V) : Option Nat :=
  if before.loads.length < after.loads.length then some before.loads.length else none

/-- Request a key, with a load that settles as soon as it has begun.  The result is where the caller
then stands. -/
def fetch (g : GatedSession V) (key : String) (o : Outcome V) : Caller V × GatedSession V :=
  let requested := g.session.request key
  let session := match newLoad? g.session requested with
    | some load => requested.deliver load o
    | none => requested
  (session.callers.getLast?.getD .cancelled, { g with session })

/-- Request a key as a named caller, with a load that waits at a gate. -/
def start (g : GatedSession V) (name key gate : String) : GatedSession V :=
  let requested := g.session.request key
  let names := Assoc.put name g.session.callers.length g.names
  match newLoad? g.session requested with
  | none => { g with session := requested, names }
  | some load =>
    match Assoc.find? gate g.released with
    | some o => { g with session := requested.deliver load o, names }
    | none => { g with session := requested, names, waiting := g.waiting ++ [(load, gate)] }

/-- Release a gate. -/
def release (g : GatedSession V) (gate : String) (o : Outcome V) : GatedSession V :=
  match Assoc.find? gate g.released with
  | some _ => g
  | none =>
    let due := (g.waiting.filter fun w => w.2 = gate).map (·.1)
    { g with
      session := due.foldl (fun s load => s.deliver load o) g.session
      waiting := g.waiting.filter fun w => w.2 ≠ gate
      released := (gate, o) :: g.released }

/-- Cancel a named caller, if there is one of the name. -/
def cancel? (g : GatedSession V) (name : String) : Option (GatedSession V) :=
  (Assoc.find? name g.names).map fun caller => { g with session := g.session.cancel caller }

/-- Clear the memo; the result is the number of values forgotten. -/
def clear (g : GatedSession V) : Nat × GatedSession V :=
  (g.session.memo.clear.1, { g with session := g.session.clear })

/-- Where the named callers stand. -/
def namedCallers (g : GatedSession V) : List (String × Caller V) :=
  g.names.filterMap fun n => g.session.callers[n.2]?.map fun c => (n.1, c)

end GatedSession

end Recommender
