import Recommender.Failure

/-!
# Arguments by position and by name

Parameters are given values by position, by name, or not at all.  No parameter is given two
values, and no value is given to a parameter that there is not.
-/

namespace Recommender

/-- Values of parameters, by position and by name. -/
structure Arguments where
  positional : List Json := []
  named : List (String × Json) := []
  deriving Repr, Inhabited

namespace Arguments

/-- Read arguments from their written form. -/
def ofJson (v : Json) : Arguments :=
  ⟨v.listAt "args", v.entriesAt "kwargs"⟩

/-- The values given to parameters. -/
def bind (parameters : List String) (a : Arguments) : Except Failure Details :=
  let first := parameters.zip a.positional
  if parameters.length < a.positional.length then .error .mistyped
  else if a.named.any fun m => !parameters.contains m.1 || first.any (·.1 = m.1) then
    .error .mistyped
  else .ok (first ++ a.named)

/-- The values given to parameters, those in `required` among them. -/
def bindAll (parameters required : List String) (a : Arguments) : Except Failure Details := do
  let bound ← a.bind parameters
  if required.all fun p => Assoc.contains p bound then return bound else .error .mistyped

end Arguments

end Recommender
