import Recommender.Failure

/-!
# Checked values

A checked value is a value, or the issues for which its input was not accepted.  Parts of an input
are checked independently of each other, so that the issues of all parts are reported together, in
the order of the parts.
-/

namespace Recommender

/-- A value, or the issues of its input. -/
abbrev Checked (α : Type) := Except (List Issue) α

namespace Checked

variable {α β : Type}

/-- An input that is not accepted as a whole. -/
def refuse (kind : IssueKind) (input : Json) : Checked α :=
  .error [⟨kind, [], input⟩]

/-- A part of an input, seen from the whole. -/
def under (step : Step) : Checked α → Checked α
  | .ok a => .ok a
  | .error issues => .error (issues.map (Issue.under step))

/-- Apply a checked function to a checked value, with the issues of both. -/
def apply : Checked (α → β) → Checked α → Checked β
  | .ok f, .ok a => .ok (f a)
  | .ok _, .error issues => .error issues
  | .error issues, .ok _ => .error issues
  | .error issues, .error more => .error (issues ++ more)

/-- Check the items of a list from a position on. -/
def itemsFrom (check : Json → Checked α) : (position : Nat) → List Json → Checked (List α)
  | _, [] => .ok []
  | position, v :: rest =>
    apply (apply (.ok List.cons) ((check v).under (.index position)))
      (itemsFrom check (position + 1) rest)

/-- A checked value as the result of an operation. -/
def toResult : Checked α → Except Failure α
  | .ok a => .ok a
  | .error issues => .error (.rejected issues)

@[simp] theorem apply_ok (f : α → β) (a : α) : apply (.ok f) (.ok a) = .ok (f a) := rfl

theorem apply_eq_ok {f : Checked (α → β)} {a : Checked α} {b : β} (h : apply f a = .ok b) :
    ∃ g x, f = .ok g ∧ a = .ok x ∧ g x = b := by
  cases f <;> cases a <;> simp_all [apply]

end Checked

end Recommender
