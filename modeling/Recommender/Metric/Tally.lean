/-!
# Tallies

A tally holds an amount per label.  A label is listed from the first time on that an amount is added
to it, even if the amount is zero.

What the service itself tallies is counted in whole numbers, which are exact.  A counter holds a
binary fraction, as the collector models it: whole numbers below 2^53 are added exactly in it, and at
2^53 a count by ones stands still.  So a tally agrees with its counter as long as the amount is below
this bound.  Statements about the collector carry the bound; those about tallies do not, because no
step of the service depends on an amount, and more than 10^15 occurrences are beyond any run of it.
-/

namespace Recommender

/-- Amounts by label, in the order in which the labels first occurred. -/
abbrev Tally (α β : Type) := List (α × β)

namespace Tally

variable {α β : Type} [DecidableEq α]

/-- The amount of a label, or `zero` if the label is not listed. -/
def amount (zero : β) (label : α) : Tally α β → β
  | [] => zero
  | (l, n) :: rest => if l = label then n else amount zero label rest

/-- Add to the amount of a label, which starts from `zero`. -/
def add [Add β] (zero : β) (label : α) (n : β) : Tally α β → Tally α β
  | [] => [(label, zero + n)]
  | (l, m) :: rest => if l = label then (l, m + n) :: rest else (l, m) :: add zero label n rest

/-- Count one occurrence of a label. -/
def count (label : α) (t : Tally α Nat) : Tally α Nat :=
  add 0 label 1 t

@[simp] theorem amount_add_self [Add β] (zero : β) (label : α) (n : β) (t : Tally α β) :
    amount zero label (add zero label n t) = amount zero label t + n := by
  induction t with
  | nil => simp [add, amount]
  | cons e rest ih =>
    obtain ⟨l, m⟩ := e
    by_cases h : l = label <;> simp [add, amount, h, ih]

theorem amount_add_ne [Add β] (zero : β) {label other : α} (h : other ≠ label) (n : β)
    (t : Tally α β) : amount zero other (add zero label n t) = amount zero other t := by
  induction t with
  | nil => simp [add, amount, h.symm]
  | cons e rest ih =>
    obtain ⟨l, m⟩ := e
    by_cases hl : l = label
    · simp [add, amount, hl, h.symm]
    · by_cases ho : l = other
      · subst ho
        simp [add, amount, hl]
      · simp [add, amount, hl, ho, ih]

end Tally

end Recommender
