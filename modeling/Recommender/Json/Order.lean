import Recommender.Json.Basic
import Recommender.Number.Quantity
import Recommender.Text.Half

/-!
# Equality and order of JSON values

Truth values count as the numbers 0 and 1 and numbers are compared exactly.  Any two values can be
tested for equality; only numbers with numbers, texts with texts and lists with lists are ordered.
Texts are ordered by code points, lists by their first unequal items.  What is no number is not equal
to itself, but inside of lists and objects it is the same as itself.
-/

namespace Recommender.Json

/-- The number that a value counts as. -/
def quantity? : Json → Option Quantity
  | .bool b => some (.ofInt (if b then 1 else 0))
  | .int n => some (.ofInt n)
  | .float x => some (.ofBinary x)
  | _ => none

/-- Whether a value stands where a number should, but is none. -/
def isNoNumber : Json → Bool
  | .float .notANumber => true
  | _ => false

mutual
/-- Whether two values are equal. -/
def equal : Json → Json → Bool
  | .null, .null => true
  | .str s, .str t => s == t
  | .arr xs, .arr ys => equalItems xs ys
  | .obj xs, .obj ys => xs.length == ys.length && equalMembers xs ys
  | a, b =>
    match a.quantity?, b.quantity? with
    | some x, some y => x.order? y == some .eq
    | _, _ => false

/-- Whether two lists have equal items. -/
def equalItems : List Json → List Json → Bool
  | [], [] => true
  | x :: xs, y :: ys => ((isNoNumber x && isNoNumber y) || equal x y) && equalItems xs ys
  | _, _ => false

/-- Whether every member of the first object has an equal one in the second. -/
def equalMembers : List (String × Json) → List (String × Json) → Bool
  | [], _ => true
  | (k, v) :: rest, ys =>
    (match Assoc.find? k ys with
      | some w => (isNoNumber v && isNoNumber w) || equal v w
      | none => false) && equalMembers rest ys
end

/-- Whether two values are the same where they stand in a list or an object. -/
def same (a b : Json) : Bool :=
  (isNoNumber a && isNoNumber b) || equal a b

mutual
/-- The order of two values: `none` where they have no order, `some none` where they could have one
but a value that is not a number stands in its way. -/
def order? : Json → Json → Option (Option Ordering)
  | .str s, .str t => some (some (compareCodePoints s t))
  | .arr xs, .arr ys => orderItems? xs ys
  | a, b =>
    match a.quantity?, b.quantity? with
    | some x, some y => some (x.order? y)
    | _, _ => none

/-- The order of two lists. -/
def orderItems? : List Json → List Json → Option (Option Ordering)
  | [], [] => some (some .eq)
  | [], _ :: _ => some (some .lt)
  | _ :: _, [] => some (some .gt)
  | x :: xs, y :: ys => if same x y then orderItems? xs ys else order? x y
end

@[simp] theorem order?_int (n m : Int) : order? (.int n) (.int m) = some (some (compare n m)) := by
  simp [order?, quantity?]

@[simp] theorem equal_int (n m : Int) : equal (.int n) (.int m) = (n == m) := by
  rw [Bool.eq_iff_iff]
  simp [equal, quantity?]

end Recommender.Json
