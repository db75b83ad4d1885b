import Recommender.Json.Order

/-!
# Identifiers of rules

A rule store gives its rules whole numbers as identifiers, but a rule may be put in under any value
that is no list and no object.  Truth values and binary fractions that are whole numbers are the
same identifier as the whole number; an identifier is shown in the form in which it was first used.
-/

namespace Recommender

/-- What tells identifiers apart. -/
inductive RuleKey where
  | nothing
  | number (n : Int)
  /-- A binary fraction that is no whole number. -/
  | fraction (x : Binary64)
  | text (s : String)
  deriving DecidableEq, Repr, Inhabited

/-- An identifier in the form in which it was given. -/
inductive RuleId where
  | nothing
  | truth (b : Bool)
  | number (n : Int)
  | binary (x : Binary64)
  | text (s : String)
  deriving DecidableEq, Repr, Inhabited

namespace RuleId

instance : Coe Int RuleId := ⟨.number⟩

/-- The identifier that a value is; a list or an object is none. -/
def ofJson? : Json → Option RuleId
  | .null => some .nothing
  | .bool b => some (.truth b)
  | .int n => some (.number n)
  | .float x => some (.binary x)
  | .str s => some (.text s)
  | .arr _ | .obj _ => none

/-- The form in which an identifier was given. -/
def toJson : RuleId → Json
  | .nothing => .null
  | .truth b => .bool b
  | .number n => .int n
  | .binary x => .float x
  | .text s => .str s

/-- What tells an identifier from others. -/
def key (id : RuleId) : RuleKey :=
  match id with
  | .nothing => .nothing
  | .truth b => .number (if b then 1 else 0)
  | .number n => .number n
  | .binary x => (id.toJson.wholeNumber?).elim (.fraction x) .number
  | .text s => .text s

/-- Whether an identifier comes before another one. -/
def precedes (a b : RuleId) : Bool :=
  a.toJson.order? b.toJson = some (some .lt)

/-- Whether identifiers have an order, which only numbers and texts among themselves have. -/
def areOrdered : List RuleId → Bool
  | [] | [_] => true
  | a :: b :: rest => (a.toJson.order? b.toJson).isSome && areOrdered (b :: rest)

@[simp] theorem ofJson?_int (n : Int) : ofJson? (.int n) = some (.number n) := rfl

@[simp] theorem ofJson?_toJson (id : RuleId) : ofJson? id.toJson = some id := by
  cases id <;> rfl

@[simp] theorem key_number (n : Int) : key (.number n) = .number n := rfl

@[simp] theorem precedes_number (n m : Int) :
    precedes (.number n) (.number m) = decide (n < m) := by
  simp [precedes, toJson, Int.compare_eq_lt]

end RuleId

end Recommender
