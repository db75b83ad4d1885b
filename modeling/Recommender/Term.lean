import Recommender.Json.Order

/-!
# The closed vocabularies of the query language

Product types, directions of transactions, comparisons, operators and the kinds of argument slots.
Each has its members, the name a member is written by and the member of a name.
-/

namespace Recommender

/-- A type of bank product. -/
inductive Product where
  | debit
  | credit
  | saving
  | invest
  deriving DecidableEq, Repr, Inhabited

namespace Product

/-- Every product type. -/
def all : List Product := [.debit, .credit, .saving, .invest]

/-- The name of a product type. -/
def name : Product → String
  | .debit => "DEBIT"
  | .credit => "CREDIT"
  | .saving => "SAVING"
  | .invest => "INVEST"

/-- The product type of a name. -/
def ofName? (s : String) : Option Product :=
  all.find? fun p => p.name = s

@[simp] theorem ofName?_name (p : Product) : ofName? p.name = some p := by
  cases p <;> rfl

theorem ofName?_eq_some {s : String} {p : Product} : ofName? s = some p ↔ s = p.name := by
  constructor
  · intro h
    have hname := List.find?_some h
    exact (of_decide_eq_true hname).symm
  · rintro rfl
    exact ofName?_name p

theorem name_injective {p q : Product} (h : p.name = q.name) : p = q := by
  have := congrArg ofName? h
  simpa using this

end Product

/-- The direction in which a transaction moves money. -/
inductive Direction where
  | withdraw
  | deposit
  deriving DecidableEq, Repr, Inhabited

namespace Direction

/-- Both directions. -/
def all : List Direction := [.withdraw, .deposit]

/-- The name of a direction. -/
def name : Direction → String
  | .withdraw => "WITHDRAW"
  | .deposit => "DEPOSIT"

/-- The direction of a name. -/
def ofName? (s : String) : Option Direction :=
  all.find? fun d => d.name = s

@[simp] theorem ofName?_name (d : Direction) : ofName? d.name = some d := by
  cases d <;> rfl

theorem ofName?_eq_some {s : String} {d : Direction} : ofName? s = some d ↔ s = d.name := by
  constructor
  · intro h
    have hname := List.find?_some h
    exact (of_decide_eq_true hname).symm
  · rintro rfl
    exact ofName?_name d

theorem name_injective {d e : Direction} (h : d.name = e.name) : d = e := by
  have := congrArg ofName? h
  simpa using this

end Direction

/-- A comparison of two numbers. -/
inductive Comparison where
  | greater
  | less
  | equals
  | greaterOrEquals
  | lessOrEquals
  deriving DecidableEq, Repr, Inhabited

namespace Comparison

/-- Every comparison. -/
def all : List Comparison := [.greater, .less, .equals, .greaterOrEquals, .lessOrEquals]

/-- The name of a comparison. -/
def name : Comparison → String
  | .greater => "GREATER_THAN"
  | .less => "LESS_THAN"
  | .equals => "EQUALS"
  | .greaterOrEquals => "GREATER_OR_EQUALS"
  | .lessOrEquals => "LESS_OR_EQUALS"

/-- The symbol of a comparison. -/
def symbol : Comparison → String
  | .greater => ">"
  | .less => "<"
  | .equals => "="
  | .greaterOrEquals => ">="
  | .lessOrEquals => "<="

/-- The comparison of a name. -/
def ofName? (s : String) : Option Comparison :=
  all.find? fun c => c.name = s

/-- The comparison of a name or a symbol. -/
def ofText? (s : String) : Option Comparison :=
  (ofName? s).or (all.find? fun c => c.symbol = s)

@[simp] theorem ofText?_name (c : Comparison) : ofText? c.name = some c := by
  cases c <;> rfl

@[simp] theorem ofText?_symbol (c : Comparison) : ofText? c.symbol = some c := by
  cases c <;> rfl

theorem ofText?_eq_some {s : String} {c : Comparison} :
    ofText? s = some c ↔ s = c.name ∨ s = c.symbol := by
  constructor
  · intro h
    rw [ofText?, Option.or_eq_some_iff] at h
    rcases h with h | ⟨-, h⟩
    · have hname := List.find?_some h
      exact .inl (of_decide_eq_true hname).symm
    · have hsymbol := List.find?_some h
      exact .inr (of_decide_eq_true hsymbol).symm
  · rintro (rfl | rfl)
    · exact ofText?_name c
    · exact ofText?_symbol c

/-- Whether a comparison holds between two values that are ordered in a given way. -/
def accepts : Comparison → Ordering → Bool
  | .greater, o => o == .gt
  | .less, o => o == .lt
  | .equals, o => o == .eq
  | .greaterOrEquals, o => o != .lt
  | .lessOrEquals, o => o != .gt

/-- Whether a comparison holds between two values, and `none` where they have no order.  Equality is
defined on all values. -/
def compare? (c : Comparison) (left right : Json) : Option Bool :=
  if c = .equals then some (left.equal right)
  else (left.order? right).map fun o =>
    match o with
    | some o => c.accepts o
    | none => false

@[simp] theorem compare?_int (c : Comparison) (n m : Int) :
    c.compare? (.int n) (.int m) = some (c.accepts (compare n m)) := by
  have same : (n == m) = (compare n m == .eq) := by
    rw [Bool.eq_iff_iff]
    simp
  cases c <;> simp [compare?, accepts, same]

end Comparison

/-- The kind of value that an argument slot takes. -/
inductive Slot where
  | product
  | direction
  | comparison
  | integer
  deriving DecidableEq, Repr, Inhabited

/-- The name of a slot kind. -/
def Slot.name : Slot → String
  | .product => "product_type"
  | .direction => "transaction_type"
  | .comparison => "comparison_type"
  | .integer => "integer"

/-- An operator of the query language. -/
inductive Operator where
  /-- The user has used a product of a type. -/
  | userOf
  /-- The user uses a product of a type actively. -/
  | activeUserOf
  /-- The transactions of one direction on a product type add up to more, less or as much as a
  constant. -/
  | sumCompare
  /-- The deposits on a product type add up to more, less or as much as the withdrawals. -/
  | depositWithdrawCompare
  deriving DecidableEq, Repr, Inhabited

namespace Operator

/-- Every operator. -/
def all : List Operator := [.userOf, .activeUserOf, .sumCompare, .depositWithdrawCompare]

/-- The name of an operator. -/
def name : Operator → String
  | .userOf => "USER_OF"
  | .activeUserOf => "ACTIVE_USER_OF"
  | .sumCompare => "TRANSACTION_SUM_COMPARE"
  | .depositWithdrawCompare => "TRANSACTION_SUM_COMPARE_DEPOSIT_WITHDRAW"

/-- The operator of a name. -/
def ofName? (s : String) : Option Operator :=
  all.find? fun o => o.name = s

/-- The kinds of an operator's arguments, in order. -/
def slots : Operator → List Slot
  | .userOf => [.product]
  | .activeUserOf => [.product]
  | .sumCompare => [.product, .direction, .comparison, .integer]
  | .depositWithdrawCompare => [.product, .comparison]

/-- The number of an operator's arguments. -/
def arity (o : Operator) : Nat :=
  o.slots.length

@[simp] theorem ofName?_name (o : Operator) : ofName? o.name = some o := by
  cases o <;> rfl

theorem ofName?_eq_some {s : String} {o : Operator} : ofName? s = some o ↔ s = o.name := by
  constructor
  · intro h
    have hname := List.find?_some h
    exact (of_decide_eq_true hname).symm
  · rintro rfl
    exact ofName?_name o

theorem name_injective {o o' : Operator} (h : o.name = o'.name) : o = o' := by
  have := congrArg ofName? h
  simpa using this

end Operator

end Recommender
