import Recommender.Rule.Basic
import Recommender.Rule.Token

/-!
# Validated queries

A *clause* is a query whose operator and arguments have been read as what they denote.  A query is
validated in three steps, and the first one that fails decides the failure: its operator denotes
an operator of the language, it has as many arguments as the operator has slots, and each
argument, from the first to the last, denotes a value of its slot's kind.
-/

namespace Recommender

/-- What a clause asks about a user. -/
inductive Condition where
  | userOf (product : Product)
  | activeUserOf (product : Product)
  | sumCompare (product : Product) (direction : Direction) (comparison : Comparison)
      (constant : Int)
  | depositWithdrawCompare (product : Product) (comparison : Comparison)
  deriving DecidableEq, Repr, Inhabited

/-- A value that an argument denotes. -/
inductive Argument where
  | product (p : Product)
  | direction (d : Direction)
  | comparison (c : Comparison)
  | integer (n : Int)
  deriving DecidableEq, Repr

namespace Condition

/-- The operator of a condition. -/
def operator : Condition → Operator
  | .userOf _ => .userOf
  | .activeUserOf _ => .activeUserOf
  | .sumCompare .. => .sumCompare
  | .depositWithdrawCompare .. => .depositWithdrawCompare

/-- The arguments of a condition, in the order of the operator's slots. -/
def arguments : Condition → List Argument
  | .userOf p => [.product p]
  | .activeUserOf p => [.product p]
  | .sumCompare p d c n => [.product p, .direction d, .comparison c, .integer n]
  | .depositWithdrawCompare p c => [.product p, .comparison c]

@[simp] theorem length_arguments (c : Condition) : c.arguments.length = c.operator.arity := by
  cases c <;> rfl

end Condition

/-- A validated query. -/
structure Clause where
  condition : Condition
  negate : Bool := false
  deriving DecidableEq, Repr, Inhabited

namespace Query

/-- The arguments of a query as a list.  Anything that does not count as true is an empty list. -/
def argumentList (q : Query) : Except Failure (List Json) :=
  if q.arguments.truthy then q.arguments.items?.elim (.error .mistyped) .ok else .ok []

/-- The failure of a query with the wrong number of arguments. -/
def wrongCount (op : Operator) (actual : Nat) : Failure :=
  .service (.illegalArguments op.name
    ("expected " ++ toString op.arity ++ " argument(s), got " ++ toString actual)
    [("expected", .int op.arity), ("actual", .int actual)] none)

/-- The failure of a query whose argument at a position denotes nothing of its slot's kind. -/
def wrongArgument (op : Operator) (position : Nat) (raw : Json) (why : ServiceError) : Failure :=
  .service (.illegalArguments op.name why.message
    [("position", .int position), ("value", .str raw.text)] (some why))

/-- Read an argument as what it denotes, reporting its position where it denotes nothing. -/
def argument {α : Type} (op : Operator) (position : Nat) (raw : Json)
    (reading : Except ServiceError α) : Except Failure α :=
  match (Token.value raw).reported reading with
  | .ok (.ok a) => .ok a
  | .ok (.error e) => .error (wrongArgument op position raw e)
  | .error e => .error e

/-- Read the arguments of an operator. -/
def condition (op : Operator) (args : List Json) : Except Failure Condition :=
  match op, args with
  | .userOf, [p] => do
    let product ← argument op 0 p (Token.value p).toProduct
    return .userOf product
  | .activeUserOf, [p] => do
    let product ← argument op 0 p (Token.value p).toProduct
    return .activeUserOf product
  | .sumCompare, [p, d, c, n] => do
    let product ← argument op 0 p (Token.value p).toProduct
    let direction ← argument op 1 d (Token.value d).toDirection
    let comparison ← argument op 2 c (Token.value c).toComparison
    let reading ← (Token.value n).toInteger
    let constant ← argument op 3 n reading
    return .sumCompare product direction comparison constant
  | .depositWithdrawCompare, [p, c] => do
    let product ← argument op 0 p (Token.value p).toProduct
    let comparison ← argument op 1 c (Token.value c).toComparison
    return .depositWithdrawCompare product comparison
  | _, _ => .error (wrongCount op args.length)

/-- Validate a query. -/
def validate (q : Query) : Except Failure Clause :=
  match (Token.value q.operator).reported (Token.value q.operator).toOperator with
  | .error e => .error e
  | .ok (.error e) => .error (.service e)
  | .ok (.ok op) => do
    let args ← q.argumentList
    let condition ← condition op args
    return ⟨condition, q.negate.truthy⟩

end Query

/-- Validate every query of a rule; the first failure counts. -/
def Rule.validate (r : Rule) : Except Failure (List Clause) :=
  r.queryList.mapM Query.validate

end Recommender
