import Recommender.Failure
import Recommender.Number.Numeral
import Recommender.Term

/-!
# Tokens

A token is a free value that should denote a member of a vocabulary or a whole number.  It is either
a JSON value, which denotes a member through its text, or a member itself.  A token that denotes
nothing is reported as a service error, which shows the token.  Two tokens are failures of their
own: a numeral of too many digits, and a token that cannot be shown.
-/

namespace Recommender

/-- A member of a vocabulary. -/
inductive Term where
  | product (p : Product)
  | direction (d : Direction)
  | comparison (c : Comparison)
  | operator (o : Operator)
  | slot (s : Slot)
  deriving DecidableEq, Repr

namespace Term

/-- The full name of a member, with its vocabulary. -/
def text : Term → String
  | .product p => "ProductType." ++ p.name
  | .direction d => "TransactionType." ++ d.name
  | .comparison c => "ComparisonType." ++ c.name
  | .operator o => "QueryType." ++ o.name
  | .slot .product => "ArgumentKind.PRODUCT_TYPE"
  | .slot .direction => "ArgumentKind.TRANSACTION_TYPE"
  | .slot .comparison => "ArgumentKind.COMPARISON_TYPE"
  | .slot .integer => "ArgumentKind.INTEGER"

end Term

/-- A value that should denote something. -/
inductive Token where
  | value (v : Json)
  | term (t : Term)
  deriving Repr, Inhabited

namespace Token

instance : Coe Json Token := ⟨.value⟩

/-- Whether a token can be shown in a message. -/
def isShowable : Token → Bool
  | .value v => v.isShowable
  | .term _ => true

/-- The text that a token has in a message if it can be shown. -/
def text : Token → String
  | .value v => v.text
  | .term t => t.text

/-- What was read of a token.  That a token denotes nothing is reported only if it can be shown. -/
def reported {α : Type} (t : Token) (reading : Except ServiceError α) :
    Except Failure (Except ServiceError α) :=
  match reading with
  | .ok a => .ok (.ok a)
  | .error e => if t.isShowable then .ok (.error e) else .error .unreadable

/-- The product type that a token denotes. -/
def toProduct (t : Token) : Except ServiceError Product :=
  let unknown := Except.error (.unknownProduct t.text)
  match t with
  | .term (.product p) => .ok p
  | .value (.str s) => (Product.ofName? s).elim unknown .ok
  | _ => unknown

/-- The direction that a token denotes. -/
def toDirection (t : Token) : Except ServiceError Direction :=
  let unknown := Except.error (.unknownDirection t.text)
  match t with
  | .term (.direction d) => .ok d
  | .value (.str s) => (Direction.ofName? s).elim unknown .ok
  | _ => unknown

/-- The comparison that a token denotes, by its name or its symbol. -/
def toComparison (t : Token) : Except ServiceError Comparison :=
  let unknown := Except.error (.unknownComparison t.text)
  match t with
  | .term (.comparison c) => .ok c
  | .value (.str s) => (Comparison.ofText? s).elim unknown .ok
  | _ => unknown

/-- The operator that a token denotes. -/
def toOperator (t : Token) : Except ServiceError Operator :=
  let unknown := Except.error (.unknownOperator t.text)
  match t with
  | .term (.operator o) => .ok o
  | .value (.str s) => (Operator.ofName? s).elim unknown .ok
  | _ => unknown

/-- The whole number that a token denotes.  The inner result tells a token that is no numeral; the
outer failure is a numeral of too many digits, or a token that cannot be shown. -/
def toInteger (t : Token) : Except Failure (Except ServiceError Int) :=
  let unknown := t.reported (.error (.notInteger t.text))
  match t with
  | .value (.str s) =>
    match Numeral.read s with
    | .ok n => .ok (.ok n)
    | .error .oversized => .error .unreadable
    | .error .malformed => unknown
  | _ => unknown

@[simp] theorem reported_ok {α : Type} (t : Token) (a : α) : t.reported (.ok a) = .ok (.ok a) := rfl

theorem reported_of_isShowable {α : Type} {v : Json} (h : v.isShowable = true)
    (reading : Except ServiceError α) : (value v).reported reading = .ok reading := by
  cases reading <;> simp [reported, isShowable, h]

@[simp] theorem reported_str {α : Type} (s : String) (reading : Except ServiceError α) :
    (value (.str s)).reported reading = .ok reading :=
  reported_of_isShowable rfl reading

@[simp] theorem toProduct_name (p : Product) : (value (.str p.name)).toProduct = .ok p := by
  simp [toProduct]

@[simp] theorem toDirection_name (d : Direction) : (value (.str d.name)).toDirection = .ok d := by
  simp [toDirection]

@[simp] theorem toComparison_name (c : Comparison) :
    (value (.str c.name)).toComparison = .ok c := by
  simp [toComparison]

@[simp] theorem toComparison_symbol (c : Comparison) :
    (value (.str c.symbol)).toComparison = .ok c := by
  simp [toComparison]

@[simp] theorem toOperator_name (o : Operator) : (value (.str o.name)).toOperator = .ok o := by
  simp [toOperator]

end Token

end Recommender
