import Recommender.Aggregate.Provider
import Recommender.Catalog.Predicate

/-!
# Predicates in writing

A predicate is written by its name and its arguments.  A text in an argument names a product type,
and a list names product types; any other argument is taken as it is.
-/

namespace Recommender

/-- Read an argument of a predicate. -/
def Subject.read (v : Json) : Except Failure Subject :=
  match v with
  | .str _ => (Figures.readProduct v).map .product
  | .arr items => (items.mapM Figures.readProduct).map .products
  | v => .ok (.value v)

namespace Predicate

/-- The names of the predicates, with the numbers of their arguments. -/
def arities : List (String × Nat) :=
  [("Predicate", 0), ("UsesProductOfType", 1), ("DoesNotUseProductOfType", 1),
    ("DepositsTotalGreaterThan", 2), ("WithdrawsTotalGreaterThan", 2),
    ("AnyDepositsTotalAtLeast", 2), ("DepositsGreaterThanWithdraws", 1)]

/-- The predicate of a name and arguments. -/
def ofArguments (name : String) (arguments : List Subject) :
    Except Failure (Predicate Subject) :=
  match name, arguments with
  | "Predicate", [] => return .undefined
  | "UsesProductOfType", [s] => return .uses s
  | "DoesNotUseProductOfType", [s] => return .doesNotUse s
  | "DepositsTotalGreaterThan", [s, n] => return .depositsExceed s n.toValue
  | "WithdrawsTotalGreaterThan", [s, n] => return .withdrawalsExceed s n.toValue
  | "AnyDepositsTotalAtLeast", [s, n] => do
    let subjects ← s.items
    return .anyDepositsReach subjects n.toValue
  | "DepositsGreaterThanWithdraws", [s] => return .depositsExceedWithdrawals s
  | _, _ => .error .mistyped

/-- Build the predicate of a name and arguments over a source of figures, which must be present once
the name and the arguments fit each other. -/
def build {α : Type} (name : String) (arguments : List Json) (source : Option α) :
    Except Failure (Predicate Subject × α) :=
  match Assoc.find? name arities with
  | none => .error .unknownName
  | some arity => do
    let subjects ← arguments.mapM Subject.read
    if subjects.length ≠ arity then throw .mistyped
    let source ← requireSource source
    let p ← ofArguments name subjects
    return (p, source)

end Predicate

/-- A provider as the collaborator of an inquiry about a user. -/
def Provider.inquirer (user : Uuid) : Program.Collaborator Inquiry Provider where
  answer := fun r p => p.inquire r.1 r.2 user
  notice := fun e _ => e.elim

end Recommender
