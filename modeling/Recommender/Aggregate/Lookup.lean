import Recommender.Program
import Recommender.Term
import Recommender.Uuid

/-!
# Lookups of aggregate figures

What rules are judged by: five figures about a user's transactions on the products of a type.  Each
lookup belongs to a family, the families in which figures are remembered apart.
-/

namespace Recommender

/-- The families of lookups. -/
inductive Family where
  | usage
  | activity
  | turnover
  | deposits
  | withdrawals
  deriving DecidableEq, Repr, Inhabited

namespace Family

/-- Every family, in the order in which families are listed. -/
def all : List Family := [.usage, .activity, .turnover, .deposits, .withdrawals]

/-- The name of a family. -/
def name : Family → String
  | .usage => "product"
  | .activity => "active"
  | .turnover => "sum"
  | .deposits => "deposit"
  | .withdrawals => "withdraw"

end Family

/-- A question about one user. -/
inductive Lookup where
  /-- Whether the user has used a product of a type. -/
  | usage (user : Uuid) (product : Product)
  /-- Whether the user uses a product of a type actively. -/
  | activity (product : Product) (user : Uuid)
  /-- The sum of the user's transactions of one direction on products of a type. -/
  | turnover (product : Product) (direction : Direction) (user : Uuid)
  /-- The sum of the user's deposits on products of a type. -/
  | deposits (product : Product) (user : Uuid)
  /-- The sum of the user's withdrawals from products of a type. -/
  | withdrawals (product : Product) (user : Uuid)
  deriving DecidableEq, Repr

namespace Lookup

/-- The family of a lookup. -/
def family : Lookup → Family
  | .usage .. => .usage
  | .activity .. => .activity
  | .turnover .. => .turnover
  | .deposits .. => .deposits
  | .withdrawals .. => .withdrawals

/-- The user that a lookup is about. -/
def user : Lookup → Uuid
  | .usage u _ => u
  | .activity _ u => u
  | .turnover _ _ u => u
  | .deposits _ u => u
  | .withdrawals _ u => u

/-- The product type that a lookup is about. -/
def product : Lookup → Product
  | .usage _ p => p
  | .activity p _ => p
  | .turnover p _ _ => p
  | .deposits p _ => p
  | .withdrawals p _ => p

/-- The lookup of a family about a user and a product type; a sum is one of deposits. -/
def about (f : Family) (user : Uuid) (product : Product) : Lookup :=
  match f with
  | .usage => .usage user product
  | .activity => .activity product user
  | .turnover => .turnover product .deposit user
  | .deposits => .deposits product user
  | .withdrawals => .withdrawals product user

/-- The name of the question that a lookup asks, told apart by the direction of a sum. -/
def question : Lookup → String
  | .turnover _ d _ => "sum_" ++ d.name
  | l => l.family.name

end Lookup

/-- The key under which an answer is remembered: the question, the user and the product type. -/
def lookupKey (question user product : String) : String :=
  question ++ "_" ++ user ++ "_" ++ product

/-- The key of a lookup. -/
def Lookup.key (l : Lookup) : String :=
  lookupKey l.question l.user.text l.product.name

/-- How the evaluation of a rule ended. -/
inductive Verdict where
  | matched
  | notMatched
  | malformed
  deriving DecidableEq, Repr, Inhabited

/-- The name of a verdict. -/
def Verdict.name : Verdict → String
  | .matched => "matched"
  | .notMatched => "not_matched"
  | .malformed => "malformed"

/-- What the judgement of a user asks and records: figures are looked up, verdicts recorded. -/
def Judgement : Interface where
  Request := Lookup
  Answer := fun _ => Json
  Event := Verdict

end Recommender
