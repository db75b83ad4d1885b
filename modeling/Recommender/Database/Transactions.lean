import Recommender.Aggregate.Provider
import Recommender.Database.Connection

/-!
# Figures from the transactions database

A user uses a product type if there is a transaction on it, and is an active user of it from five
transactions on.  Sums are taken as whole numbers, toward zero.
-/

namespace Recommender.Transactions

/-- The number of a user's transactions on products of a type. -/
def count (user : Uuid) (product : Product) : Program Database Cell :=
  Database.withConnection .transactions
    (Database.fetchCell (.countTransactions user product))

/-- The sum of a user's transactions of one direction on products of a type. -/
def sum (product : Product) (direction : Direction) (user : Uuid) : Program Database Int := do
  let total ← Database.withConnection .transactions
    (Database.fetchCell (.sumTransactions product direction user))
  Program.ofExcept total.toInteger

/-- Whether a user has used a product of a type. -/
def uses (user : Uuid) (product : Product) : Program Database Bool := do
  let n ← count user product
  let order ← Program.ofExcept (n.order 0)
  return order = some .gt

/-- Whether a user uses a product of a type actively. -/
def isActive (product : Product) (user : Uuid) : Program Database Bool := do
  let n ← count user product
  let order ← Program.ofExcept (n.order Figures.activeFrom)
  return order = some .gt || order = some .eq

/-- Answer a lookup. -/
def answer : Lookup → Program Database Json
  | .usage user product => do
    let used ← uses user product
    return .bool used
  | .activity product user => do
    let active ← isActive product user
    return .bool active
  | .turnover product direction user => do
    let total ← sum product direction user
    return .int total
  | .deposits product user => do
    let total ← sum product .deposit user
    return .int total
  | .withdrawals product user => do
    let total ← sum product .withdraw user
    return .int total

/-- The user that the rows of a name tell: there has to be exactly one. -/
def onlyUser (rows : Cell) : Except Failure Cell := do
  let listed ← rows.listed
  if listed.length = 1 then
    let row ← rows.first
    row.column "id"
  else return .value .null

/-- The only user of a name. -/
def resolve (name : Json) : Program Database Cell := do
  let rows ← Database.withConnection .transactions (Database.fetch (.selectUser name))
  Program.ofExcept (onlyUser rows)

/-- Carry out a judgement by the transactions database; verdicts are not recorded. -/
def judge {α : Type} (p : Program Judgement α) : Program Database α :=
  p.interpret (J := Database) answer fun _ => .done ()

end Recommender.Transactions
