import Recommender.Aggregate.Subject
import Recommender.Json.Order
import Recommender.Rule.Basic

/-!
# Figure providers

A provider answers lookups and resolves user names.  It works from *figures*, which are the same
for every user, gives one *fixed* answer per family of lookups, or has answers of its *own* to every
lookup and name, of which nothing is assumed.  Figures should be whole numbers, and are taken as they
come.  Operations of collaborators can be told to fail, and a provider keeps a list of the calls that
reached it.
-/

namespace Recommender

/-- The operations of the collaborators that can be told to fail. -/
inductive Operation where
  | lookup (family : Family)
  | resolve
  | health
  | saveRule
  | listRules
  | ruleExists
  | deleteRule
  | initCount
  | increment
  | deleteCount
  | listCounts
  deriving DecidableEq, Repr

/-- The operations that fail, each with its failure. -/
abbrev Faults := List (Operation × Failure)

/-- The failure of an operation. -/
def Faults.find? (faults : Faults) (op : Operation) : Option Failure :=
  Assoc.find? op faults

/-- Figures on product types, the same for every user, and the users by name. -/
structure Figures where
  products : List Product := []
  deposits : List (Product × Json) := []
  withdrawals : List (Product × Json) := []
  transactionCounts : List (Product × Json) := []
  users : List (String × Uuid) := []
  deriving Repr, Inhabited

namespace Figures

/-- The number of transactions from which on a user is an active one. -/
def activeFrom : Int := 5

/-- The figure of a product type, zero if there is none. -/
def figure (figures : List (Product × Json)) (p : Product) : Json :=
  (Assoc.find? p figures).getD (.int 0)

/-- Whether a number of transactions makes a user an active one. -/
def isActive (count : Json) : Except Failure Bool :=
  ((Comparison.greaterOrEquals).compare? count (.int activeFrom)).elim (.error .mistyped) .ok

/-- The answer to a lookup. -/
def answer (f : Figures) : Lookup → Except Failure Json
  | .usage _ p => .ok (.bool (f.products.contains p))
  | .activity p _ => (isActive (figure f.transactionCounts p)).map .bool
  | .turnover p .deposit _ => .ok (figure f.deposits p)
  | .turnover p .withdraw _ => .ok (figure f.withdrawals p)
  | .deposits p _ => .ok (figure f.deposits p)
  | .withdrawals p _ => .ok (figure f.withdrawals p)

/-- The answer to an inquiry: there are figures on what names a product type only, and a list or an
object cannot be looked up. -/
def inquire (f : Figures) (family : Family) (s : Subject) (user : Uuid) : Except Failure Json :=
  match s.product? with
  | .error e => .error e
  | .ok (some product) => f.answer (.about family user product)
  | .ok none => (⟨[], [], [], [], []⟩ : Figures).answer (.about family user default)

/-- The user of a name.  Only a text names a user, and a list or an object cannot be a name. -/
def resolve (f : Figures) (name : Json) : Except Failure (Option Uuid) :=
  match name with
  | .str s => .ok (Assoc.find? s f.users)
  | .arr _ | .obj _ => .error .mistyped
  | _ => .ok none

/-! ## Figures in writing -/

/-- Read the name of a product type.  A list or an object is no name. -/
def readProduct : Json → Except Failure Product
  | .str s => (Product.ofName? s).elim (.error .missingColumn) .ok
  | .arr _ | .obj _ => .error .mistyped
  | _ => .error .missingColumn

/-- Read the product types that a value lists. -/
def readProducts (v : Json) : Except Failure (List Product) :=
  v.items?.elim (.error .mistyped) (·.mapM readProduct)

/-- The members of an object. -/
def readMembers : Json → Except Failure (List (String × Json))
  | .obj members => .ok members
  | _ => .error .unknownName

/-- Read figures by product type. -/
def readFigures (v : Json) : Except Failure (List (Product × Json)) := do
  let members ← readMembers v
  members.mapM fun m => (readProduct (.str m.1)).map (·, m.2)

/-- Read users by name. -/
def readUsers (v : Json) : Except Failure (List (String × Uuid)) := do
  let members ← readMembers v
  members.mapM fun m => (Uuid.read m.2).map (m.1, ·)

/-- Replace a field by what a member of an object writes, if it has such a member.  Once a member
could not be read, nothing is replaced any more. -/
def replace {α : Type} (v : Json) (name : String) (read : Json → Except Failure α)
    (set : α → Figures → Figures) (s : Except Failure Unit × Figures) :
    Except Failure Unit × Figures :=
  match s, v.get? name with
  | (.ok _, f), some w =>
    match read w with
    | .ok a => (.ok (), set a f)
    | .error e => (.error e, f)
  | s, _ => s

/-- Replace the fields that an object writes. -/
def update (v : Json) (f : Figures) : Except Failure Unit × Figures :=
  replace v "users" readUsers (fun a f => { f with users := a })
  (replace v "transaction_counts" readFigures (fun a f => { f with transactionCounts := a })
  (replace v "withdraws" readFigures (fun a f => { f with withdrawals := a })
  (replace v "deposits" readFigures (fun a f => { f with deposits := a })
  (replace v "products" readProducts (fun a f => { f with products := a }) (.ok (), f)))))

/-- Read figures; what is left out is empty. -/
def read (v : Json) : Except Failure Figures :=
  match update v {} with
  | (.ok _, f) => .ok f
  | (.error e, _) => .error e

end Figures

/-- Where a provider has its answers from. -/
inductive Source where
  | figures (f : Figures)
  | fixed (answers : List (Family × Json))
  /-- Answers of its own, which may differ from user to user. -/
  | own (answer : Lookup → Except Failure Json) (resolve : Json → Except Failure (Option Uuid))

namespace Source

instance : Inhabited Source := ⟨.figures {}⟩

/-- Whether calls are recorded that are told to fail. -/
def recordsFaults : Source → Bool
  | .figures _ => false
  | _ => true

/-- The answer to a lookup. -/
def answer (l : Lookup) : Source → Except Failure Json
  | .figures f => f.answer l
  | .fixed answers => .ok ((Assoc.find? l.family answers).getD .null)
  | .own answer _ => answer l

/-- The answer to an inquiry.  A source with answers of its own has none on what names no product
type. -/
def inquire (family : Family) (s : Subject) (user : Uuid) : Source → Except Failure Json
  | .figures f => f.inquire family s user
  | .fixed answers => .ok ((Assoc.find? family answers).getD .null)
  | .own answer _ =>
    match s.product? with
    | .error e => .error e
    | .ok (some product) => answer (.about family user product)
    | .ok none => .error .mistyped

/-- The user of a name. -/
def resolve (name : Json) : Source → Except Failure (Option Uuid)
  | .figures f => f.resolve name
  | .fixed _ => .ok none
  | .own _ resolve => resolve name

/-- Replace figures of a source.  Nothing else can be replaced in it. -/
def updateFigures (v : Json) : Source → Except Failure Unit × Source
  | .figures old =>
    match old.update v with
    | (result, f) => (result, .figures f)
  | source => ((Figures.read v).map fun _ => (), source)

end Source

/-- A call that reached a provider. -/
inductive Call where
  | lookup (l : Lookup)
  | inquiry (f : Family) (s : Subject) (user : Uuid)
  | resolve (name : Json)
  deriving Repr, BEq

/-- A provider of figures. -/
structure Provider where
  source : Source := .figures {}
  faults : Faults := []
  calls : List Call := []
  deriving Inhabited

namespace Provider

/-- The provider after one more call. -/
def called (p : Provider) (c : Call) : Provider :=
  { p with calls := p.calls ++ [c] }

/-- The calls that reached a provider, and the provider with an empty list of them. -/
def takeCalls (p : Provider) : List Call × Provider :=
  (p.calls, { p with calls := [] })

/-- Replace figures of a provider that works from figures. -/
def updateFigures (v : Json) (p : Provider) : Except Failure Unit × Provider :=
  match p.source.updateFigures v with
  | (result, source) => (result, { p with source })

/-- Have a provider work from another source. -/
def replaceSource (source : Source) (p : Provider) : Provider :=
  { p with source }

/-- Answer a call about a family of figures.  A provider of figures that is told to fail does not
record the call; any other one does. -/
def answerCall (family : Family) (c : Call) (answer : Source → Except Failure Json)
    (p : Provider) : Except Failure Json × Provider :=
  match p.faults.find? (.lookup family) with
  | none => (answer p.source, p.called c)
  | some e => (.error e, if p.source.recordsFaults then p.called c else p)

/-- Answer a lookup. -/
def answer (l : Lookup) (p : Provider) : Except Failure Json × Provider :=
  p.answerCall l.family (.lookup l) (·.answer l)

/-- Answer an inquiry. -/
def inquire (f : Family) (s : Subject) (user : Uuid) (p : Provider) :
    Except Failure Json × Provider :=
  match s with
  | .product product => p.answer (.about f user product)
  | s => p.answerCall f (.inquiry f s user) (·.inquire f s user)

/-- Resolve a user name. -/
def resolve (name : Json) (p : Provider) : Except Failure (Option Uuid) × Provider :=
  match p.faults.find? .resolve with
  | some e => (.error e, p)
  | none => (p.source.resolve name, p.called (.resolve name))

end Provider

end Recommender
