import Recommender.Aggregate.Lookup

/-!
# Subjects of inquiries

Figures should be asked for product types.  An *inquiry* asks for a figure on any subject: a product
type, a list of them, or another value.
-/

namespace Recommender

/-- What figures are asked on. -/
inductive Subject where
  | product (p : Product)
  | products (ps : List Product)
  | value (v : Json)
  deriving Repr, Inhabited, BEq

namespace Subject

/-- The value that stands for a subject where values are compared: a product type is its name. -/
def toValue : Subject → Json
  | .product p => .str p.name
  | .products ps => .ofStrings (ps.map Product.name)
  | .value v => v

/-- The product type that a subject names, if it does; a list or an object cannot be looked up. -/
def product? (s : Subject) : Except Failure (Option Product) :=
  match s.toValue with
  | .str name => .ok (Product.ofName? name)
  | .arr _ | .obj _ => .error .mistyped
  | _ => .ok none

/-- The subjects that a subject lists. -/
def items (s : Subject) : Except Failure (List Subject) :=
  match s with
  | .products ps => .ok (ps.map .product)
  | s => s.toValue.items?.elim (.error .mistyped) fun items => .ok (items.map .value)

end Subject

/-- What an inquiry about one user asks: the family of a figure, and a subject. -/
def Inquiry : Interface where
  Request := Family × Subject
  Answer := fun _ => Json
  Event := Empty

end Recommender
