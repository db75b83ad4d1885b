import Recommender.Failure
import Recommender.Json.Order
import Recommender.Number.Decimal.Written
import Recommender.Number.Numeral
import Recommender.Uuid

/-!
# Values of a database

A cell is a value that a database answers with: a plain value, an identifier, a decimal number, a
list of cells, or a row, which has its cells by column.  What a statement selects should be a list
of rows.  It is taken as it comes, and whatever it is not used as must fail where it is used.
-/

namespace Recommender

/-- A value of a database. -/
inductive Cell where
  | value (v : Json)
  | uuid (u : Uuid)
  | decimal (d : Decimal)
  | list (cells : List Cell)
  | row (columns : List (String × Cell))
  deriving Repr

namespace Cell

instance : Inhabited Cell := ⟨.value .null⟩
instance : Coe Json Cell := ⟨.value⟩
instance : Coe Uuid Cell := ⟨.uuid⟩

/-- A text cell. -/
def text (s : String) : Cell :=
  .value (.str s)

/-- A whole number cell. -/
def int (n : Int) : Cell :=
  .value (.int n)

mutual
/-- A cell as a plain value: identifiers and decimals are their texts. -/
def plain : Cell → Json
  | .value v => v
  | .uuid u => .str u.text
  | .decimal d => .str d.text
  | .list cells => .arr (plainItems cells)
  | .row columns => .obj (plainColumns columns)

/-- Cells as plain values. -/
def plainItems : List Cell → List Json
  | [] => []
  | c :: rest => plain c :: plainItems rest

/-- The cells of a row as plain values. -/
def plainColumns : List (String × Cell) → List (String × Json)
  | [] => []
  | (name, c) :: rest => (name, plain c) :: plainColumns rest
end

/-! ## Display -/

mutual
/-- The display form of a cell, with identifiers and decimals named as such. -/
def display : Cell → String
  | .value v => v.display
  | .uuid u => "UUID(" ++ displayQuoted u.text ++ ")"
  | .decimal d => "Decimal(" ++ displayQuoted d.text ++ ")"
  | .list cells => "[" ++ ", ".intercalate (displayItems cells) ++ "]"
  | .row columns => "\x7b" ++ ", ".intercalate (displayColumns columns) ++ "\x7d"

/-- The display forms of cells. -/
def displayItems : List Cell → List String
  | [] => []
  | c :: rest => display c :: displayItems rest

/-- The display forms of the cells of a row. -/
def displayColumns : List (String × Cell) → List String
  | [] => []
  | (name, c) :: rest => (displayQuoted name ++ ": " ++ display c) :: displayColumns rest
end

/-- The text of a cell: that of a plain value, an identifier or a decimal, and the display form of
anything else. -/
def shown : Cell → String
  | .value v => v.text
  | .uuid u => u.text
  | .decimal d => d.text
  | c => c.display

/-! ## Numbers -/

/-- The whole part of a decimal, toward zero. -/
def wholePart (d : Decimal) : Except Failure Int :=
  match d.wholePart with
  | .ok n => .ok n
  | .error .infinite => .error .unbounded
  | .error .notANumber => .error .unreadable
  | .error .oversized => .error .exhausted

/-- The number that a cell counts as. -/
def number? : Cell → Option Decimal
  | .value (.bool b) => some (.ofInt (if b then 1 else 0))
  | .value (.int n) => some (.ofInt n)
  | .value (.float x) => some (.ofBinary x)
  | .decimal d => some d
  | _ => none

/-- The whole number of a cell: that of a number is its whole part, that of a text is read. -/
def toInteger (c : Cell) : Except Failure Int :=
  match c with
  | .value (.str s) =>
    match Numeral.readLoose s with
    | .ok n => .ok n
    | .error _ => .error .unreadable
  | .uuid u => .ok (u.digits.foldl (fun (n : Nat) d => 16 * n + d.val) 0 : Nat)
  | c => c.number?.elim (.error .mistyped) wholePart

/-- How a cell is ordered to a whole number. -/
def order (c : Cell) (n : Int) : Except Failure (Option Ordering) :=
  match c with
  | .decimal (.notANumber ..) => .error .incomparable
  | c => c.number?.elim (.error .mistyped) fun d => .ok (d.order? (.ofInt n))

/-! ## Keys -/

/-- Whether a cell can be a key: lists, rows and alarming decimals cannot. -/
def isKey : Cell → Bool
  | .list _ | .row _ | .value (.arr _) | .value (.obj _) => false
  | .decimal (.notANumber _ alarming _) => !alarming
  | _ => true

/-- Whether two keys are the same. -/
def same (a b : Cell) : Bool :=
  match a, b with
  | .uuid u, .uuid v => u == v
  | .value v, .value w => v.same w
  | a, b =>
    match a.number?, b.number? with
    | some x, some y => x.order? y == some .eq
    | _, _ => false

/-! ## Lists and rows -/

/-- What a cell lists: the items of a list, the column names of a row, the characters of a text. -/
def listed : Cell → Except Failure (List Cell)
  | .list cells => .ok cells
  | .row columns => .ok (columns.map fun c => text c.1)
  | .value (.str s) => .ok ((splitPoints s).map text)
  | _ => .error .mistyped

/-- The cell of a column. -/
def column (name : String) : Cell → Except Failure Cell
  | .row columns => (Assoc.find? name columns).elim (.error .missingColumn) .ok
  | _ => .error .mistyped

/-- The first of the things that a cell lists.  A row lists its columns, but has no first one. -/
def first : Cell → Except Failure Cell
  | .row _ => .error .missingColumn
  | c => do
    let cells ← c.listed
    cells.head?.elim (.error .mistyped) .ok

end Cell

end Recommender
