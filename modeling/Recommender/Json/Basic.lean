import Recommender.Assoc
import Recommender.Number.Numeral
import Recommender.Number.Shortest
import Recommender.Text.Half
import Recommender.Text.Quoted

/-!
# JSON values

The dynamic values that rules, request bodies and stored rows are made of.  Whole numbers and
binary fractions are told apart, and an object keeps its members in the order in which their keys
were first written.
-/

namespace Recommender

/-- A JSON value. -/
inductive Json where
  | null
  | bool (b : Bool)
  | int (n : Int)
  | float (x : Binary64)
  | str (s : String)
  | arr (items : List Json)
  | obj (members : List (String × Json))
  deriving Repr, Inhabited, BEq

namespace Json

instance : Coe String Json := ⟨.str⟩
instance : Coe Int Json := ⟨.int⟩
instance : Coe Nat Json := ⟨fun n => .int n⟩
instance : Coe Bool Json := ⟨.bool⟩

/-! ## Members -/

/-- The value of a member of an object, and `none` for any other value. -/
def get? (key : String) : Json → Option Json
  | .obj members => Assoc.find? key members
  | _ => none

/-- The value of a member of an object, or a default where there is none. -/
def getD (v : Json) (key : String) (fallback : Json) : Json :=
  (v.get? key).getD fallback

/-- The value of a member of an object, or null where there is none. -/
def field (key : String) (v : Json) : Json :=
  v.getD key .null

/-- The items of a list; no other value has items. -/
def elements : Json → List Json
  | .arr items => items
  | _ => []

/-- The items that a value lists: those of a list, the code points of a text, and the keys of an
object; no other value lists anything. -/
def items? : Json → Option (List Json)
  | .arr items => some items
  | .str s => some ((splitPoints s).map .str)
  | .obj members => some (members.map fun m => .str m.1)
  | _ => none

/-- The members of an object; no other value has members. -/
def entries : Json → List (String × Json)
  | .obj members => members
  | _ => []

/-- The items of the list that is a member of an object. -/
def listAt (key : String) (v : Json) : List Json :=
  (v.field key).elements

/-- The members of the object that is a member of an object. -/
def entriesAt (key : String) (v : Json) : List (String × Json) :=
  (v.field key).entries

/-- The object with the given members, where a later one of equal keys counts. -/
def ofMembers (members : List (String × Json)) : Json :=
  .obj (Assoc.ofPairs members)

/-- A list of texts. -/
def ofStrings (texts : List String) : Json :=
  .arr (texts.map .str)

/-- Whether a value is null. -/
def isNull : Json → Bool
  | .null => true
  | _ => false

/-- The value, or null where there is none. -/
def ofOption {α : Type} (f : α → Json) : Option α → Json
  | none => .null
  | some a => f a

/-! ## Truth -/

/-- Whether a value counts as true: null, zeros and empty texts, lists and objects do not. -/
def truthy : Json → Bool
  | .null => false
  | .bool b => b
  | .int n => n ≠ 0
  | .float x => !x.isZero
  | .str s => s ≠ ""
  | .arr items => !items.isEmpty
  | .obj members => !members.isEmpty

@[simp] theorem truthy_bool (b : Bool) : (Json.bool b).truthy = b := rfl

/-! ## Sending -/

/-- Whether a binary fraction is a number. -/
def isFinite : Binary64 → Bool
  | .finite .. => true
  | _ => false

mutual
/-- Whether a value can be sent: its whole numbers can be written out, its fractions are numbers, and
its texts hold no half of a surrogate pair. -/
def isSendable : Json → Bool
  | .int n => Numeral.isWritable n
  | .float x => isFinite x
  | .str s => !hasHalf s
  | .arr items => areSendable items
  | .obj members => haveSendable members
  | _ => true

/-- Whether every item of a list can be sent. -/
def areSendable : List Json → Bool
  | [] => true
  | v :: rest => isSendable v && areSendable rest

/-- Whether every member of an object can be sent. -/
def haveSendable : List (String × Json) → Bool
  | [] => true
  | (k, v) :: rest => !hasHalf k && isSendable v && haveSendable rest
end

/-! ## Display -/

mutual
/-- Whether a value can be displayed: its whole numbers can be written out.  What is read from a text
can be, as no number of a text is longer. -/
def isShowable : Json → Bool
  | .int n => Numeral.isWritable n
  | .arr items => areShowable items
  | .obj members => haveShowable members
  | _ => true

/-- Whether every item of a list can be displayed. -/
def areShowable : List Json → Bool
  | [] => true
  | v :: rest => isShowable v && areShowable rest

/-- Whether every member of an object can be displayed. -/
def haveShowable : List (String × Json) → Bool
  | [] => true
  | (_, v) :: rest => isShowable v && haveShowable rest
end

@[simp] theorem isShowable_str (s : String) : (Json.str s).isShowable = true := rfl

mutual
/-- The display form that a value has if it can be displayed, with texts in quotes. -/
def display : Json → String
  | .null => "None"
  | .bool true => "True"
  | .bool false => "False"
  | .int n => toString n
  | .float x => x.text
  | .str s => displayQuoted s
  | .arr items => "[" ++ ", ".intercalate (displayItems items) ++ "]"
  | .obj members => "\x7b" ++ ", ".intercalate (displayMembers members) ++ "\x7d"

/-- The display forms of the items of a list. -/
def displayItems : List Json → List String
  | [] => []
  | v :: vs => display v :: displayItems vs

/-- The display forms of the members of an object. -/
def displayMembers : List (String × Json) → List String
  | [] => []
  | (k, v) :: rest => (displayQuoted k ++ ": " ++ display v) :: displayMembers rest
end

/-- The text that a value has in a message if it can be displayed: a text is itself, any other value
its display form. -/
def text : Json → String
  | .str s => s
  | v => v.display

@[simp] theorem text_str (s : String) : (Json.str s).text = s := rfl

/-- The text of a member of an object, or a default where there is none. -/
def textAt (key fallback : String) (v : Json) : String :=
  (v.get? key).elim fallback text

/-- Whether a member of an object counts as true, or a default where there is none. -/
def flagAt (key : String) (fallback : Bool) (v : Json) : Bool :=
  (v.get? key).elim fallback truthy

/-- The whole number that a value counts as, if it is one. -/
def wholeNumber? : Json → Option Int
  | .int n => some n
  | .bool b => some (if b then 1 else 0)
  | .float x =>
    match x.toFraction? with
    | some (n, d) => if n % d = 0 then some (n / d) else none
    | none => none
  | _ => none

end Json

end Recommender
