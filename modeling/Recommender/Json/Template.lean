import Recommender.Failure
import Recommender.Number.Places
import Recommender.Text.Digit
import Recommender.Text.Quoted

/-!
# Texts with places for values

A template is a text with *openings*.  An opening begins with a percent sign and ends with a
letter that says how a value is written; in between it may name a member of an object, and give
flags, a least width and a number of places.  A template is filled from one value: an opening that
names a member takes it from an object, the first opening that names none takes the whole value,
and there is nothing for a second one.  A value that is neither a list nor an object has to be
taken.
-/

namespace Recommender.Template

/-- A place for a value. -/
structure Opening where
  key : Option String := none
  flags : List Char := []
  width : Nat := 0
  places : Option Nat := none
  letter : Char
  deriving DecidableEq, Repr

/-- A piece of a template. -/
inductive Piece where
  | character (c : Char)
  | opening (s : Opening)
  /-- An opening whose width or places, which have a limit, should come from a value of their
  own. -/
  | dependent (key : Option String) (limit : Nat) (ends : Bool)
  /-- An opening that does not end, or has too large a width or too many places. -/
  | broken (key : Option String)
  /-- An opening whose key does not end. -/
  | unclosed
  deriving DecidableEq, Repr

/-! ## Reading -/

/-- The characters of a key up to the bracket that closes it, and the rest. -/
def spanKey : (depth : Nat) → List Char → Option (List Char × List Char)
  | _, [] => none
  | 0, ')' :: rest => some ([], rest)
  | depth, c :: rest =>
    let depth := if c = '(' then depth + 1 else if c = ')' then depth - 1 else depth
    (spanKey depth rest).map fun r => (c :: r.1, r.2)

/-- The value of ASCII digits, read from the left. -/
def number (cs : List Char) : Nat :=
  cs.foldl (fun n c => 10 * n + (c.toNat - 48)) 0

/-- The limit of a width. -/
def widthLimit : Nat := 0x8000000000000000

/-- The limit of a number of places. -/
def placesLimit : Nat := 0x80000000

/-- Read the places of an opening. -/
def readPlaces : List Char → Option Nat × List Char
  | '.' :: rest => (some (number (rest.takeWhile isAsciiDigit)), rest.dropWhile isAsciiDigit)
  | cs => (none, cs)

/-- Drop a mark of the size of a number, which says nothing. -/
def dropSize : List Char → List Char
  | c :: rest => if c = 'h' || c = 'l' || c = 'L' then rest else c :: rest
  | [] => []

/-- Whether an opening has a letter behind its places. -/
def hasLetter (cs : List Char) : Bool :=
  !(dropSize cs).isEmpty

/-- Read an opening behind its width. -/
def readTail (key : Option String) (flags : List Char) (width : Nat) (cs : List Char) :
    Piece × List Char :=
  match cs with
  | '.' :: '*' :: rest => (.dependent key placesLimit (hasLetter rest), [])
  | cs =>
    let (places, cs) := readPlaces cs
    if widthLimit ≤ width || placesLimit ≤ places.getD 0 then (.broken key, [])
    else
      match dropSize cs with
      | [] => (.broken key, [])
      | letter :: rest => (.opening { key, flags, width, places, letter }, rest)

/-- Read an opening behind its key. -/
def readShape (key : Option String) (cs : List Char) : Piece × List Char :=
  let isFlag (c : Char) := ['-', '+', ' ', '#', '0'].contains c
  let flags := cs.takeWhile isFlag
  match cs.dropWhile isFlag with
  | '*' :: rest => (.dependent key widthLimit (hasLetter (readPlaces rest).2), [])
  | cs => readTail key flags (number (cs.takeWhile isAsciiDigit)) (cs.dropWhile isAsciiDigit)

/-- Read what stands behind a percent sign: another one, which is meant as itself, or an opening. -/
def readOpening : List Char → Piece × List Char
  | '%' :: rest => (.character '%', rest)
  | '(' :: rest =>
    match spanKey 0 rest with
    | none => (.unclosed, [])
    | some (key, rest) => readShape (some (String.ofList key)) rest
  | cs => readShape none cs

/-- The pieces of a template. -/
def pieces : (fuel : Nat) → List Char → List Piece
  | 0, _ | _, [] => []
  | fuel + 1, '%' :: rest =>
    match readOpening rest with
    | (piece, rest) => piece :: pieces fuel rest
  | fuel + 1, c :: rest => .character c :: pieces fuel rest

/-! ## Writing -/

namespace Opening

/-- Whether an opening has a flag. -/
def has (flag : Char) (s : Opening) : Bool :=
  s.flags.contains flag

/-- Fill a text up to the width of an opening. -/
def pad (s : Opening) (cs : List Char) : List Char :=
  let blanks := List.replicate (s.width - (pointsOf cs).length) ' '
  if s.has '-' then cs ++ blanks else blanks ++ cs

/-- A number with its sign, filled up to the width of an opening; zeros stand behind the sign. -/
def signed (s : Opening) (negative : Bool) (cs : List Char) : List Char :=
  let sign := if negative then ['-'] else if s.has '+' then ['+']
    else if s.has ' ' then [' '] else []
  if s.has '0' && !s.has '-' then
    sign ++ List.replicate (s.width - sign.length - cs.length) '0' ++ cs
  else s.pad (sign ++ cs)

/-- Write a text. -/
def writeText (s : Opening) (t : String) : List Char :=
  s.pad (match s.places with
    | some n => writingOfAll ((codePoints t).take n)
    | none => t.toList)

/-- Write a whole number to a base, behind a mark of the base if that is wanted. -/
def writeWhole (s : Opening) (base : Nat) (mark : String) (n : Int) : List Char :=
  let digits := Nat.toDigits base n.natAbs
  let digits := List.replicate (s.places.getD 0 - digits.length) '0' ++ digits
  let mark := if s.has '#' then mark.toList else []
  if s.has '0' && !s.has '-' then
    let sign := s.width - mark.length - (if n < 0 || s.has '+' || s.has ' ' then 1 else 0)
    s.signed (n < 0) (mark ++ List.replicate (sign - digits.length) '0' ++ digits)
  else s.signed (n < 0) (mark ++ digits)

/-- More digits than any binary fraction has. -/
def allDigits : Nat := 1100

/-- Write a binary fraction in the form of an opening's letter.  The general form drops the zeros
behind the digits that there are, unless they are wanted. -/
def writeBinary (s : Opening) (x : Binary64) : List Char :=
  let places := s.places.getD 6
  let body := match x.toFraction?, s.letter.toLower with
    | some (n, d), 'f' => Places.fixed places (s.has '#') n.natAbs d
    | some (n, d), 'e' => Places.scientific places (s.has '#') n.natAbs d
    | some (n, d), _ =>
      let digits := if s.has '#' then places else min places allDigits
      Places.general digits (s.has '#') n.natAbs d
    | none, _ => (if x = .notANumber then "nan" else "inf").toList
  s.signed x.isNegative (if s.letter.isUpper then body.map Char.toUpper else body)

end Opening

/-- The whole part of a number. -/
def wholePart (v : Json) : Except Failure Int :=
  match v with
  | .int n => .ok n
  | .bool b => .ok (if b then 1 else 0)
  | .float .notANumber => .error .unreadable
  | .float x => x.toFraction?.elim (.error .unbounded) fun q => .ok (q.1.tdiv q.2)
  | _ => .error .mistyped

/-- The whole number that a value is. -/
def wholeNumber (v : Json) : Except Failure Int :=
  match v with
  | .float _ => .error .mistyped
  | v => wholePart v

/-- The binary fraction nearest to a number. -/
def nearest (v : Json) : Except Failure Binary64 :=
  match v with
  | .float x => .ok x
  | v => do
    let n ← wholePart v
    match Binary64.ofInt n with
    | .infinite _ => .error .unbounded
    | x => .ok x

/-- The code point that a value is: a text of one code point, or its number. -/
def pointOf (v : Json) : Except Failure Nat :=
  match v with
  | .str s =>
    match codePoints s with
    | [point] => .ok point
    | _ => .error .mistyped
  | v => do
    let n ← wholeNumber v
    if 0 ≤ n ∧ n < 0x110000 then .ok n.toNat else .error .unbounded

/-- The greatest number of places that a whole number is written with. -/
def wholePlaces : Nat := 0x7FFFFFFC

/-- The greatest width that there is room for. -/
def room : Nat := 0x100000000

/-- What a value is written as, in an opening that there is room for. -/
def write (s : Opening) (v : Json) : Except Failure (List Char) :=
  let whole (number : Except Failure Int) (base : Nat) (mark : String) := do
    let n ← number
    if wholePlaces < s.places.getD 0 then .error .unbounded
    else if base = 10 && !Numeral.isWritable n then .error .unreadable
    else if room < s.width then .error .exhausted
    else .ok (s.writeWhole base mark n)
  let inRoom {α : Type} (reading : Except Failure α) (text : α → List Char) := do
    let a ← reading
    if room < s.width then .error .exhausted else .ok (text a)
  let displayed := v.messageText.map fun _ => v.display
  match s.letter with
  | 's' => inRoom v.messageText s.writeText
  | 'r' => inRoom displayed s.writeText
  | 'a' => inRoom (displayed.map fun text => String.ofList (asciiOnly text)) s.writeText
  | 'd' | 'i' | 'u' => whole (wholePart v) 10 ""
  | 'o' => whole (wholeNumber v) 8 "0o"
  | 'x' => whole (wholeNumber v) 16 "0x"
  | 'X' => (whole (wholeNumber v) 16 "0x").map (·.map Char.toUpper)
  | 'e' | 'E' | 'f' | 'F' | 'g' | 'G' => inRoom (nearest v) s.writeBinary
  | 'c' => inRoom (pointOf v) fun point => s.pad (writingOf point)
  | _ => .error .unreadable

/-! ## Filling -/

/-- What there is to fill a template with: the value that named openings take their members from,
if it has such, and the value that the next opening takes, if it is not taken yet. -/
structure Supply where
  named : Option Json
  next : Option Json

/-- The member that an opening names. -/
def Supply.member (key : String) (supply : Supply) : Except Failure Json :=
  match supply.named with
  | some (.obj members) => (Assoc.find? key members).elim (.error .missingColumn) .ok
  | _ => .error .mistyped

/-- The value that an opening takes: the member that it names, or the next value if it names
none. -/
def Supply.take (key : Option String) (supply : Supply) : Except Failure (Option Json) :=
  match key with
  | some key => (supply.member key).map some
  | none => .ok supply.next

/-- The failure of an opening whose width or places should come from a value: no value is left for
the opening itself. -/
def dependentFailure (limit : Nat) (ends : Bool) : Option Json → Failure
  | some (.int n) =>
    if n < -(limit : Int) ∨ (limit : Int) ≤ n then .unbounded
    else if ends then .mistyped else .unreadable
  | some (.bool _) => if ends then .mistyped else .unreadable
  | _ => .mistyped

/-- Fill pieces. -/
def fillPieces (supply : Supply) : List Piece → Except Failure (List Char)
  | [] => if supply.named.isNone && supply.next.isSome then .error .mistyped else .ok []
  | .character c :: rest => (fillPieces supply rest).map (c :: ·)
  | .unclosed :: _ => .error (if supply.named.isSome then .unreadable else .mistyped)
  | .broken key :: _ => (supply.take key).bind fun _ => .error .unreadable
  | .dependent key limit ends :: _ =>
    (supply.take key).bind fun value => .error (dependentFailure limit ends value)
  | .opening s :: rest => do
    let value ← supply.take s.key
    let v ← value.elim (.error .mistyped) .ok
    let text ← write s v
    let others ← fillPieces { supply with next := none } rest
    return text ++ others

/-- Fill a template from a value. -/
def fill (template : String) (value : Json) : Except Failure String :=
  let named := match value with
    | .arr _ | .obj _ => some value
    | _ => none
  let cs := template.toList
  (fillPieces ⟨named, some value⟩ (pieces cs.length cs)).map String.ofList

end Recommender.Template
