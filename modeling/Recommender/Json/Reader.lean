import Recommender.Json.Basic
import Recommender.Text.Digit
import Recommender.Text.Half

/-!
# Reading JSON text

The reader accepts the JSON grammar and, as numbers, the words `NaN`, `Infinity` and `-Infinity`.
A whole number may have at most 4300 digits, and lists and objects may be nested up to a given
depth.  Of several members with one key the last one counts and stands where the first one stood.
An escape of half a surrogate pair reads as that half.  The first fault from the left decides.
-/

namespace Recommender.Json

/-- Why a text was not read. -/
inductive ReadError where
  /-- The text is no JSON text. -/
  | malformed
  /-- The text holds a whole number of too many digits. -/
  | oversizedNumber
  /-- The text nests lists and objects too deeply. -/
  | tooDeep
  deriving DecidableEq, Repr

/-- The greatest number of digits of a whole number. -/
def maxDigits : Nat := 4300

/-- The greatest depth to which lists and objects of a text that comes from elsewhere are nested. -/
def maxNesting : Nat := 970

/-- The blank characters between the parts of a JSON text. -/
def isGap (c : Char) : Bool :=
  c = ' ' || c = '\n' || c = '\t' || c = '\r'

/-- Drop the blank characters in front. -/
def skipGap (cs : List Char) : List Char :=
  cs.dropWhile isGap

/-! ## Numbers -/

/-- The value of ASCII digits, read from the left. -/
def asciiValue (cs : List Char) : Nat :=
  cs.foldl (fun n c => 10 * n + (c.toNat - 48)) 0

/-- Split the ASCII digits off the front. -/
def spanDigits (cs : List Char) : List Char × List Char :=
  (cs.takeWhile isAsciiDigit, cs.dropWhile isAsciiDigit)

/-- Split a fraction part off the front: a point and at least one digit. -/
def spanFraction (cs : List Char) : List Char × List Char :=
  match cs with
  | '.' :: rest =>
    match spanDigits rest with
    | ([], _) => ([], cs)
    | (digits, rest) => (digits, rest)
  | _ => ([], cs)

/-- Split an exponent part off the front: a mark, an optional sign and at least one digit. -/
def spanExponent (cs : List Char) : Option Int × List Char :=
  let digits (negative : Bool) (rest : List Char) : Option Int × List Char :=
    match spanDigits rest with
    | ([], _) => (none, cs)
    | (ds, rest) => (some (if negative then -(asciiValue ds : Int) else asciiValue ds), rest)
  match cs with
  | c :: rest =>
    if c = 'e' || c = 'E' then
      match rest with
      | '-' :: rest => digits true rest
      | '+' :: rest => digits false rest
      | _ => digits false rest
    else (none, cs)
  | [] => (none, cs)

/-- Read an unsigned number. -/
def readUnsigned (negative : Bool) (cs : List Char) : Except ReadError (Json × List Char) :=
  let (whole, rest) := match cs with
    | '0' :: rest => (['0'], rest)
    | _ => spanDigits cs
  if whole.isEmpty then .error .malformed
  else
    let (fraction, rest) := spanFraction rest
    let (exponent, rest) := spanExponent rest
    if fraction.isEmpty && exponent.isNone then
      if maxDigits < whole.length then .error .oversizedNumber
      else
        let n : Int := asciiValue whole
        .ok (.int (if negative then -n else n), rest)
    else
      let power := exponent.getD 0 - fraction.length
      .ok (.float (Binary64.ofDecimal negative (asciiValue (whole ++ fraction)) power), rest)

/-- Read a number. -/
def readNumber (cs : List Char) : Except ReadError (Json × List Char) :=
  match cs with
  | 'N' :: 'a' :: 'N' :: rest => .ok (.float .notANumber, rest)
  | 'I' :: 'n' :: 'f' :: 'i' :: 'n' :: 'i' :: 't' :: 'y' :: rest =>
    .ok (.float (.infinite false), rest)
  | '-' :: 'I' :: 'n' :: 'f' :: 'i' :: 'n' :: 'i' :: 't' :: 'y' :: rest =>
    .ok (.float (.infinite true), rest)
  | '-' :: rest => readUnsigned true rest
  | _ => readUnsigned false cs

/-! ## Texts -/

/-- The code unit of a four-digit escape. -/
def unitOf? (a b c d : Char) : Option Nat := do
  let a ← hexValue? a
  let b ← hexValue? b
  let c ← hexValue? c
  let d ← hexValue? d
  return ((a * 16 + b) * 16 + c) * 16 + d

/-- The character of a one-letter escape. -/
def letterEscape? (c : Char) : Option Char :=
  if c = '"' || c = '\\' || c = '/' then some c
  else if c = 'b' then some '\x08'
  else if c = 'f' then some '\x0c'
  else if c = 'n' then some '\n'
  else if c = 'r' then some '\r'
  else if c = 't' then some '\t'
  else none

/-- Earlier characters in reverse, with a code point behind them. -/
def behind (seen : List Char) (point : Nat) : List Char :=
  (writingOf point).reverse ++ seen

/-- Read the characters of a text up to its closing quote; `seen` holds them in reverse.  A high
half of a pair waits in `high` for its low half. -/
def readChars : (high : Option Nat) → (seen : List Char) → List Char →
    Except ReadError (List Char × List Char)
  | high, seen, '\\' :: 'u' :: a :: b :: c :: d :: rest =>
    match unitOf? a b c d with
    | none => .error .malformed
    | some unit =>
      match high with
      | some h =>
        if isLowUnit unit then readChars none (behind seen (pairedUnits h unit)) rest
        else if isHighUnit unit then readChars (some unit) (behind seen h) rest
        else readChars none (behind (behind seen h) unit) rest
      | none =>
        if isHighUnit unit then readChars (some unit) seen rest
        else readChars none (behind seen unit) rest
  | high, seen, '\\' :: c :: rest =>
    match letterEscape? c with
    | none => .error .malformed
    | some c => readChars none (c :: high.elim seen (behind seen)) rest
  | high, seen, c :: rest =>
    if c = '"' then .ok ((high.elim seen (behind seen)).reverse, rest)
    else if c = '\\' || c.toNat < 0x20 then .error .malformed
    else readChars none (c :: high.elim seen (behind seen)) rest
  | _, _, [] => .error .malformed

/-- Read a text behind its opening quote. -/
def readString (cs : List Char) : Except ReadError (String × List Char) := do
  let (chars, rest) ← readChars none [] cs
  return (String.ofList chars, rest)

/-! ## Values -/

mutual
/-- Read one value; `room` is the depth to which it may still be nested. -/
def readValue : (fuel room : Nat) → List Char → Except ReadError (Json × List Char)
  | 0, _, _ => .error .malformed
  | fuel + 1, room, cs =>
    match cs, room with
    | '"' :: rest, _ => do
      let (s, rest) ← readString rest
      return (.str s, rest)
    | 'n' :: 'u' :: 'l' :: 'l' :: rest, _ => .ok (.null, rest)
    | 't' :: 'r' :: 'u' :: 'e' :: rest, _ => .ok (.bool true, rest)
    | 'f' :: 'a' :: 'l' :: 's' :: 'e' :: rest, _ => .ok (.bool false, rest)
    | '[' :: _, 0 | '\x7b' :: _, 0 => .error .tooDeep
    | '[' :: rest, room + 1 =>
      match skipGap rest with
      | ']' :: rest => .ok (.arr [], rest)
      | rest => readItems fuel room [] rest
    | '\x7b' :: rest, room + 1 =>
      match skipGap rest with
      | '\x7d' :: rest => .ok (.obj [], rest)
      | rest => readMembers fuel room [] rest
    | _, _ => readNumber cs

/-- Read the items of a list from the first one on; `seen` holds the earlier ones in reverse. -/
def readItems : (fuel room : Nat) → (seen : List Json) → List Char →
    Except ReadError (Json × List Char)
  | 0, _, _, _ => .error .malformed
  | fuel + 1, room, seen, cs =>
    match readValue fuel room cs with
    | .error e => .error e
    | .ok (v, rest) =>
      match skipGap rest with
      | ',' :: rest => readItems fuel room (v :: seen) (skipGap rest)
      | ']' :: rest => .ok (.arr (v :: seen).reverse, rest)
      | _ => .error .malformed

/-- Read the members of an object from the first key on. -/
def readMembers : (fuel room : Nat) → (seen : List (String × Json)) → List Char →
    Except ReadError (Json × List Char)
  | 0, _, _, _ => .error .malformed
  | fuel + 1, room, seen, cs =>
    match cs with
    | '"' :: rest =>
      match readString rest with
      | .error e => .error e
      | .ok (key, rest) =>
        match skipGap rest with
        | ':' :: rest =>
          match readValue fuel room (skipGap rest) with
          | .error e => .error e
          | .ok (v, rest) =>
            match skipGap rest with
            | ',' :: rest => readMembers fuel room ((key, v) :: seen) (skipGap rest)
            | '\x7d' :: rest => .ok (ofMembers ((key, v) :: seen).reverse, rest)
            | _ => .error .malformed
        | _ => .error .malformed
    | _ => .error .malformed
end

/-- Read characters as one value of bounded depth, with blank characters around it. -/
def readWithin (room : Nat) (cs : List Char) : Except ReadError Json :=
  let cs := skipGap cs
  match readValue (2 * cs.length + 2) room cs with
  | .error e => .error e
  | .ok (v, rest) => if (skipGap rest).isEmpty then .ok v else .error .malformed

/-- Read a string of characters as one value of any depth. -/
def read (s : String) : Except ReadError Json :=
  readWithin s.length (textOfCharacters s).toList

end Recommender.Json
