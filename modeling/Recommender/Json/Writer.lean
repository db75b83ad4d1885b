import Recommender.Json.Basic
import Recommender.Text.Half

/-!
# Writing JSON text

A value is written in one of two layouts.  Where it is kept, the written form is pure ASCII: every
character outside the printable ASCII range is escaped, one beyond the basic plane as a surrogate
pair and half of such a pair as itself; a blank stands behind every comma and colon.  Where it is
sent, only quotes, backslashes and control characters are escaped, and there are no blanks; what
holds half of a surrogate pair cannot be sent.
-/

namespace Recommender.Json

/-- How a value is written. -/
inductive Layout where
  /-- In ASCII, with a blank behind every separator. -/
  | spaced
  /-- With characters beyond ASCII as themselves, and without blanks. -/
  | dense
  deriving DecidableEq, Repr

namespace Layout

/-- What stands behind a separator. -/
def gap : Layout → List Char
  | .spaced => [' ']
  | .dense => []

/-- The greatest code point that is written as itself. -/
def lastPlain : Layout → Nat
  | .spaced => 0x7E
  | .dense => 0x10FFFF

/-- Whether a code point of a text is written as itself. -/
def isPlain (layout : Layout) (point : Nat) : Bool :=
  0x20 ≤ point && point ≤ layout.lastPlain && point ≠ 0x22 && point ≠ 0x5C

end Layout

/-- The four-digit escape of a code unit. -/
def unitEscape (unit : Nat) : List Char :=
  '\\' :: 'u' :: hexPadded 4 unit

/-- The escape of a code point that is not written as itself. -/
def pointEscape (point : Nat) : List Char :=
  if point = 0x22 then ['\\', '"']
  else if point = 0x5C then ['\\', '\\']
  else if point = 0xA then ['\\', 'n']
  else if point = 0xD then ['\\', 'r']
  else if point = 0x9 then ['\\', 't']
  else if point = 0x8 then ['\\', 'b']
  else if point = 0xC then ['\\', 'f']
  else if point < 0x10000 then unitEscape point
  else
    let high := 0xD800 + (point - 0x10000) / 0x400
    let low := 0xDC00 + (point - 0x10000) % 0x400
    unitEscape high ++ unitEscape low

/-- One code point of a written text. -/
def writePoint (layout : Layout) (point : Nat) : List Char :=
  if layout.isPlain point then writingOf point else pointEscape point

/-- A written text, with its quotes. -/
def writeString (layout : Layout) (s : String) : List Char :=
  '"' :: (codePoints s).flatMap (writePoint layout) ++ ['"']

/-- A written binary fraction. -/
def writeFloat (x : Binary64) : List Char :=
  match x with
  | .notANumber => "NaN".toList
  | .infinite negative => (if negative then "-Infinity" else "Infinity").toList
  | x => x.text.toList

mutual
/-- The written form of a value. -/
def write (layout : Layout) : Json → List Char
  | .null => "null".toList
  | .bool true => "true".toList
  | .bool false => "false".toList
  | .int n => (toString n).toList
  | .float x => writeFloat x
  | .str s => writeString layout s
  | .arr [] => "[]".toList
  | .arr (v :: vs) => '[' :: (write layout v ++ writeItems layout vs)
  | .obj [] => ['\x7b', '\x7d']
  | .obj ((k, v) :: rest) =>
    '\x7b' :: (writeString layout k ++
      ':' :: (layout.gap ++ (write layout v ++ writeMembers layout rest)))

/-- The rest of a written list: every item behind a separator, then the closing bracket. -/
def writeItems (layout : Layout) : List Json → List Char
  | [] => [']']
  | v :: vs => ',' :: (layout.gap ++ (write layout v ++ writeItems layout vs))

/-- The rest of a written object: every member behind a separator, then the closing brace. -/
def writeMembers (layout : Layout) : List (String × Json) → List Char
  | [] => ['\x7d']
  | (k, v) :: rest =>
    ',' :: (layout.gap ++ (writeString layout k ++
      ':' :: (layout.gap ++ (write layout v ++ writeMembers layout rest))))
end

/-- The written form of a value as it is kept. -/
def compress (v : Json) : String :=
  String.ofList (v.write .spaced)

/-- The written form of a value as it is sent, if it can be sent. -/
def sent? (v : Json) : Option String :=
  if v.isSendable then some (String.ofList (v.write .dense)) else none

end Recommender.Json
