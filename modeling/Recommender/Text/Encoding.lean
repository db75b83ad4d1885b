import Recommender.Text.Half

/-!
# The encodings of a JSON text

A JSON text comes as octets in UTF-8, UTF-16 or UTF-32.  It begins with ASCII characters, so the
places of zeros among its first octets tell the encoding.  Half of a surrogate pair is read as it
is; octets that end inside a code unit and numbers beyond the last code point cannot be read.
-/

namespace Recommender

/-- An encoding of a JSON text; the flag tells that the high octets of a code unit come first. -/
inductive Encoding where
  | utf8
  | utf16 (highFirst : Bool)
  | utf32 (highFirst : Bool)
  deriving DecidableEq, Repr

namespace Encoding

/-- The encoding that the first octets of a text tell. -/
def ofOctets : List UInt8 → Encoding
  | a :: b :: c :: d :: _ =>
    if a = 0 then if b = 0 then .utf32 true else .utf16 true
    else if b = 0 then if c = 0 && d = 0 then .utf32 false else .utf16 false
    else .utf8
  | [a, b] => if a = 0 then .utf16 true else if b = 0 then .utf16 false else .utf8
  | _ => .utf8

/-- The code unit of two octets. -/
def unit (highFirst : Bool) (a b : Nat) : Nat :=
  if highFirst then a * 0x100 + b else b * 0x100 + a

/-- Octets as code units of two octets each. -/
def shortUnits (highFirst : Bool) : List UInt8 → Option (List Nat)
  | a :: b :: rest => (shortUnits highFirst rest).map (unit highFirst a.toNat b.toNat :: ·)
  | [] => some []
  | _ => none

/-- Code units of two octets in pairs, as code units of four octets. -/
def longUnits (highFirst : Bool) : List Nat → Option (List Nat)
  | a :: b :: rest =>
    (longUnits highFirst rest).map ((if highFirst then a * 0x10000 + b else b * 0x10000 + a) :: ·)
  | [] => some []
  | _ => none

/-- The code points of code units of two octets. -/
def ofShortUnits : List Nat → List Nat
  | high :: low :: rest =>
    if isHighUnit high && isLowUnit low then pairedUnits high low :: ofShortUnits rest
    else high :: ofShortUnits (low :: rest)
  | [u] => [u]
  | [] => []

/-- The code points of code units of four octets. -/
def ofLongUnits (units : List Nat) : Option (List Nat) :=
  if units.all (· < 0x110000) then some units else none

/-- A text without a byte order mark in front. -/
def withoutMark : List Char → List Char
  | '\uFEFF' :: rest => rest
  | cs => cs

/-- The characters that the octets of a text mean in an encoding. -/
def reread (s : String) (octets : List UInt8) : Encoding → Option (List Char)
  | .utf8 => some (withoutMark s.toList)
  | .utf16 highFirst => (shortUnits highFirst octets).map fun us => writingOfAll (ofShortUnits us)
  | .utf32 highFirst =>
    (((shortUnits highFirst octets).bind (longUnits highFirst)).bind ofLongUnits).map writingOfAll

/-- The characters that the octets of a text mean as a JSON text. -/
def charactersOf (s : String) : Option (List Char) :=
  (octetsOf? s).bind fun octets => reread s octets (ofOctets octets)

example : charactersOf "\uFEFF[]" = some ['[', ']'] := by decide
example : charactersOf "[\x00]\x00" = some ['[', ']'] := by decide
example : charactersOf "\x00\x00\x00\x7b" = some ['\x7b'] := by decide
example : charactersOf "[\x00]\x00 " = none := by decide

end Encoding

end Recommender
