import Recommender.Text.Half

/-!
# Reading octets as UTF-8

Octets are read as the characters that they encode.  Octets that encode none are *lost*: the longest
run of octets that begins a character without finishing it is lost as a whole, and so is an octet
by itself that begins no character.  Lost octets read as one U+FFFD, or each of them as a half of a
surrogate pair that tells the octet, so that it can be written again.
-/

namespace Recommender.Utf8

/-- A character of which some octets have been read: their value, the number of octets still owed,
the bounds of the next one, and the octets themselves. -/
structure Pending where
  value : Nat
  owed : Nat
  low : Nat := 0x80
  high : Nat := 0xBF
  seen : List UInt8
  deriving DecidableEq, Repr

/-- The beginning of a character that an octet is, if it is one. -/
def pending? (octet : UInt8) : Option Pending :=
  let b := octet.toNat
  if 0xC2 ≤ b && b ≤ 0xDF then some { value := b - 0xC0, owed := 1, seen := [octet] }
  else if b = 0xE0 then some { value := 0, owed := 2, low := 0xA0, seen := [octet] }
  else if b = 0xED then some { value := 0xD, owed := 2, high := 0x9F, seen := [octet] }
  else if 0xE1 ≤ b && b ≤ 0xEF then some { value := b - 0xE0, owed := 2, seen := [octet] }
  else if b = 0xF0 then some { value := 0, owed := 3, low := 0x90, seen := [octet] }
  else if 0xF1 ≤ b && b ≤ 0xF3 then some { value := b - 0xF0, owed := 3, seen := [octet] }
  else if b = 0xF4 then some { value := 4, owed := 3, high := 0x8F, seen := [octet] }
  else none

/-- What lost octets read as. -/
abbrev Loss := List UInt8 → List Nat

/-- What an octet between two characters reads as: a code point, or the beginning of one. -/
def lead (lost : Loss) (octet : UInt8) : List Nat × Option Pending :=
  if octet < 0x80 then ([octet.toNat], none)
  else
    match pending? octet with
    | some p => ([], some p)
    | none => (lost [octet], none)

/-- What an octet reads as inside a character. -/
def continuation (lost : Loss) (p : Pending) (octet : UInt8) : List Nat × Option Pending :=
  let b := octet.toNat
  if p.low ≤ b && b ≤ p.high then
    let value := p.value * 0x40 + (b - 0x80)
    if p.owed = 1 then ([value], none)
    else ([], some { value, owed := p.owed - 1, seen := p.seen ++ [octet] })
  else (lost p.seen ++ (lead lost octet).1, (lead lost octet).2)

/-- Read octets as code points; the first octets stand in the middle of a character. -/
def decodeFrom (lost : Loss) : Option Pending → List UInt8 → List Nat
  | none, [] => []
  | some p, [] => lost p.seen
  | none, octet :: rest =>
    (lead lost octet).1 ++ decodeFrom lost (lead lost octet).2 rest
  | some p, octet :: rest =>
    (continuation lost p octet).1 ++ decodeFrom lost (continuation lost p octet).2 rest

/-- Read octets as a text with marks for the lost ones. -/
def decode (octets : List UInt8) : String :=
  textOfPoints (decodeFrom (fun _ => [0xFFFD]) none octets)

/-! ## Texts of the system

The system keeps names and values as octets, and hands lost ones over as halves.
-/

/-- The half that tells a lost octet. -/
def halfOf (octet : UInt8) : Nat :=
  0xDC00 + octet.toNat

/-- Read octets as a text from which they can be written again. -/
def decodeSystem (octets : List UInt8) : String :=
  textOfPoints (decodeFrom (·.map halfOf) none octets)

/-- The octets of a code point for the system. -/
def systemOctets? (point : Nat) : Option (List UInt8) :=
  if 0xDC80 ≤ point && point ≤ 0xDCFF then some [UInt8.ofNat (point - 0xDC00)]
  else if isHalf point then none
  else some (String.utf8EncodeChar (Char.ofNat point))

/-- A text as the system hands it over once it has kept it; a half that tells no octet cannot be
kept. -/
def kept? (s : String) : Option String :=
  ((codePoints s).mapM systemOctets?).map fun octets => decodeSystem octets.flatten

example : decode [0x61, 0xC3, 0xA9, 0xF0, 0x9F, 0x8F, 0xA6] = "aé🏦" := by decide
example : decode [0xE2, 0x82, 0x41] = "\uFFFDA" := by decide
example : decode [0xED, 0xA0, 0x80] = "\uFFFD\uFFFD\uFFFD" := by decide
example : kept? (textOfPoints [0xDCC3, 0xDCA9]) = some "é" := by decide

end Recommender.Utf8
