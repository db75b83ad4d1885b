import Recommender.Failure
import Recommender.Text.Blank
import Recommender.Text.Digit

/-!
# Universally unique identifiers

An identifier is 128 bits, held as its 32 hexadecimal digits.  It is written in lower case in
hyphenated groups of 8, 4, 4, 4 and 12 digits.  It is read in that form, without hyphens, in
braces, or behind `urn:uuid:`, with digits of either case.  Read loosely, it is a hexadecimal number
of 32 characters, in which hyphens and these words may stand anywhere.
-/

namespace Recommender

/-- A 128-bit identifier. -/
structure Uuid where
  digits : List (Fin 16)
  length_digits : digits.length = 32 := by rfl
  deriving DecidableEq, Repr

namespace Uuid

instance : Inhabited Uuid := ⟨⟨List.replicate 32 0, by simp⟩⟩

/-- The character of a hexadecimal digit. -/
def digitChar (d : Fin 16) : Char :=
  if d.val < 10 then Char.ofNat (48 + d.val) else Char.ofNat (87 + d.val)

/-- The hexadecimal digit of a character. -/
def digitOf? (c : Char) : Option (Fin 16) :=
  (hexValue? c).bind fun n => if h : n < 16 then some ⟨n, h⟩ else none

/-- The hyphenated characters of an identifier. -/
def chars (u : Uuid) : List Char :=
  let group (start size : Nat) := ((u.digits.drop start).take size).map digitChar
  group 0 8 ++ '-' :: group 8 4 ++ '-' :: group 12 4 ++ '-' :: group 16 4 ++ '-' :: group 20 12

/-- The text of an identifier. -/
def text (u : Uuid) : String :=
  String.ofList u.chars

/-- Read a number of hexadecimal digits off the front. -/
def readGroup : (size : Nat) → List Char → Option (List (Fin 16) × List Char)
  | 0, cs => some ([], cs)
  | _ + 1, [] => none
  | size + 1, c :: cs =>
    match digitOf? c, readGroup size cs with
    | some d, some (ds, rest) => some (d :: ds, rest)
    | _, _ => none

/-- Read a hyphen and a number of hexadecimal digits off the front. -/
def readHyphenGroup (size : Nat) : List Char → Option (List (Fin 16) × List Char)
  | '-' :: cs => readGroup size cs
  | _ => none

/-- The identifier of a list of 32 digits. -/
def ofDigits? (ds : List (Fin 16)) : Option Uuid :=
  if h : ds.length = 32 then some ⟨ds, h⟩ else none

/-- Read the hyphenated form off the front. -/
def readHyphenated (cs : List Char) : Option (Uuid × List Char) := do
  let (a, cs) ← readGroup 8 cs
  let (b, cs) ← readHyphenGroup 4 cs
  let (c, cs) ← readHyphenGroup 4 cs
  let (d, cs) ← readHyphenGroup 4 cs
  let (e, cs) ← readHyphenGroup 12 cs
  let u ← ofDigits? (a ++ b ++ c ++ d ++ e)
  return (u, cs)

/-- Read the characters of an identifier in any of its forms. -/
def ofChars? (cs : List Char) : Option Uuid :=
  match cs with
  | '\x7b' :: rest =>
    match readHyphenated rest with
    | some (u, ['\x7d']) => some u
    | _ => none
  | 'u' :: 'r' :: 'n' :: ':' :: 'u' :: 'u' :: 'i' :: 'd' :: ':' :: rest =>
    match readHyphenated rest with
    | some (u, []) => some u
    | _ => none
  | _ =>
    match readHyphenated cs with
    | some (u, []) => some u
    | _ =>
      match readGroup 32 cs with
      | some (ds, []) => ofDigits? ds
      | _ => none

/-- Read an identifier in any of its forms. -/
def ofText? (s : String) : Option Uuid :=
  ofChars? s.toList

/-! ## Loose reading -/

/-- A character as a number reads it: digits and white space of other scripts are those of ASCII,
and anything else beyond ASCII is nothing that a number has. -/
def plainChar (c : Char) : Char :=
  if c.toNat < 0x80 then c
  else if isWhiteSpace c then ' '
  else (decimalValue? c).elim '?' fun d => Char.ofNat (48 + d)

/-- Whether a character is white space of ASCII. -/
def isPlainBlank (c : Char) : Bool :=
  c = ' ' || ('\t' ≤ c && c ≤ '\r')

/-- Drop a plus sign. -/
def dropPlus : List Char → List Char
  | '+' :: cs => cs
  | cs => cs

/-- Drop the mark of hexadecimal digits, with an underscore behind it. -/
def dropMark : List Char → List Char
  | '0' :: x :: '_' :: cs => if x = 'x' || x = 'X' then cs else '0' :: x :: '_' :: cs
  | '0' :: x :: cs => if x = 'x' || x = 'X' then cs else '0' :: x :: cs
  | cs => cs

/-- Read hexadecimal digits, between which single underscores may stand. -/
def joinDigits : List Char → Option (List (Fin 16))
  | [] => none
  | [c] => (digitOf? c).map ([·])
  | c :: '_' :: rest => do
    let d ← digitOf? c
    let ds ← joinDigits rest
    return d :: ds
  | c :: rest => do
    let d ← digitOf? c
    let ds ← joinDigits rest
    return d :: ds

/-- The identifier of at most 32 digits, in front of which zeros are left out. -/
def ofNumber? (ds : List (Fin 16)) : Option Uuid :=
  ofDigits? (List.replicate (32 - ds.length) 0 ++ ds)

/-- Read an identifier loosely: once hyphens, braces at the ends and the words in front are dropped,
32 characters have to be left that are a hexadecimal number. -/
def ofLooseText? (s : String) : Option Uuid :=
  let bare := (s.replace "urn:" "").replace "uuid:" ""
  let cs := trimBoth (fun c => c = '\x7b' || c = '\x7d') bare.toList
  let cs := cs.filter (· ≠ '-')
  if (pointsOf cs).length = 32 then
    (joinDigits (dropMark (dropPlus (trimBoth isPlainBlank (cs.map plainChar))))).bind ofNumber?
  else none

/-- The identifier that a value should be. -/
def read (v : Json) : Except Failure Uuid :=
  match v with
  | .str s => (ofLooseText? s).elim (.error .unreadable) .ok
  | .null => .error .mistyped
  | _ => .error .unknownName

end Uuid

end Recommender
