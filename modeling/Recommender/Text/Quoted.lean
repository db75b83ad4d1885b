import Recommender.Text.Half
import Recommender.Text.Printable

/-!
# Quoted text

The display form of a text inside a list or an object.  It stands in single quotes, or in double
quotes if it holds a single quote and no double quote.  A backslash, the quote in use, and the
characters that are not printable are escaped, the latter by the shortest escape of fixed width
that holds the code point.
-/

namespace Recommender

/-- A hexadecimal number in lower case, filled with zeros to a width. -/
def hexPadded (width n : Nat) : List Char :=
  let digits := Nat.toDigits 16 n
  List.replicate (width - digits.length) '0' ++ digits

/-- The quote that a text is displayed in. -/
def displayQuote (cs : List Char) : Char :=
  if cs.contains '\'' && !cs.contains '"' then '"' else '\''

/-- The shortest escape of fixed width that holds a code point. -/
def pointEscape (point : Nat) : List Char :=
  if point < 0x100 then '\\' :: 'x' :: hexPadded 2 point
  else if point < 0x10000 then '\\' :: 'u' :: hexPadded 4 point
  else '\\' :: 'U' :: hexPadded 8 point

/-- Whether a code point is a character that is shown as itself. -/
def isShown (point : Nat) : Bool :=
  !isHalf point && isPrintable (Char.ofNat point)

/-- The display form of one code point between quotes. -/
def displayPoint (quote : Char) (point : Nat) : List Char :=
  if point = quote.toNat || point = 0x5C then ['\\', Char.ofNat point]
  else if point = 0xA then ['\\', 'n']
  else if point = 0xD then ['\\', 'r']
  else if point = 0x9 then ['\\', 't']
  else if isShown point then writingOf point
  else pointEscape point

/-- The display form of a text. -/
def displayQuoted (s : String) : String :=
  let quote := displayQuote s.toList
  String.ofList (quote :: (codePoints s).flatMap (displayPoint quote) ++ [quote])

/-- A text with the code points beyond ASCII escaped. -/
def asciiOnly (s : String) : List Char :=
  (codePoints s).flatMap fun point =>
    if point < 0x80 then [Char.ofNat point] else pointEscape point

end Recommender
