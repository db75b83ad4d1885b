/-!
# Blank characters

Two classes of blank characters are in use.  *White space* is the Unicode property White_Space; it
may surround a whole number in a text.  *Spacing* has the four information separators besides; it
may surround a decimal number and the parts of a header.
-/

namespace Recommender

/-- The code points of Unicode property White_Space. -/
def whiteSpaceCodes : List Nat := [
  0x9, 0xA, 0xB, 0xC, 0xD, 0x20, 0x85, 0xA0, 0x1680, 0x2000, 0x2001, 0x2002, 0x2003, 0x2004,
  0x2005, 0x2006, 0x2007, 0x2008, 0x2009, 0x200A, 0x2028, 0x2029, 0x202F, 0x205F, 0x3000]

/-- Whether a character has Unicode property White_Space. -/
def isWhiteSpace (c : Char) : Bool :=
  whiteSpaceCodes.contains c.toNat

/-- Whether a character is white space or one of the information separators U+001C to U+001F. -/
def isSpacing (c : Char) : Bool :=
  isWhiteSpace c || (0x1C ≤ c.toNat && c.toNat ≤ 0x1F)

/-- Drop the characters of a class from both ends of a text. -/
def trimBoth (blank : Char → Bool) (cs : List Char) : List Char :=
  ((cs.dropWhile blank).reverse.dropWhile blank).reverse

@[simp] theorem trimBoth_nil (blank : Char → Bool) : trimBoth blank [] = [] := rfl

end Recommender
