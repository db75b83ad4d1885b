/-!
# Halves of surrogate pairs

A text may hold half of a surrogate pair by itself.  Such a half is no character, and a text that
holds one cannot be sent.  A text is held as a string in which a half is written as two characters,
the *mark* U+10FFFF and a stand-in, which is as far from U+10F000 as the half is from U+D800; the
mark itself is written twice.  So every sequence of characters and halves has one writing of its
own, and the writings of texts stand side by side in the writing of their concatenation.
-/

namespace Recommender

/-- The character that tells a half. -/
def halfMark : Char :=
  Char.ofNat 0x10FFFF

/-- The first stand-in. -/
def firstStandIn : Nat := 0x10F000

/-- Whether a code unit is the first half of a surrogate pair. -/
def isHighUnit (unit : Nat) : Bool :=
  0xD800 ≤ unit && unit < 0xDC00

/-- Whether a code unit is the second half of a surrogate pair. -/
def isLowUnit (unit : Nat) : Bool :=
  0xDC00 ≤ unit && unit < 0xE000

/-- Whether a code point is a half. -/
def isHalf (point : Nat) : Bool :=
  isHighUnit point || isLowUnit point

/-- The code point of a surrogate pair. -/
def pairedUnits (high low : Nat) : Nat :=
  0x10000 + (high - 0xD800) * 0x400 + (low - 0xDC00)

/-- The writing of a code point. -/
def writingOf (point : Nat) : List Char :=
  if isHalf point then [halfMark, Char.ofNat (firstStandIn + (point - 0xD800))]
  else if point = halfMark.toNat then [halfMark, halfMark]
  else [Char.ofNat point]

/-- The writing of code points. -/
def writingOfAll (points : List Nat) : List Char :=
  points.flatMap writingOf

/-- The code point that the mark and a character behind it write. -/
def markedPoint (c : Char) : Nat :=
  if c = halfMark then halfMark.toNat else c.toNat - firstStandIn + 0xD800

/-- The code points that characters write. -/
def pointsOf : List Char → List Nat
  | c :: d :: rest =>
    if c = halfMark then markedPoint d :: pointsOf rest else c.toNat :: pointsOf (d :: rest)
  | [c] => [c.toNat]
  | [] => []

/-- The code points of a text. -/
def codePoints (s : String) : List Nat :=
  pointsOf s.toList

/-- The text of code points. -/
def textOfPoints (points : List Nat) : String :=
  String.ofList (writingOfAll points)

/-- A string of characters as a text. -/
def textOfCharacters (s : String) : String :=
  textOfPoints (s.toList.map Char.toNat)

/-- The code points of a text, each as a text of its own. -/
def splitPoints (s : String) : List String :=
  (codePoints s).map fun point => textOfPoints [point]

/-- Whether a text holds a half by itself. -/
def hasHalf (s : String) : Bool :=
  (codePoints s).any isHalf

/-- The octets of a text in UTF-8, which cannot hold a half. -/
def octetsOf? (s : String) : Option (List UInt8) :=
  if hasHalf s then none
  else some ((codePoints s).flatMap fun point => String.utf8EncodeChar (Char.ofNat point))

/-- The order of two texts by their code points. -/
def compareCodePoints (s t : String) : Ordering :=
  compareOfLessAndEq (codePoints s) (codePoints t)

/-- Texts in the order of their code points. -/
def sortTexts (texts : List String) : List String :=
  texts.mergeSort fun s t => compareCodePoints s t != .gt

@[simp] theorem codePoints_empty : codePoints "" = [] := by
  simp [codePoints, pointsOf]

example : pointsOf (writingOfAll [0x61, 0xDEAD, 0x10FFFF, 0x10F6AD, 0xD800]) =
    [0x61, 0xDEAD, 0x10FFFF, 0x10F6AD, 0xD800] := by decide
example : hasHalf (textOfCharacters "a\uFFFF") = false := by decide

end Recommender
