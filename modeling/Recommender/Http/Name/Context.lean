import Recommender.Http.Name.Mark

/-!
# Characters that need company

Some characters can stand in a name only beside certain others: two invisible joiners, which change
the shapes of the letters around them, a few signs of punctuation, and two kinds of Arabic digits,
which do not go together.
-/

namespace Recommender.Http

/-- On which sides a letter joins its neighbours. -/
inductive Joining where
  /-- With the one in front of it. -/
  | before
  /-- With the one behind it. -/
  | behind
  | both
  deriving DecidableEq, Repr

/-- The first and the last code point of a run of letters that join their neighbours, and the sides
on which they do. -/
def joiningRuns : Array (Nat × Nat × Joining) := #[
  (0x620, 0x620, .both), (0x622, 0x625, .before), (0x626, 0x626, .both),
  (0x627, 0x627, .before), (0x628, 0x628, .both), (0x629, 0x629, .before),
  (0x62A, 0x62E, .both), (0x62F, 0x632, .before), (0x633, 0x647, .both),
  (0x648, 0x648, .before), (0x649, 0x64A, .both), (0x66E, 0x66F, .both),
  (0x671, 0x673, .before), (0x679, 0x687, .both), (0x688, 0x699, .before),
  (0x69A, 0x6BF, .both), (0x6C0, 0x6C0, .before), (0x6C1, 0x6C2, .both),
  (0x6C3, 0x6CB, .before), (0x6CC, 0x6CC, .both), (0x6CD, 0x6CD, .before),
  (0x6CE, 0x6CE, .both), (0x6CF, 0x6CF, .before), (0x6D0, 0x6D1, .both),
  (0x6D2, 0x6D5, .before), (0x6EE, 0x6EF, .before), (0x6FA, 0x6FC, .both),
  (0x6FF, 0x6FF, .both), (0x710, 0x710, .before), (0x712, 0x714, .both),
  (0x715, 0x719, .before), (0x71A, 0x71D, .both), (0x71E, 0x71E, .before),
  (0x71F, 0x727, .both), (0x728, 0x728, .before), (0x729, 0x729, .both),
  (0x72A, 0x72A, .before), (0x72B, 0x72B, .both), (0x72C, 0x72C, .before),
  (0x72D, 0x72E, .both), (0x72F, 0x74D, .before), (0x74E, 0x758, .both),
  (0x759, 0x75B, .before), (0x75C, 0x76A, .both), (0x76B, 0x76C, .before),
  (0x76D, 0x770, .both), (0x771, 0x771, .before), (0x772, 0x772, .both),
  (0x773, 0x774, .before), (0x775, 0x777, .both), (0x778, 0x779, .before),
  (0x77A, 0x77F, .both), (0x7CA, 0x7EA, .both), (0x840, 0x840, .before), (0x841, 0x845, .both),
  (0x846, 0x847, .before), (0x848, 0x848, .both), (0x849, 0x849, .before),
  (0x84A, 0x853, .both), (0x854, 0x854, .before), (0x855, 0x855, .both),
  (0x856, 0x858, .before), (0x860, 0x860, .both), (0x862, 0x865, .both),
  (0x867, 0x867, .before), (0x868, 0x868, .both), (0x869, 0x882, .before),
  (0x886, 0x886, .both), (0x889, 0x88D, .both), (0x88E, 0x88E, .before), (0x8A0, 0x8A9, .both),
  (0x8AA, 0x8AC, .before), (0x8AE, 0x8AE, .before), (0x8AF, 0x8B0, .both),
  (0x8B1, 0x8B2, .before), (0x8B3, 0x8B8, .both), (0x8B9, 0x8B9, .before),
  (0x8BA, 0x8C8, .both), (0x1820, 0x1878, .both), (0x1887, 0x18AA, .both),
  (0xA840, 0xA871, .both), (0xA872, 0xA872, .behind), (0x10AC0, 0x10AC4, .both),
  (0x10AC5, 0x10AC5, .before), (0x10AC7, 0x10ACA, .before), (0x10ACD, 0x10ACD, .behind),
  (0x10ACE, 0x10AD2, .before), (0x10AD3, 0x10AD6, .both), (0x10AD7, 0x10AD7, .behind),
  (0x10AD8, 0x10ADC, .both), (0x10ADD, 0x10ADD, .before), (0x10ADE, 0x10AE0, .both),
  (0x10AE1, 0x10AE1, .before), (0x10AE4, 0x10AE4, .before), (0x10B80, 0x10B80, .both),
  (0x10B81, 0x10B81, .before), (0x10B82, 0x10B82, .both), (0x10B83, 0x10B85, .before),
  (0x10B86, 0x10B88, .both), (0x10B89, 0x10B89, .before), (0x10B8A, 0x10B8B, .both),
  (0x10B8C, 0x10B8C, .before), (0x10B8D, 0x10B8D, .both), (0x10B8E, 0x10B8F, .before),
  (0x10B90, 0x10B90, .both), (0x10B91, 0x10B91, .before), (0x10D00, 0x10D00, .behind),
  (0x10D01, 0x10D21, .both), (0x10D22, 0x10D22, .before), (0x10D23, 0x10D23, .both),
  (0x10F30, 0x10F32, .both), (0x10F33, 0x10F33, .before), (0x10F34, 0x10F44, .both),
  (0x10F70, 0x10F73, .both), (0x10F74, 0x10F75, .before), (0x10F76, 0x10FB0, .both),
  (0x10FB2, 0x10FB3, .both), (0x10FB4, 0x10FB6, .before), (0x10FB8, 0x10FB8, .both),
  (0x10FB9, 0x10FBA, .before), (0x10FBB, 0x10FBC, .both), (0x10FBD, 0x10FBD, .before),
  (0x10FBE, 0x10FBF, .both), (0x10FC1, 0x10FC1, .both), (0x10FC2, 0x10FC3, .before),
  (0x10FC4, 0x10FC4, .both), (0x1E922, 0x1E943, .both)]

/-- On which sides a code point joins its neighbours, if it does. -/
def joining? (point : Nat) : Option Joining :=
  (joiningRuns.find? fun r => r.1 ≤ point && point ≤ r.2.1).map (·.2.2)

/-- Marks that take no room between letters, besides those that never do. -/
def thinMarks : List Nat := [0xCBF, 0xCC6, 0x1171E, 0x1E94B]

/-- Whether letters join across a code point. -/
def isThin (point : Nat) : Bool :=
  isAttached point || thinMarks.contains point

/-- The ranges of Greek characters of names. -/
def greekRanges : Array (Nat × Nat) := #[
  (0x371, 0x3E1), (0x3F3, 0x3FC), (0x1D26, 0x1D2A), (0x1F00, 0x1FF6), (0xAB65, 0xAB65)]

/-- The ranges of Hebrew characters of names. -/
def hebrewRanges : Array (Nat × Nat) := #[
  (0x591, 0x5F4), (0xFB1E, 0xFB1E)]

/-- The ranges of characters of names that Japanese is written with. -/
def japaneseRanges : Array (Nat × Nat) := #[
  (0x3005, 0x3005), (0x3007, 0x3007), (0x3041, 0x3096), (0x309D, 0x30FA), (0x30FD, 0x30FE),
  (0x31F0, 0x9FFF), (0xFA0E, 0xFA29), (0x16FE3, 0x16FE3), (0x16FF0, 0x16FF1),
  (0x1AFF0, 0x1B167), (0x20000, 0x3134A)]

/-- Whether a code point is an Arabic digit. -/
def isArabicDigit (point : Nat) : Bool :=
  0x660 ≤ point && point ≤ 0x669

/-- Whether a code point is an eastern Arabic digit. -/
def isEasternDigit (point : Nat) : Bool :=
  0x6F0 ≤ point && point ≤ 0x6F9

/-- Whether a code point is an invisible joiner. -/
def isJoiner (point : Nat) : Bool :=
  point = 0x200C || point = 0x200D

/-- Whether a code point needs company. -/
def needsCompany (point : Nat) : Bool :=
  isJoiner point || [0xB7, 0x375, 0x5F3, 0x5F4, 0x30FB].contains point || isArabicDigit point
  || isEasternDigit point

/-- Whether an invisible joiner stands between letters that would join. -/
def dividesLetters (before after : List Nat) : Bool :=
  let front := (before.dropWhile isThin).head?.bind joining?
  let back := (after.dropWhile isThin).head?.bind joining?
  (front = some .behind || front = some .both) && (back = some .before || back = some .both)

/-- Whether a code point that needs company stands between others, the nearest of which comes first
on either side, that are company for it. -/
def hasCompany (before : List Nat) (point : Nat) (after : List Nat) : Bool :=
  let joins := before.head?.any fun p => combiningClass p = joinerClass
  if point = 0xB7 then before.head? = some 0x6C && after.head? = some 0x6C
  else if point = 0x375 then after.head?.any (isWithin greekRanges)
  else if point = 0x5F3 || point = 0x5F4 then before.head?.any (isWithin hebrewRanges)
  else if point = 0x200C then joins || dividesLetters before after
  else if point = 0x200D then joins
  else if point = 0x30FB then
    (before ++ after).any fun p => p ≠ 0x30FB && isWithin japaneseRanges p
  else if isArabicDigit point then !(before ++ after).any isEasternDigit
  else !(before ++ after).any isArabicDigit

example : hasCompany [0x6C] 0xB7 [0x6C] = true := by decide +kernel
example : hasCompany [0x94D] 0x200D [] = true := by decide +kernel
example : hasCompany [0x61] 0x30FB [] = false := by decide +kernel

end Recommender.Http
