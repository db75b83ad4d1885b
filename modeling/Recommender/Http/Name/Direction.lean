import Recommender.Http.Name.Mark

/-!
# The writing direction of names

A name that has letters written from right to left begins with one of them, has none that are
written from left to right, and ends with a letter or a digit, behind which marks may follow.  It
does not have Arabic digits beside others.
-/

namespace Recommender.Http

/-- How a character is written. -/
inductive Writing where
  | left
  | right
  | number
  | arabicNumber
  /-- In the direction of the letters around it. -/
  | neutral
  /-- With the character in front of it. -/
  | attached
  deriving DecidableEq, Repr

/-- The first and the last code point of a run of characters, and how they are written.  Characters
that are not listed are written from left to right. -/
def writingRuns : Array (Nat × Nat × Writing) := #[
  (0x2D, 0x2D, .neutral), (0x30, 0x39, .number), (0xB7, 0xB7, .neutral),
  (0x2B9, 0x2BA, .neutral), (0x2C6, 0x2CF, .neutral), (0x2EC, 0x2EC, .neutral),
  (0x375, 0x375, .neutral), (0x5D0, 0x64A, .right), (0x660, 0x669, .arabicNumber),
  (0x66E, 0x6EF, .right), (0x6F0, 0x6F9, .number), (0x6FA, 0x8C9, .right),
  (0x200C, 0x200D, .neutral), (0x2E2F, 0x2E2F, .neutral), (0x30FB, 0x30FB, .neutral),
  (0xA67F, 0xA67F, .neutral), (0xA717, 0xA71F, .neutral), (0xA788, 0xA788, .neutral),
  (0xFE73, 0xFE73, .right), (0x10800, 0x10D23, .right), (0x10D30, 0x10D39, .arabicNumber),
  (0x10E80, 0x10FF6, .right), (0x1E800, 0x1E959, .right)]

/-- How a character of names is written. -/
def writing (point : Nat) : Writing :=
  if isAttached point then .attached
  else ((writingRuns.find? fun r => r.1 ≤ point && point ≤ r.2.1).map (·.2.2)).getD .left

/-- Whether the characters of a name go together, each of which is written in a way. -/
def goTogether (ways : List Writing) : Bool :=
  let isLast (w : Writing) := w = .right || w = .number || w = .arabicNumber
  if ways.contains .right || ways.contains .arabicNumber then
    ways.head? = some .right && !ways.contains .left
    && ((ways.reverse.dropWhile (· = .attached)).head?.any isLast)
    && !(ways.contains .number && ways.contains .arabicNumber)
  else true

/-- Whether the characters of a name go together. -/
def isOneWay (points : List Nat) : Bool :=
  goTogether (points.map writing)

example : goTogether [.right, .attached, .number, .attached] = true := by decide
example : goTogether [.number, .right] = false := by decide
example : goTogether [.right, .neutral] = false := by decide

end Recommender.Http
