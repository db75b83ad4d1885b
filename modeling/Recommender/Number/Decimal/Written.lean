import Recommender.Failure
import Recommender.Number.Decimal

/-!
# Decimals in writing

A decimal is written as its text, as a number, or in parts: a list of a sign, the list of its digits
and a power of ten.  A sign is 0 or 1, and a word in the place of the power stands for an infinity or
for no number, whose mark is then what the digits denote.
-/

namespace Recommender.Decimal

/-- What stands behind the sign and the digits of a decimal. -/
inductive Scale where
  | power (n : Int)
  | infinite
  | notANumber (alarming : Bool)
  deriving DecidableEq, Repr

/-- The whole number that a value is, which has to be one of 64 bits. -/
def readWord (v : Json) : Except Failure Int :=
  let bounded (n : Int) : Except Failure Int :=
    if -wordBound ≤ n ∧ n < wordBound then .ok n else .error .unbounded
  match v with
  | .int n => bounded n
  | .bool b => .ok (if b then 1 else 0)
  | _ => .error .unreadable

/-- Read a sign; the flag tells a minus sign. -/
def readSign (v : Json) : Except Failure Bool := do
  let n ← readWord v
  if n = 0 then return false
  else if n = 1 then return true
  else throw .unreadable

/-- Read a digit. -/
def readDigit (v : Json) : Except Failure Nat := do
  let n ← readWord v
  if 0 ≤ n ∧ n ≤ 9 then return n.toNat else throw .unreadable

/-- Read a power of ten, or a word in its place. -/
def readScale (v : Json) : Except Failure Scale :=
  match v with
  | .str "F" => .ok .infinite
  | .str "n" => .ok (.notANumber false)
  | .str "N" => .ok (.notANumber true)
  | v => (readWord v).map .power

/-- Read digits as the whole number that they denote. -/
def readDigitList (v : Json) : Except Failure Nat :=
  match v with
  | .arr items => do
    let digits ← items.mapM readDigit
    return digits.foldl (fun n d => 10 * n + d) 0
  | _ => .error .unreadable

/-- Read a decimal that is written in parts. -/
def readParts (items : List Json) : Except Failure Decimal :=
  match items with
  | [sign, digits, scale] => do
    let negative ← readSign sign
    let scale ← readScale scale
    let n ← readDigitList digits
    match scale with
    | .power p => (ofParts? negative n p).elim (.error .incomparable) .ok
    | .infinite => return .infinite negative
    | .notANumber alarming => return .notANumber negative alarming n
  | _ => .error .unreadable

/-- Read a decimal. -/
def read (v : Json) : Except Failure Decimal :=
  match v with
  | .str s => (ofText? s).elim (.error .incomparable) .ok
  | .bool b => .ok (.ofInt (if b then 1 else 0))
  | .int n => .ok (.ofInt n)
  | .float x => .ok (.ofBinary x)
  | .arr items => readParts items
  | .null | .obj _ => .error .mistyped

example : (readParts [.int 1, .arr [.int 1, .int 5], .int (-1)]).toOption.map text = some "-1.5" := by
  decide

end Recommender.Decimal
