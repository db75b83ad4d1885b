import Recommender.Number.Binary64

/-!
# Shortest decimal text of a binary value

A finite value is written with the fewest significant digits that read back as the same value, and
among those with the digits nearest to it.  For each digit count from one to seventeen the two
neighbours of the value on the decimal grid of that many digits are tried; seventeen digits always
suffice for the binary64 format.
-/

namespace Recommender

/-- A positive decimal `digits · 10 ^ power`. -/
structure DecimalDigits where
  digits : Nat
  power : Int
  deriving DecidableEq, Repr

namespace DecimalDigits

/-- The binary value nearest to a decimal. -/
def toBinary (d : DecimalDigits) : Binary64 :=
  Binary64.ofDecimal false d.digits d.power

/-- The number of significant digits before the decimal point, less one. -/
def leading (d : DecimalDigits) : Int :=
  (Nat.toDigits 10 d.digits).length + d.power - 1

/-- Drop the trailing zeros of the digits, at most `fuel` of them. -/
def normalize : Nat → DecimalDigits → DecimalDigits
  | 0, d => d
  | fuel + 1, d =>
    if d.digits % 10 = 0 ∧ d.digits ≠ 0 then normalize fuel ⟨d.digits / 10, d.power + 1⟩ else d

end DecimalDigits

/-- The exponent of the leading decimal digit of a positive fraction. -/
def leadingPower (num den : Nat) : Int :=
  let guess : Int := (Nat.toDigits 10 num).length - (Nat.toDigits 10 den).length
  if scaledUp 10 (-guess) num < scaledUp 10 guess den then guess - 1 else guess

/-- The neighbours of a positive fraction on the decimal grid of step `10 ^ power`, the nearer one
first; of two equally near ones the even one comes first. -/
def gridNeighbours (num den : Nat) (power : Int) : List DecimalDigits :=
  let n := scaledUp 10 (-power) num
  let d := scaledUp 10 power den
  let below := n / d
  let rest := n % d
  if 2 * rest < d ∨ (2 * rest = d ∧ below % 2 = 0) then [⟨below, power⟩, ⟨below + 1, power⟩]
  else [⟨below + 1, power⟩, ⟨below, power⟩]

/-- The first decimal that reads back as `value`, trying `fuel` digit counts from `count` on. -/
def searchDigits (value : Binary64) (num den : Nat) (leading : Int) :
    (fuel count : Nat) → Option DecimalDigits
  | 0, _ => none
  | fuel + 1, count =>
    let candidates := gridNeighbours num den (leading + 1 - count)
    match candidates.find? fun c => c.toBinary = value with
    | some c => some (c.normalize count)
    | none => searchDigits value num den leading fuel (count + 1)

namespace Binary64

/-- The shortest decimal that reads back as a positive finite value. -/
def shortest? (x : Binary64) : Option DecimalDigits :=
  match x.toFraction? with
  | some (n, d) =>
    if n = 0 then none
    else
      let magnitude : Binary64 := match x with
        | .finite _ mantissa exponent => .finite false mantissa exponent
        | y => y
      searchDigits magnitude n.natAbs d (leadingPower n.natAbs d) 17 1
  | none => none

/-- The number of zeros that fill a digit text up to a length. -/
def zeros (n : Int) : String :=
  String.ofList (List.replicate n.toNat '0')

/-- Write digits with a decimal point after the `point`-th one, filling with zeros on either
side. -/
def positional (digits : List Char) (point : Int) : String :=
  if point ≤ 0 then "0." ++ zeros (-point) ++ String.ofList digits
  else if digits.length ≤ point then String.ofList digits ++ zeros (point - digits.length) ++ ".0"
  else String.ofList (digits.take point.toNat) ++ "." ++ String.ofList (digits.drop point.toNat)

/-- Write digits in exponent form; the exponent has a sign and at least two digits. -/
def scientific (digits : List Char) (power : Int) : String :=
  let mantissa := match digits with
    | [d] => String.ofList [d]
    | d :: ds => String.ofList (d :: '.' :: ds)
    | [] => "0"
  let size := toString power.natAbs
  mantissa ++ (if power < 0 then "e-" else "e+") ++ (if size.length < 2 then "0" ++ size else size)

/-- The text of a value: positional from `1e-4` up to below `1e16`, otherwise in exponent form. -/
def text (x : Binary64) : String :=
  match x with
  | .notANumber => "nan"
  | .infinite negative => if negative then "-inf" else "inf"
  | .finite negative _ _ =>
    let sign := if negative then "-" else ""
    match x.shortest? with
    | none => sign ++ "0.0"
    | some d =>
      let digits := Nat.toDigits 10 d.digits
      let power := d.leading
      sign ++ (if -4 ≤ power ∧ power < 16 then positional digits (power + 1)
        else scientific digits power)

end Binary64

end Recommender
