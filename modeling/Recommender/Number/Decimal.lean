import Recommender.Number.Binary64
import Recommender.Text.Blank
import Recommender.Text.Digit

/-!
# Decimal numbers

A decimal is `± digits · 10 ^ power`, an infinity, or no number.  It is read from its usual text:
digits with or without a point, possibly with an exponent, or a word; underscores count for nothing.
It is written with all of its digits, and with an exponent if the point would stand behind further
zeros or more than six places in front of the digits.

A power of ten can have eighteen digits, so decimals are compared, and their whole parts taken,
without writing such a power out.
-/

namespace Recommender

/-- A decimal number. -/
inductive Decimal where
  | finite (negative : Bool) (digits : Nat) (power : Int)
  | infinite (negative : Bool)
  /-- No number, with a sign and a mark of its own.  One that is alarming can be no key. -/
  | notANumber (negative alarming : Bool) (mark : Nat)
  deriving DecidableEq, Repr, Inhabited

/-- Why a decimal has no whole part. -/
inductive WholePartError where
  | infinite
  | notANumber
  /-- The whole part has too many digits to be written out. -/
  | oversized
  deriving DecidableEq, Repr

namespace Decimal

/-- The value of decimal digits, read from the left. -/
def digitsValue (cs : List Char) : Nat :=
  cs.foldl (fun n c => 10 * n + (decimalValue? c).getD 0) 0

/-- The power of ten of the first digit. -/
def leadingPower (digits : Nat) (power : Int) : Int :=
  power + (toString digits).length - 1

/-! ## Reading -/

/-- The greatest power of ten of a first digit. -/
def greatestPower : Int := 999999999999999999

/-- The least power of ten of a last digit. -/
def leastPower : Int := -1999999999999999997

/-- The decimal of a sign, digits and a power of ten, if the power is within its limits. -/
def ofParts? (negative : Bool) (digits : Nat) (power : Int) : Option Decimal :=
  if leastPower ≤ power ∧ leadingPower digits power ≤ greatestPower then
    some (.finite negative digits power)
  else none

/-- Read an exponent: a mark, an optional sign and at least one digit, or nothing. -/
def readExponent (cs : List Char) : Option Int :=
  let digits (negative : Bool) (ds : List Char) : Option Int :=
    if ds.isEmpty || !ds.all isDecimalDigit then none
    else some (if negative then -(digitsValue ds : Int) else digitsValue ds)
  match cs with
  | [] => some 0
  | c :: rest =>
    if c = 'e' || c = 'E' then
      match rest with
      | '-' :: ds => digits true ds
      | '+' :: ds => digits false ds
      | ds => digits false ds
    else none

/-- Read digits with an optional point and an optional exponent. -/
def readDigits (negative : Bool) (cs : List Char) : Option Decimal :=
  let whole := cs.takeWhile isDecimalDigit
  let rest := cs.dropWhile isDecimalDigit
  let (fraction, rest) := match rest with
    | '.' :: rest => (rest.takeWhile isDecimalDigit, rest.dropWhile isDecimalDigit)
    | _ => ([], rest)
  if whole.isEmpty && fraction.isEmpty then none
  else (readExponent rest).bind fun exponent =>
    ofParts? negative (digitsValue (whole ++ fraction)) (exponent - fraction.length)

/-- Read the mark of what is no number. -/
def readMark (negative alarming : Bool) (cs : List Char) : Option Decimal :=
  if cs.all isDecimalDigit then some (.notANumber negative alarming (digitsValue cs)) else none

/-- Read what stands behind a sign: a word or digits. -/
def readUnsigned (negative : Bool) (cs : List Char) : Option Decimal :=
  match cs.map Char.toLower with
  | ['i', 'n', 'f'] | ['i', 'n', 'f', 'i', 'n', 'i', 't', 'y'] => some (.infinite negative)
  | 'n' :: 'a' :: 'n' :: mark => readMark negative false mark
  | 's' :: 'n' :: 'a' :: 'n' :: mark => readMark negative true mark
  | _ => readDigits negative cs

/-- Read a decimal from its text.  White space around it is dropped before the underscores are. -/
def ofText? (s : String) : Option Decimal :=
  match (trimBoth isSpacing s.toList).filter (· ≠ '_') with
  | '-' :: rest => readUnsigned true rest
  | '+' :: rest => readUnsigned false rest
  | cs => readUnsigned false cs

/-! ## Writing -/

/-- Digits with a point behind the first `whole` of them. -/
def pointed (digits : List Char) (whole : Nat) : List Char :=
  if whole < digits.length then digits.take whole ++ '.' :: digits.drop whole else digits

/-- The text of digits and a power of ten. -/
def finiteText (digits : List Char) (power : Int) : List Char :=
  let whole := power + digits.length
  if power ≤ 0 ∧ -6 < whole then
    if 0 < whole then pointed digits whole.toNat
    else '0' :: '.' :: List.replicate (-whole).toNat '0' ++ digits
  else
    let exponent := whole - 1
    pointed digits 1 ++ 'E' :: (if 0 ≤ exponent then ['+'] else []) ++ (toString exponent).toList

/-- The text of a decimal. -/
def text (d : Decimal) : String :=
  let signed (negative : Bool) (cs : List Char) :=
    String.ofList (if negative then '-' :: cs else cs)
  match d with
  | .notANumber negative alarming mark =>
    let word := if alarming then "sNaN" else "NaN"
    signed negative (word ++ if mark = 0 then "" else toString mark).toList
  | .infinite negative => signed negative "Infinity".toList
  | .finite negative digits power => signed negative (finiteText (toString digits).toList power)

/-! ## Values -/

/-- A whole number. -/
def ofInt (n : Int) : Decimal :=
  .finite (n < 0) n.natAbs 0

/-- The exact value of a binary fraction. -/
def ofBinary (x : Binary64) : Decimal :=
  match x with
  | .notANumber => .notANumber false false 0
  | .infinite negative => .infinite negative
  | .finite negative mantissa exponent =>
    let num := scaledUp 2 exponent mantissa
    let den := scaledUp 2 (-exponent) 1
    let common := num.gcd den
    let places := (den / common).log2
    .finite negative (scaledUp 5 places (num / common)) (-(places : Int))

/-- How two absolute values are ordered.  Only powers of ten between first digits at the same place
are written out. -/
def orderSizes (m : Nat) (p : Int) (n : Nat) (q : Int) : Ordering :=
  match compare (leadingPower m p) (leadingPower n q) with
  | .eq => compare (scaledUp 10 (p - q) m) (scaledUp 10 (q - p) n)
  | o => o

/-- How two finite decimals are ordered. -/
def orderFinite (s : Bool) (m : Nat) (p : Int) (t : Bool) (n : Nat) (q : Int) : Ordering :=
  if m = 0 ∧ n = 0 then .eq
  else if m = 0 then if t then .gt else .lt
  else if n = 0 then if s then .lt else .gt
  else
    match s, t with
    | false, false => orderSizes m p n q
    | true, true => orderSizes n q m p
    | false, true => .gt
    | true, false => .lt

/-- How two decimals are ordered, and `none` where one of them is no number. -/
def order? : Decimal → Decimal → Option Ordering
  | .notANumber .., _ | _, .notANumber .. => none
  | .infinite s, .infinite t => some (compare t s)
  | .infinite negative, _ => some (if negative then .lt else .gt)
  | _, .infinite negative => some (if negative then .gt else .lt)
  | .finite s m p, .finite t n q => some (orderFinite s m p t n q)

/-- The greatest power of ten that is written out. -/
def writtenPower : Int := 10000000

/-- The digits of a whole part, toward zero. -/
def wholeDigits (digits : Nat) (power : Int) : Except WholePartError Nat :=
  if digits = 0 then .ok 0
  else if writtenPower < power then .error .oversized
  else if 0 ≤ power then .ok (scaledUp 10 power digits)
  else if leadingPower digits power < 0 then .ok 0
  else .ok (digits / scaledUp 10 (-power) 1)

/-- The whole part of a decimal, toward zero. -/
def wholePart : Decimal → Except WholePartError Int
  | .notANumber .. => .error .notANumber
  | .infinite _ => .error .infinite
  | .finite negative digits power =>
    (wholeDigits digits power).map fun n => if negative then -(n : Int) else n

example : (ofText? "-1_0.50").map text = some "-10.50" := by decide
example : (ofText? "1e3").map text = some "1E+3" := by decide
example : (ofText? ".0000001").map text = some "1E-7" := by decide
example : (ofText? "_ 1").isNone = true := by decide
example : order? (.finite false 1 greatestPower) (ofInt 5) = some .gt := by decide
example : order? (.finite false 150 (-2)) (ofBinary (.finite false 3 (-1))) = some .eq := by decide

end Decimal

end Recommender
