import Recommender.Text.Digit

/-!
# Numeric addresses of hosts

A host may be named by its address: four numbers below 256 with points between them, or eight groups
of hexadecimal digits with colons between them.  In the second form the last two groups may be
written as an address of the first form, one run of zero groups may be left out between two colons,
and behind a percent sign the name of a zone may follow.
-/

namespace Recommender.Http

/-- The parts of characters between dividers. -/
def partsAt (divider : Char) : List Char → List (List Char)
  | [] => [[]]
  | c :: rest =>
    if c = divider then [] :: partsAt divider rest
    else
      match partsAt divider rest with
      | part :: parts => (c :: part) :: parts
      | [] => [[c]]

/-- Whether characters are a number below 256, without zeros in front. -/
def isOctet (cs : List Char) : Bool :=
  !cs.isEmpty && cs.length ≤ 3 && cs.all isAsciiDigit && (cs = ['0'] || cs.head? ≠ some '0')
  && cs.foldl (fun n c => 10 * n + (c.toNat - 48)) 0 < 256

/-- Whether characters are an address of four numbers. -/
def isShortAddress (cs : List Char) : Bool :=
  let parts := partsAt '.' cs
  parts.length = 4 && parts.all isOctet

/-- Whether characters are a group of hexadecimal digits. -/
def isGroup (cs : List Char) : Bool :=
  !cs.isEmpty && cs.length ≤ 4 && cs.all fun c => (hexValue? c).isSome

/-- The groups in front of a left-out run, where only the first of them may be missing if it is the
only one; `none` if they are not complete. -/
def outerGroups (groups : List (List Char)) : Option (List (List Char)) :=
  if groups = [[]] then some [] else if groups.all isGroup then some groups else none

/-- Whether the groups between colons make up an address. -/
def areGroups (groups : List (List Char)) : Bool :=
  let inner := groups.tail.dropLast
  match inner.findIdx? List.isEmpty with
  | none => groups.length = 8 && groups.all isGroup
  | some i =>
    match outerGroups (groups.take (i + 1)), outerGroups (groups.drop (i + 2)) with
    | some front, some back => front.length + back.length < 8
    | _, _ => false

/-- The groups of an address, with the last two of them written as groups. -/
def groupsOf (cs : List Char) : Option (List (List Char)) :=
  let groups := partsAt ':' cs
  match groups.getLast? with
  | some last =>
    if last.contains '.' then
      if isShortAddress last then some (groups.dropLast ++ [['0'], ['0']]) else none
    else some groups
  | none => none

/-- Whether characters name a zone behind a percent sign, or nothing. -/
def isZone : List Char → Bool
  | [] => true
  | _ :: zone => !zone.isEmpty && !zone.contains '%'

/-- Whether characters are an address of eight groups. -/
def isLongAddress (cs : List Char) : Bool :=
  isZone (cs.dropWhile (· ≠ '%'))
  && 3 ≤ (partsAt ':' (cs.takeWhile (· ≠ '%'))).length
  && (groupsOf (cs.takeWhile (· ≠ '%'))).any areGroups

/-- The places between numbers at which characters can stand, after one more: at an even place a
number has to begin, at an odd one it may go on. -/
def placesBehind (places : List Nat) (point : Nat) : List Nat :=
  (places.flatMap fun n =>
    (if 0x30 ≤ point && point ≤ 0x39 then [2 * (n / 2) + 1] else [])
    ++ (if n % 2 = 1 && n < 7 then [n + 1] else [])).eraseDups

/-- Whether code points are four runs of digits with one code point between each, so that they
should be an address. -/
def looksLikeAddress (points : List Nat) : Bool :=
  (points.foldl placesBehind [0]).contains 7

example : isShortAddress "127.0.0.1".toList = true := by decide
example : isShortAddress "127.0.0.01".toList = false := by decide
example : isLongAddress "::1%a".toList = true := by decide
example : isLongAddress "1:2:3:4:5:6:7::".toList = true := by decide
example : isLongAddress "::ffff:1.2.3.4".toList = true := by decide
example : isLongAddress "1::2::3".toList = false := by decide
example : looksLikeAddress ("1234567".toList.map Char.toNat) = true := by decide

end Recommender.Http
