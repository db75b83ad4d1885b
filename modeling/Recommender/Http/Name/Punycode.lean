/-!
# Punycode

Code points in ASCII (RFC 3492): the ASCII characters come first, behind them a hyphen if there are
any, and then the others in ascending order, each as the number of places that are passed over on
the way to it.  A place is a position in the text that has been put together so far under a code
point.  Numbers are written to the base 36, the last digit first, with limits to the digits that
follow the numbers written before.
-/

namespace Recommender.Http.Punycode

/-- The character of a digit. -/
def digitChar (d : Nat) : Char :=
  if d < 26 then Char.ofNat (0x61 + d) else Char.ofNat (0x30 + d - 26)

/-- The digit of a character of either case. -/
def digitOf? (c : Char) : Option Nat :=
  if 'a' ≤ c && c ≤ 'z' then some (c.toNat - 0x61)
  else if 'A' ≤ c && c ≤ 'Z' then some (c.toNat - 0x41)
  else if '0' ≤ c && c ≤ '9' then some (c.toNat - 0x30 + 26)
  else none

/-- The limit to the last digit at a place, counted in steps of 36. -/
def limit (place bias : Nat) : Nat :=
  max 1 (min 26 (place - bias))

/-- Scale a number down, with 36 steps for each time. -/
def scale (n steps : Nat) : Nat × Nat :=
  if 455 < n then scale (n / 35) (steps + 36) else (n, steps)
termination_by n
decreasing_by exact Nat.div_lt_self (by omega) (by omega)

/-- The bias behind a number, once the text has some length. -/
def nextBias (n length : Nat) (isFirst : Bool) : Nat :=
  let n := if isFirst then n / 700 else n / 2
  let (n, steps) := scale (n + n / length) 0
  steps + 36 * n / (n + 38)

/-! ## Writing -/

/-- The digits of a number from a place on. -/
def writeNumber (bias place n : Nat) : List Char :=
  let t := limit place bias
  if n < t then [digitChar n]
  else digitChar (t + (n - t) % (36 - t)) :: writeNumber bias (place + 36) ((n - t) / (36 - t))
termination_by n
decreasing_by
  have pos : 1 ≤ limit place bias := Nat.le_max_left _ _
  calc (n - limit place bias) / (36 - limit place bias)
      ≤ n - limit place bias := Nat.div_le_self _ _
    _ < n := by omega

/-- What has been written, the places passed over since, the bias, and the length of the text. -/
structure Progress where
  written : List Char := []
  passed : Nat := 0
  bias : Nat := 72
  length : Nat

/-- Pass a code point of the text on the way to one. -/
def pass (isFirst : Nat → Bool) (goal : Nat) (s : Progress) (point : Nat) : Progress :=
  if point < goal then { s with passed := s.passed + 1 }
  else if point = goal then
    { written := s.written ++ writeNumber s.bias 36 s.passed
      passed := 0
      bias := nextBias s.passed (s.length + 1) (isFirst s.length)
      length := s.length + 1 }
  else s

/-- Write the code points of the text that are one of some, which are ascending; `next` is the code
point to go on from. -/
def writeAll (text : List Nat) (isFirst : Nat → Bool) : List Nat → (next : Nat) → Progress →
    Progress
  | [], _, s => s
  | goal :: rest, next, s =>
    let s := { s with passed := s.passed + (goal - next) * (s.length + 1) }
    let s := text.foldl (pass isFirst goal) s
    writeAll text isFirst rest (goal + 1) { s with passed := s.passed + 1 }

/-- The written form of code points. -/
def encode (text : List Nat) : List Char :=
  let plain := text.filter (· < 0x80)
  let goals := ((text.filter (0x80 ≤ ·)).mergeSort (· ≤ ·)).eraseDups
  let s := writeAll text (· = plain.length) goals 0x80 { length := plain.length }
  plain.map Char.ofNat ++ (if plain.isEmpty then [] else ['-']) ++ s.written

/-! ## Reading -/

/-- Read a number, each digit of which counts for `weight` times as much as before. -/
def readNumber (bias : Nat) : List Char → (place weight : Nat) → Option (Nat × List Char)
  | [], _, _ => none
  | c :: rest, place, weight =>
    match digitOf? c with
    | none => none
    | some d =>
      let t := limit place bias
      if d < t then some (d * weight, rest)
      else (readNumber bias rest (place + 36) (weight * (36 - t))).map fun r =>
        (d * weight + r.1, r.2)

theorem length_lt_of_readNumber {bias : Nat} {cs rest : List Char} {place weight n : Nat}
    (h : readNumber bias cs place weight = some (n, rest)) : rest.length < cs.length := by
  induction cs generalizing place weight n with
  | nil => simp [readNumber] at h
  | cons c cs ih =>
    rw [readNumber] at h
    split at h
    · simp at h
    · dsimp only at h
      split at h
      · simp_all
      · obtain ⟨r, hr, he⟩ := Option.map_eq_some_iff.1 h
        simp only [Prod.mk.injEq] at he
        have := ih (n := r.1) (by rw [hr, ← he.2])
        simp only [List.length_cons]
        omega

/-- Put code points into a text: `place` is the place to go on from under a code point. -/
def readAll (bias point place : Nat) (text : List Nat) (cs : List Char) : Option (List Nat) :=
  match cs with
  | [] => some text
  | c :: rest =>
    match h : readNumber bias (c :: rest) 36 1 with
    | none => none
    | some (n, rest') =>
      let length := text.length + 1
      let goal := point + (place + n) / length
      let position := (place + n) % length
      if 0x10FFFF < goal then none
      else
        readAll (nextBias n length (place = 0)) goal (position + 1) (text.insertIdx position goal)
          rest'
termination_by cs.length
decreasing_by exact length_lt_of_readNumber h

/-- Read code points from their written form. -/
def decode (cs : List Char) : Option (List Nat) :=
  let numbers := (cs.reverse.takeWhile (· ≠ '-')).reverse
  let plain := cs.take (cs.length - numbers.length - 1)
  readAll 72 0x80 0 (plain.map Char.toNat) numbers

example : encode [0x62, 0xFC, 0x63, 0x68, 0x65, 0x72] = "bcher-kva".toList := by decide +kernel
example : decode "bcher-kva".toList = some [0x62, 0xFC, 0x63, 0x68, 0x65, 0x72] := by
  decide +kernel

end Recommender.Http.Punycode
