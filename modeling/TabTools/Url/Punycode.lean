/-!
# Labels in ASCII

A label of a domain name is written in ASCII as its ASCII characters, a hyphen if there are any, and
numbers that say in turn where the other characters are put in, in ascending order. Every number
counts the steps from one such place to the next: a step goes on by one position, and after the last
position to the next character.

**Numbers.** A number is written in digits from `a` to `z` and `0` to `9`, the lowest first. Every
digit has a threshold, and the first digit below its threshold ends the number. The thresholds
adapt (`adapt`) to the size of the numbers before, so that numbers of like size stay short.
-/

namespace TabTools.Url.Punycode

/-! ## Digits -/

def digitChar (d : Nat) : Char :=
  if d < 26 then Char.ofNat (0x61 + d) else Char.ofNat (0x30 + d - 26)

def digitValue? (c : Char) : Option Nat :=
  if c.isLower then some (c.toNat - 0x61)
  else if c.isUpper then some (c.toNat - 0x41)
  else if c.isDigit then some (c.toNat - 0x30 + 26)
  else none

/-- The threshold of the digit at a place, which counts in steps of 36. -/
def threshold (place bias : Nat) : Nat := min 26 (max 1 (place - bias))

theorem threshold_pos (place bias : Nat) : 0 < threshold place bias := by
  unfold threshold; omega

/-- The bias for a number of a given size. -/
def biasFor (size : Nat) : Nat :=
  if 455 < size then 36 + biasFor (size / 35) else 36 * size / (size + 38)
termination_by size
decreasing_by omega

/-- The bias after a number, which was the first or not, with `count` characters in place. -/
def adapt (number count : Nat) (first : Bool) : Nat :=
  let size := if first then number / 700 else number / 2
  biasFor (size + size / count)

/-! ## Encoding -/

/-- The digits of a number. -/
def encodeNumber (bias place n : Nat) : List Char :=
  let t := threshold place bias
  if n < t then [digitChar n]
  else digitChar (t + (n - t) % (36 - t)) :: encodeNumber bias (place + 36) ((n - t) / (36 - t))
termination_by n
decreasing_by
  have := threshold_pos place bias
  exact Nat.lt_of_le_of_lt (Nat.div_le_self _ _) (by omega)

/-- An encoding under way: what is written, the steps since the last place, and how many characters
are in place. -/
structure Encoder where
  written : List Char
  steps : Nat
  bias : Nat
  count : Nat
  first : Bool

namespace Encoder

/-- Goes past one character of the label in the search for the places of `code`. -/
def pass (code : Nat) (e : Encoder) (c : Char) : Encoder :=
  if c.toNat < code then { e with steps := e.steps + 1 }
  else if c.toNat = code then
    { written := e.written ++ encodeNumber e.bias 36 e.steps
      steps := 0
      bias := adapt e.steps (e.count + 1) e.first
      count := e.count + 1
      first := false }
  else e

/-- Puts in the characters with the given codes, in ascending order. `next` is the first code that
has not been looked for. -/
def run (label : List Char) : (codes : List Nat) → (next : Nat) → Encoder → Encoder
  | [], _, e => e
  | code :: codes, next, e =>
    let e := { e with steps := e.steps + (code - next) * (e.count + 1) }
    let e := label.foldl (pass code) e
    run label codes (code + 1) { e with steps := e.steps + 1 }

end Encoder

/-- Puts a number into an ascending list that has no number twice. -/
def insertOnce (n : Nat) : List Nat → List Nat
  | [] => [n]
  | m :: rest =>
    if n < m then n :: m :: rest
    else if n = m then m :: rest
    else m :: insertOnce n rest

def encode (label : List Char) : List Char :=
  let basic := label.filter fun c => c.toNat < 0x80
  let codes := ((label.map Char.toNat).filter (0x80 ≤ ·)).foldr insertOnce []
  let start := if basic.isEmpty then [] else basic ++ ['-']
  (Encoder.run label codes 0x80 ⟨start, 0, 72, basic.length, true⟩).written

/-! ## Decoding -/

/-- The weights of digits, and numbers, stay below this bound. -/
def bound : Nat := 0x100000000

/-- Reads a number that is added to `n`, and what follows it. -/
def decodeNumber? (bias : Nat) : (place weight n : Nat) → List Char → Option (Nat × List Char)
  | _, _, _, [] => none
  | place, weight, n, c :: rest => do
    let d ← digitValue? c
    let n := n + d * weight
    let t := threshold place bias
    if bound ≤ n then none
    else if d < t then some (n, rest)
    else if bound ≤ weight * (36 - t) then none
    else decodeNumber? bias (place + 36) (weight * (36 - t)) n rest

/-- Puts in characters from numbers. `fuel` bounds how many there are, `place` is where the last one
was put in and `code` its code. -/
def decodeRest? : (fuel bias code place : Nat) → (label rest : List Char) → Option (List Char)
  | _, _, _, _, label, [] => some label
  | 0, _, _, _, _, _ => none
  | fuel + 1, bias, code, place, label, rest => do
    let (n, rest) ← decodeNumber? bias 36 1 place rest
    let count := label.length + 1
    let code := code + n / count
    if code < 0x110000 ∧ ¬ (0xD800 ≤ code ∧ code < 0xE000) then
      decodeRest? fuel (adapt (n - place) count (place == 0)) code (n % count + 1)
        (label.insertIdx (n % count) (Char.ofNat code)) rest
    else none

/-- The ASCII characters of a label and its numbers. The last hyphen stands between them, unless it
comes first. -/
def split (text : List Char) : List Char × List Char :=
  let numbers := (text.reverse.takeWhile (· ≠ '-')).reverse
  let basic := text.take (text.length - numbers.length - 1)
  if basic.isEmpty then ([], text) else (basic, numbers)

/-- The label that a text in ASCII stands for. -/
def decode? (text : List Char) : Option (List Char) :=
  let (basic, numbers) := split text
  decodeRest? numbers.length 72 0x80 0 basic numbers

end TabTools.Url.Punycode
