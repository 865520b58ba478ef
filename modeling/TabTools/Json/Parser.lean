import TabTools.Json.Basic
import TabTools.Text.Digits

/-!
# Reading JSON text

The grammar is strict: no trailing commas, no leading zeros, no raw control characters in strings,
no lone surrogate escapes, and only the space, tab, line feed and carriage return count as blank.
Arrays and objects may be nested 127 deep. A number beyond the doubles is refused.

Reading works on the characters still ahead. The readers of values, items and fields take a bound on
the number of steps (`fuel`), which `parse?` computes from the length of the text: every step
consumes a character.

**Numbers.** Digits are collected into a 64-bit significand; once the next digit would not fit, the
remaining digits of the integer part only raise the decimal exponent and those of the fraction are
dropped. A number with neither fraction nor exponent that fits is an integer; `-0` is a double.
-/

namespace TabTools.Json

open Text

/-- How deep arrays and objects may be nested. -/
def maxDepth : Nat := 127

def isSpace (c : Char) : Bool := c == ' ' || c == '\t' || c == '\n' || c == '\r'

def skipSpace (cs : List Char) : List Char := cs.dropWhile isSpace

/-! ## Strings -/

/-- The value of four hexadecimal digits. -/
def hex4? (a b c d : Char) : Option Nat := do
  let a ← hexValue? a
  let b ← hexValue? b
  let c ← hexValue? c
  let d ← hexValue? d
  return ((a * 16 + b) * 16 + c) * 16 + d

def isHighSurrogate (n : Nat) : Bool := 0xD800 ≤ n && n ≤ 0xDBFF

def isLowSurrogate (n : Nat) : Bool := 0xDC00 ≤ n && n ≤ 0xDFFF

def joinSurrogates (high low : Nat) : Char :=
  Char.ofNat (0x10000 + (high - 0xD800) * 0x400 + (low - 0xDC00))

/-- What a one-letter escape stands for. -/
def simpleEscape? (c : Char) : Option Char :=
  if c = '"' ∨ c = '\\' ∨ c = '/' then some c
  else if c = 'b' then some (Char.ofNat 8)
  else if c = 'f' then some (Char.ofNat 12)
  else if c = 'n' then some '\n'
  else if c = 'r' then some '\r'
  else if c = 't' then some '\t'
  else none

/-- Reads the rest of a string up to its closing quote: the characters it denotes and what
follows. -/
def stringBody : List Char → Option (List Char × List Char)
  | [] => none
  | '"' :: rest => some ([], rest)
  | '\\' :: 'u' :: a :: b :: c :: d :: rest =>
    match hex4? a b c d with
    | none => none
    | some n =>
      if isHighSurrogate n then
        match rest with
        | '\\' :: 'u' :: e :: f :: g :: h :: rest =>
          match hex4? e f g h with
          | none => none
          | some low =>
            if isLowSurrogate low then
              (stringBody rest).map fun r => (joinSurrogates n low :: r.1, r.2)
            else none
        | _ => none
      else if isLowSurrogate n then none
      else (stringBody rest).map fun r => (Char.ofNat n :: r.1, r.2)
  | '\\' :: e :: rest =>
    match simpleEscape? e with
    | none => none
    | some c => (stringBody rest).map fun r => (c :: r.1, r.2)
  | c :: rest =>
    if c = '\\' ∨ c.toNat < 0x20 then none
    else (stringBody rest).map fun r => (c :: r.1, r.2)

/-! ## Numbers -/

/-- The largest significand that is collected. -/
def maxSignificand : Nat := 0xFFFFFFFFFFFFFFFF

/-- A significand and the decimal exponent it stands at. -/
structure Digits where
  significand : Nat
  exponent : Int
  /-- Whether a digit did not fit any more. -/
  full : Bool

/-- Takes a digit of the integer part. A digit that does not fit raises the exponent. -/
def Digits.pushWhole (d : Digits) (c : Char) : Digits :=
  if d.full || maxSignificand < d.significand * 10 + digitValue c then
    { d with exponent := d.exponent + 1, full := true }
  else { d with significand := d.significand * 10 + digitValue c }

/-- Takes a digit of the fraction. The first digit that does not fit ends the significand. -/
def Digits.pushFraction (d : Digits) (c : Char) : Digits :=
  if d.full || maxSignificand < d.significand * 10 + digitValue c then { d with full := true }
  else
    { d with significand := d.significand * 10 + digitValue c, exponent := d.exponent - 1 }

def Digits.ofWhole (digits : List Char) : Digits :=
  digits.foldl Digits.pushWhole ⟨0, 0, false⟩

/-- Appends a fraction; room is looked for anew, whatever the integer part dropped. -/
def Digits.withFraction (d : Digits) (digits : List Char) : Digits :=
  digits.foldl Digits.pushFraction { d with full := false }

/-- The integer part: a zero alone, or digits that do not start with zero. -/
def wholeDigits (cs : List Char) : Option (List Char × List Char) :=
  match cs.takeWhile Char.isDigit with
  | [] => none
  | '0' :: _ :: _ => none
  | digits => some (digits, cs.dropWhile Char.isDigit)

/-- The fraction behind a decimal point, if there is one. -/
def fraction? : List Char → Option (Option (List Char) × List Char)
  | '.' :: rest =>
    match rest.takeWhile Char.isDigit with
    | [] => none
    | digits => some (some digits, rest.dropWhile Char.isDigit)
  | cs => some (none, cs)

/-- The digits of an exponent. -/
def exponentDigits (sign : Int) (cs : List Char) : Option (Option Int × List Char) :=
  match cs.takeWhile Char.isDigit with
  | [] => none
  | digits => some (some (sign * natOfDigits digits), cs.dropWhile Char.isDigit)

/-- The exponent, if there is one. -/
def exponent? : List Char → Option (Option Int × List Char)
  | c :: rest =>
    if c = 'e' ∨ c = 'E' then
      match rest with
      | '+' :: rest => exponentDigits 1 rest
      | '-' :: rest => exponentDigits (-1) rest
      | rest => exponentDigits 1 rest
    else some (none, c :: rest)
  | [] => some (none, [])

/-- How far below zero integers reach. -/
def leastInteger : Nat := 0x8000000000000000

/-- An integer in range, or the double for it. -/
def wholeNumber (negative : Bool) (d : Digits) : Option JsonNumber :=
  if d.full then (Magnitude.ofDecimal d.significand d.exponent).map fun m => .double ⟨negative, m⟩
  else if !negative then some (.int d.significand)
  else if 0 < d.significand && d.significand ≤ leastInteger then some (.int (-d.significand))
  else (Magnitude.nearest d.significand 1).map fun m => .double ⟨true, m⟩

/-- Reads a number behind its sign. -/
def unsignedNumber (negative : Bool) (cs : List Char) : Option (JsonNumber × List Char) := do
  let (whole, cs) ← wholeDigits cs
  let (fraction, cs) ← fraction? cs
  let (exponent, cs) ← exponent? cs
  let digits := Digits.ofWhole whole
  match fraction, exponent with
  | none, none => return (← wholeNumber negative digits, cs)
  | _, _ =>
    let digits := match fraction with
      | none => digits
      | some f => digits.withFraction f
    let magnitude ← Magnitude.ofDecimal digits.significand (digits.exponent + exponent.getD 0)
    return (.double ⟨negative, magnitude⟩, cs)

def number : List Char → Option (JsonNumber × List Char)
  | '-' :: rest => unsignedNumber true rest
  | cs => unsignedNumber false cs

/-! ## Values -/

mutual

/-- Reads a value that may contain `depth` levels of arrays and objects. -/
def value : (fuel depth : Nat) → List Char → Option (Json × List Char)
  | 0, _, _ => none
  | fuel + 1, depth, cs =>
    match skipSpace cs with
    | 'n' :: 'u' :: 'l' :: 'l' :: rest => some (.null, rest)
    | 't' :: 'r' :: 'u' :: 'e' :: rest => some (.bool true, rest)
    | 'f' :: 'a' :: 'l' :: 's' :: 'e' :: rest => some (.bool false, rest)
    | '"' :: rest => (stringBody rest).map fun r => (.str (String.ofList r.1), r.2)
    | '[' :: rest =>
      match depth with
      | 0 => none
      | depth + 1 =>
        match skipSpace rest with
        | ']' :: rest => some (.arr [], rest)
        | rest => (items fuel depth rest).map fun r => (.arr r.1, r.2)
    | '{' :: rest =>
      match depth with
      | 0 => none
      | depth + 1 =>
        match skipSpace rest with
        | '}' :: rest => some (.obj [], rest)
        | rest => (fields fuel depth rest).map fun r => (object r.1, r.2)
    | rest => (number rest).map fun r => (.num r.1, r.2)

/-- Reads one or more items and the closing bracket. -/
def items : (fuel depth : Nat) → List Char → Option (List Json × List Char)
  | 0, _, _ => none
  | fuel + 1, depth, cs =>
    match value fuel depth cs with
    | none => none
    | some (v, rest) =>
      match skipSpace rest with
      | ',' :: rest => (items fuel depth rest).map fun r => (v :: r.1, r.2)
      | ']' :: rest => some ([v], rest)
      | _ => none

/-- Reads one or more fields and the closing brace. -/
def fields : (fuel depth : Nat) → List Char → Option (List (String × Json) × List Char)
  | 0, _, _ => none
  | fuel + 1, depth, cs =>
    match skipSpace cs with
    | '"' :: rest =>
      match stringBody rest with
      | none => none
      | some (key, rest) =>
        match skipSpace rest with
        | ':' :: rest =>
          match value fuel depth rest with
          | none => none
          | some (v, rest) =>
            match skipSpace rest with
            | ',' :: rest =>
              (fields fuel depth rest).map fun r => ((String.ofList key, v) :: r.1, r.2)
            | '}' :: rest => some ([(String.ofList key, v)], rest)
            | _ => none
        | _ => none
    | _ => none

end

/-- Reads a whole text as one value nested at most `depth` deep. -/
def parseWithin? (depth : Nat) (text : List Char) : Option Json :=
  match value (2 * text.length + 2) depth text with
  | some (v, rest) => if (skipSpace rest).isEmpty then some v else none
  | none => none

/-- Reads a whole text as one value. -/
def parse? (text : List Char) : Option Json := parseWithin? maxDepth text

end TabTools.Json
