import TabTools.Number.Binary64
import TabTools.Text.Blank
import TabTools.Text.Digits

/-!
# Numbers, truth values and dates of TOML

`literal` takes a literal off the front of a text and returns what follows. A literal is a date, a
time of day or both, else a float, else an integer, whichever fits first.

Digits may be set apart by single underscores. An integer must fit in 64 bits, and a float must not
round to infinity, unless it is negative.
-/

namespace TabTools.Toml

open Text

/-- Takes a given character off the front. -/
def expect (c : Char) : List Char → Option (List Char)
  | d :: rest => if d = c then some rest else none
  | [] => none

/-! ## Dates -/

/-- The number that the first `n` characters write in digits. -/
def digits? (n : Nat) (cs : List Char) : Option (Nat × List Char) :=
  let digits := cs.take n
  if digits.length = n ∧ digits.all Char.isDigit then some (natOfDigits digits, cs.drop n)
  else none

def isLeapYear (year : Nat) : Bool := year % 4 == 0 && (year % 100 != 0 || year % 400 == 0)

def daysIn (year month : Nat) : Nat :=
  if month = 2 then (if isLeapYear year then 29 else 28)
  else if month = 4 ∨ month = 6 ∨ month = 9 ∨ month = 11 then 30
  else 31

/-- A date, `year-month-day`. -/
def date? (cs : List Char) : Option (List Char) := do
  let (year, cs) ← digits? 4 cs
  let (month, cs) ← digits? 2 (← expect '-' cs)
  let (day, cs) ← digits? 2 (← expect '-' cs)
  if 1 ≤ month ∧ month ≤ 12 ∧ 1 ≤ day ∧ day ≤ daysIn year month then return cs else none

/-- An hour and a minute, `hour:minute`. -/
def clock? (cs : List Char) : Option (List Char) := do
  let (hour, cs) ← digits? 2 cs
  let (minute, cs) ← digits? 2 (← expect ':' cs)
  if hour ≤ 23 ∧ minute ≤ 59 then return cs else none

/-- A time of day, with seconds that may have a fraction. -/
def time? (cs : List Char) : Option (List Char) := do
  let cs ← clock? cs
  let (second, cs) ← digits? 2 (← expect ':' cs)
  if 60 < second then none
  match cs with
  | '.' :: d :: rest => return if d.isDigit then rest.dropWhile Char.isDigit else cs
  | _ => return cs

/-- The distance from universal time, if there is one. -/
def offset? : List Char → Option (List Char)
  | 'Z' :: rest => some rest
  | 'z' :: rest => some rest
  | '+' :: rest => clock? rest
  | '-' :: rest => clock? rest
  | cs => some cs

/-- A date, which a time may follow, or a time. -/
def dateTime? (cs : List Char) : Option (List Char) :=
  match date? cs with
  | none => time? cs
  | some rest =>
    match rest with
    | c :: after =>
      if c = 'T' ∨ c = 't' ∨ c = ' ' then
        match time? after with
        | some rest => offset? rest
        | none => some rest
      else some rest
    | [] => some []

/-! ## Numbers -/

/-- Whether underscores stand between digits only. -/
def wellSpaced (run : List Char) : Bool :=
  (pieces (· == '_') run).all fun piece => !piece.isEmpty

/-- A run of digits, without the underscores in it, and what follows. -/
def digitRun (isDigit : Char → Bool) (cs : List Char) : Option (List Char × List Char) :=
  let belongs := fun c => isDigit c || c == '_'
  let run := cs.takeWhile belongs
  if wellSpaced run then some (run.filter (· != '_'), cs.dropWhile belongs) else none

/-- The digits of a decimal integer, which do not start with a zero unless it stands alone. -/
def wholeRun (cs : List Char) : Option (List Char × List Char) :=
  match digitRun Char.isDigit cs with
  | some ('0' :: _ :: _, _) => none
  | found => found

/-- The number that digits write in a base. -/
def inBase (base : Nat) (digits : List Char) : Nat :=
  digits.foldl (fun n c => n * base + (hexValue? c).getD 0) 0

/-- The largest integer. The least one is farther from zero by one. -/
def maxInteger : Nat := 0x7FFFFFFFFFFFFFFF

/-- An integer in a base other than ten, behind its mark. -/
def based? (base : Nat) (cs : List Char) : Option (List Char) := do
  let (digits, cs) ← digitRun (fun c => (hexValue? c).any (· < base)) cs
  if inBase base digits ≤ maxInteger then return cs else none

/-- Whether the sign before a literal is a minus, and what follows the sign. -/
def signOf : List Char → Bool × List Char
  | '-' :: rest => (true, rest)
  | '+' :: rest => (false, rest)
  | cs => (false, cs)

def integer? (cs : List Char) : Option (List Char) :=
  match cs with
  | '0' :: 'x' :: rest => based? 16 rest
  | '0' :: 'o' :: rest => based? 8 rest
  | '0' :: 'b' :: rest => based? 2 rest
  | _ => do
    let (negative, cs) := signOf cs
    let (digits, cs) ← wholeRun cs
    if natOfDigits digits ≤ maxInteger + (if negative then 1 else 0) then return cs else none

/-- Whether a decimal rounds to a finite double. Its size is estimated first, so that no huge power
is computed. -/
def isFinite (digits : List Char) (exponent : Int) : Bool :=
  let n := natOfDigits digits
  if n = 0 then true
  else
    let size := (Nat.toDigits 10 n).length + exponent
    if size < 300 then true
    else if 310 < size then false
    else if 0 ≤ exponent then (Magnitude.nearest (n * Nat.pow 10 exponent.toNat) 1).isSome
    else (Magnitude.nearest n (Nat.pow 10 (-exponent).toNat)).isSome

/-- The exponent behind its mark. -/
def exponent? (cs : List Char) : Option (Int × List Char) := do
  let (negative, cs) := signOf cs
  let (digits, cs) ← digitRun Char.isDigit cs
  let size : Int := natOfDigits digits
  return (if negative then -size else size, cs)

def marksExponent (c : Char) : Bool := c == 'e' || c == 'E'

/-- A float in digits: with a fraction, an exponent or both. -/
def decimal? (cs : List Char) : Option (List Char) := do
  let (negative, cs) := signOf cs
  let (whole, cs) ← wholeRun cs
  let (digits, exponent, cs) ←
    match cs with
    | '.' :: rest => do
      let (fraction, rest) ← digitRun Char.isDigit rest
      let (exponent, rest) ←
        match rest with
        | c :: after => if marksExponent c then exponent? after else some (0, rest)
        | [] => some (0, [])
      some (whole ++ fraction, exponent - fraction.length, rest)
    | c :: rest => do
      if !marksExponent c then none
      let (exponent, rest) ← exponent? rest
      some (whole, exponent, rest)
    | [] => none
  if negative || isFinite digits exponent then return cs else none

/-- Infinity or not a number, behind the sign. -/
def special? : List Char → Option (List Char)
  | 'i' :: 'n' :: 'f' :: rest => some rest
  | 'n' :: 'a' :: 'n' :: rest => some rest
  | _ => none

/-- A truth value. -/
def truth? : List Char → Option (List Char)
  | 't' :: 'r' :: 'u' :: 'e' :: rest => some rest
  | 'f' :: 'a' :: 'l' :: 's' :: 'e' :: rest => some rest
  | _ => none

/-- What follows the literal at the front of a text. -/
def afterLiteral? (cs : List Char) : Option (List Char) :=
  truth? cs <|> dateTime? cs <|> decimal? cs <|> special? (signOf cs).2 <|> integer? cs

/-- Takes a literal off the front of a text. -/
def literal (cs : List Char) : Option (String × List Char) :=
  (afterLiteral? cs).map fun rest => (String.ofList (cs.take (cs.length - rest.length)), rest)

end TabTools.Toml
