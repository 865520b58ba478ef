import TabTools.Text.Blank
import TabTools.Text.Digits

/-!
# Numbers of hosts

A host number of the short kind is four decimal numbers below 256, written without leading zeros.
One of the long kind is eight hexadecimal numbers of up to four digits; two colons stand for as many
zeros as are missing, at least one, and the last two numbers may be written as a short host number.
-/

namespace TabTools.HostNumber

open Text

/-- A decimal number up to a limit, which may start with zeros. -/
def decimalUpTo? (limit : Nat) (cs : List Char) : Option Nat :=
  if cs.isEmpty ∨ !cs.all Char.isDigit ∨ limit < natOfDigits cs then none
  else some (natOfDigits cs)

/-- One of the numbers of a short host number. -/
def byte? (cs : List Char) : Option Nat :=
  match cs with
  | '0' :: _ :: _ => none
  | cs => if 3 < cs.length then none else decimalUpTo? 255 cs

def shortHost? (cs : List Char) : Option (List Nat) := do
  let bytes ← (pieces (· == '.') cs).mapM byte?
  if bytes.length = 4 then return bytes else none

/-- One of the numbers of a long host number. -/
def hexWord? (cs : List Char) : Option Nat :=
  if cs.isEmpty ∨ 4 < cs.length then none
  else (cs.mapM hexValue?).map fun digits => digits.foldl (fun n d => n * 16 + d) 0

/-- Two numbers that are written as a short host number. -/
def wordPair : List Nat → List Nat
  | [a, b, c, d] => [a * 256 + b, c * 256 + d]
  | _ => []

/-- The numbers between colons. Only the last piece may be a short host number. -/
def words? : List (List Char) → Option (List Nat)
  | [] => some []
  | [piece] => (hexWord? piece).map (fun n => [n]) <|> (shortHost? piece).map wordPair
  | piece :: rest => do return (← hexWord? piece) :: (← words? rest)

/-- The numbers of a part of a long host number, which may be empty. -/
def part? (cs : List Char) : Option (List Nat) :=
  if cs.isEmpty then some [] else words? (pieces (· == ':') cs)

/-- The parts before and after the first two colons in a row. -/
def splitGap : List Char → Option (List Char × List Char)
  | ':' :: ':' :: rest => some ([], rest)
  | c :: rest => (splitGap rest).map fun r => (c :: r.1, r.2)
  | [] => none

def longHost? (cs : List Char) : Option (List Nat) :=
  match splitGap cs with
  | none => do
    let words ← words? (pieces (· == ':') cs)
    if words.length = 8 then return words else none
  | some (front, back) => do
    if front.contains '.' then none
    let front ← part? front
    let back ← part? back
    let missing := 8 - (front.length + back.length)
    if missing = 0 then none
    return front ++ List.replicate missing 0 ++ back

end TabTools.HostNumber
