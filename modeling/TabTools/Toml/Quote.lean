import TabTools.Text.Digits

/-!
# Strings of TOML

There are four kinds: in double quotes with escapes, in single quotes without, and both of them over
several lines in tripled quotes. Each reader starts behind the opening quotes and returns the
characters that the string denotes and what follows the closing quotes.

In a string over several lines, a line break right behind the opening quotes does not count, up to
two more quotes may stand right before the closing ones, and a backslash at the end of a line skips
all blanks and line breaks up to the next character.
-/

namespace TabTools.Toml

open Text

/-- Whether a character may stand in a string or a comment: no control character but the tab. -/
def isPlain (c : Char) : Bool := c == '\t' || (0x20 ≤ c.toNat && c.toNat != 0x7F)

def isSpace (c : Char) : Bool := c == ' ' || c == '\t'

/-- The rest after a line break at the front. -/
def lineBreak? : List Char → Option (List Char)
  | '\n' :: rest => some rest
  | '\r' :: '\n' :: rest => some rest
  | _ => none

/-- Leaves out a line break at the front. -/
def skipBreak (cs : List Char) : List Char := (lineBreak? cs).getD cs

/-- What a one-letter escape stands for. -/
def escape? (c : Char) : Option Char :=
  if c = '"' ∨ c = '\\' then some c
  else if c = 'b' then some (Char.ofNat 8)
  else if c = 'f' then some (Char.ofNat 12)
  else if c = 'n' then some '\n'
  else if c = 'r' then some '\r'
  else if c = 't' then some '\t'
  else none

/-- The character whose code hexadecimal digits write. -/
def charOfHex? (digits : List Char) : Option Char := do
  let values ← digits.mapM hexValue?
  let code := values.foldl (fun n d => n * 16 + d) 0
  if code.isValidChar then return Char.ofNat code else none

abbrev Found := Option (List Char × List Char)

/-- Puts a character before those that were found. -/
def Found.push (c : Char) (found : Found) : Found := found.map fun r => (c :: r.1, r.2)

/-- Puts a character, if there is one, before those that were found. -/
def Found.push? (c : Option Char) (found : Found) : Found := c.bind fun c => Found.push c found

/-- Reads a string in double quotes. -/
def basic : List Char → Found
  | [] => none
  | '"' :: rest => some ([], rest)
  | '\\' :: 'u' :: a :: b :: c :: d :: rest => Found.push? (charOfHex? [a, b, c, d]) (basic rest)
  | '\\' :: 'U' :: a :: b :: c :: d :: e :: f :: g :: h :: rest =>
    Found.push? (charOfHex? [a, b, c, d, e, f, g, h]) (basic rest)
  | '\\' :: e :: rest => Found.push? (escape? e) (basic rest)
  | c :: rest => if c ≠ '\\' ∧ isPlain c then Found.push c (basic rest) else none

/-- Reads a string in single quotes. -/
def verbatim : List Char → Found
  | [] => none
  | '\'' :: rest => some ([], rest)
  | c :: rest => if isPlain c then Found.push c (verbatim rest) else none

/-- Whether only blanks stand before the next line break. -/
def endsLine (cs : List Char) : Bool := (lineBreak? (cs.dropWhile isSpace)).isSome

/-- Reads a string in tripled double quotes. `skipping` says whether blanks and line breaks are
being left out. -/
def basicLines (skipping : Bool) : List Char → Found
  | [] => none
  | '"' :: '"' :: '"' :: '"' :: '"' :: rest => some (['"', '"'], rest)
  | '"' :: '"' :: '"' :: '"' :: rest => some (['"'], rest)
  | '"' :: '"' :: '"' :: rest => some ([], rest)
  | '\\' :: 'u' :: a :: b :: c :: d :: rest =>
    Found.push? (charOfHex? [a, b, c, d]) (basicLines false rest)
  | '\\' :: 'U' :: a :: b :: c :: d :: e :: f :: g :: h :: rest =>
    Found.push? (charOfHex? [a, b, c, d, e, f, g, h]) (basicLines false rest)
  | '\\' :: e :: rest =>
    if endsLine (e :: rest) then basicLines true rest
    else Found.push? (escape? e) (basicLines false rest)
  | '\r' :: '\n' :: rest =>
    if skipping then basicLines true rest else Found.push '\n' (basicLines false rest)
  | c :: rest =>
    if skipping ∧ (isSpace c ∨ c = '\n') then basicLines true rest
    else if c = '\n' ∨ (c ≠ '\\' ∧ isPlain c) then Found.push c (basicLines false rest)
    else none

/-- Reads a string in tripled single quotes. -/
def verbatimLines : List Char → Found
  | [] => none
  | '\'' :: '\'' :: '\'' :: '\'' :: '\'' :: rest => some (['\'', '\''], rest)
  | '\'' :: '\'' :: '\'' :: '\'' :: rest => some (['\''], rest)
  | '\'' :: '\'' :: '\'' :: rest => some ([], rest)
  | '\r' :: '\n' :: rest => Found.push '\n' (verbatimLines rest)
  | c :: rest =>
    if c = '\n' ∨ isPlain c then Found.push c (verbatimLines rest) else none

/-- Reads a string of any kind, opening quotes included. -/
def string? : List Char → Found
  | '"' :: '"' :: '"' :: rest => basicLines false (skipBreak rest)
  | '"' :: rest => basic rest
  | '\'' :: '\'' :: '\'' :: rest => verbatimLines (skipBreak rest)
  | '\'' :: rest => verbatim rest
  | _ => none

end TabTools.Toml
