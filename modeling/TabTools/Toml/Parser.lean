import TabTools.Toml.Basic
import TabTools.Toml.Literal
import TabTools.Toml.Quote

/-!
# Reading TOML

A document is read line by line: a header opens a table, and an entry goes into the table that was
opened last. Any line that does not fit the grammar, or that adds to a table which is closed to it,
makes the whole document unreadable.

The readers take a bound on the number of steps (`fuel`), which `parse?` computes from the length of
the text: every step consumes a character.
-/

namespace TabTools.Toml

/-- How deep arrays and tables in braces may be nested. -/
def maxDepth : Nat := 79

/-- How many parts a key may have. -/
def maxParts : Nat := 79

def skipSpace (cs : List Char) : List Char := cs.dropWhile isSpace

/-- Leaves out blanks, line breaks and comments. -/
def skipGap (inComment : Bool) : List Char → List Char
  | [] => []
  | '\n' :: rest => skipGap false rest
  | '\r' :: '\n' :: rest => skipGap false rest
  | c :: rest =>
    if inComment then (if isPlain c then skipGap true rest else c :: rest)
    else if isSpace c then skipGap false rest
    else if c = '#' then skipGap true rest
    else c :: rest

/-- The rest after the end of a line: blanks, a comment perhaps, and a line break or the end of the
text. -/
def lineEnd? (cs : List Char) : Option (List Char) :=
  let cs := match skipSpace cs with
    | '#' :: rest => rest.dropWhile isPlain
    | cs => cs
  if cs.isEmpty then some [] else lineBreak? cs

/-! ## Keys -/

def isBare (c : Char) : Bool := c.isAlphanum || c == '-' || c == '_'

/-- One part of a key. -/
def keyPart : List Char → Option (String × List Char)
  | '"' :: rest => (basic rest).map fun r => (String.ofList r.1, r.2)
  | '\'' :: rest => (verbatim rest).map fun r => (String.ofList r.1, r.2)
  | cs =>
    match cs.takeWhile isBare with
    | [] => none
    | bare => some (String.ofList bare, cs.dropWhile isBare)

/-- The parts of a dotted key, with the blanks around them left out. -/
def keyParts : (fuel : Nat) → List Char → Option (List String × List Char)
  | 0, _ => none
  | fuel + 1, cs =>
    match keyPart (skipSpace cs) with
    | none => none
    | some (part, rest) =>
      match skipSpace rest with
      | '.' :: rest => (keyParts fuel rest).map fun r => (part :: r.1, r.2)
      | rest => some ([part], rest)

/-- A key. -/
structure Key where
  path : List String
  last : String

/-- Reads a key. -/
def key (cs : List Char) : Option (Key × List Char) := do
  let (parts, rest) ← keyParts cs.length cs
  let last ← parts.getLast?
  if parts.length ≤ maxParts then return (⟨parts.dropLast, last⟩, rest) else none

/-! ## Values -/

mutual

/-- Reads a value that may contain `depth` levels of arrays and tables. -/
def value : (fuel depth : Nat) → List Char → Option (Value × List Char)
  | 0, _, _ => none
  | fuel + 1, depth, cs =>
    match cs with
    | '"' :: _ => (string? cs).map fun r => (.text (String.ofList r.1), r.2)
    | '\'' :: _ => (string? cs).map fun r => (.text (String.ofList r.1), r.2)
    | '[' :: rest =>
      match depth with
      | 0 => none
      | depth + 1 => (items fuel depth rest).map fun r => (.array r.1, r.2)
    | '{' :: rest =>
      match depth with
      | 0 => none
      | depth + 1 =>
        match skipSpace rest with
        | '}' :: rest => some (.table .braces [], rest)
        | rest => (fields fuel depth [] rest).map fun r => (.table .braces r.1, r.2)
    | _ => (literal cs).map fun r => (.literal r.1, r.2)

/-- Reads items and the closing bracket. A comma may follow the last item. -/
def items : (fuel depth : Nat) → List Char → Option (List Value × List Char)
  | 0, _, _ => none
  | fuel + 1, depth, cs =>
    match skipGap false cs with
    | ']' :: rest => some ([], rest)
    | cs =>
      match value fuel depth cs with
      | none => none
      | some (v, rest) =>
        match skipGap false rest with
        | ',' :: rest => (items fuel depth rest).map fun r => (v :: r.1, r.2)
        | ']' :: rest => some ([v], rest)
        | _ => none

/-- Reads one or more fields and the closing brace. -/
def fields : (fuel depth : Nat) → Entries → List Char → Option (Entries × List Char)
  | 0, _, _, _ => none
  | fuel + 1, depth, entries, cs =>
    match key cs with
    | some (k, '=' :: rest) =>
      match value fuel depth (skipSpace rest) with
      | none => none
      | some (v, rest) =>
        match entries.put k.path k.last v .braces with
        | none => none
        | some entries =>
          match skipSpace rest with
          | ',' :: rest => fields fuel depth entries rest
          | '}' :: rest => some (entries, rest)
          | _ => none
    | _ => none

end

/-! ## Documents -/

/-- What has been read: the entries so far and the keys that lead to the table opened last. -/
structure Draft where
  entries : Entries := []
  opened : List String := []

namespace Draft

/-- Adds an entry to the table opened last. -/
def put (draft : Draft) (k : Key) (v : Value) : Option Draft :=
  (draft.entries.underHeader draft.opened (Entries.put k.path k.last v)).map fun entries =>
    { draft with entries }

/-- Opens a table by `how`, in the table that the path of a key leads to. -/
def openWith (how : String → Entries → Option Entries) (draft : Draft) (k : Key) : Option Draft :=
  (draft.entries.underHeader k.path fun _ => how k.last).map fun entries =>
    ⟨entries, k.path ++ [k.last]⟩

end Draft

/-- Reads the line of an entry. -/
def entryLine (draft : Draft) (cs : List Char) : Option (Draft × List Char) := do
  let (k, rest) ← key cs
  let rest ← expect '=' rest
  let (v, rest) ← value (2 * cs.length + 2) maxDepth (skipSpace rest)
  let rest ← lineEnd? rest
  return (← draft.put k v, rest)

/-- Reads the line of a header behind its opening brackets. -/
def headerLine (draft : Draft) (cs : List Char) : Option (Draft × List Char) := do
  let (k, rest) ← key cs
  let rest ← lineEnd? (← expect ']' rest)
  return (← draft.openWith Entries.openTable k, rest)

/-- Reads the line of a header of an array of tables behind its opening brackets. -/
def nextHeaderLine (draft : Draft) (cs : List Char) : Option (Draft × List Char) := do
  let (k, rest) ← key cs
  let rest ← lineEnd? (← expect ']' (← expect ']' rest))
  return (← draft.openWith Entries.openNext k, rest)

def lines : (fuel : Nat) → Draft → List Char → Option Entries
  | 0, _, _ => none
  | fuel + 1, draft, cs =>
    match skipSpace cs with
    | [] => some draft.entries
    | '[' :: '[' :: rest => (nextHeaderLine draft rest).bind fun r => lines fuel r.1 r.2
    | '[' :: rest => (headerLine draft rest).bind fun r => lines fuel r.1 r.2
    | '#' :: rest => (lineEnd? ('#' :: rest)).bind (lines fuel draft)
    | cs =>
      match lineBreak? cs with
      | some rest => lines fuel draft rest
      | none => (entryLine draft cs).bind fun r => lines fuel r.1 r.2

/-- The mark that a text in Unicode may start with. -/
def byteOrderMark : Char := Char.ofNat 0xFEFF

/-- Reads a document. -/
def parse? (text : List Char) : Option Entries :=
  let text := if text.head? = some byteOrderMark then text.tail else text
  lines (text.length + 1) {} text

end TabTools.Toml
