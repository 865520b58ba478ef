import TabTools.Json.Parser
import TabTools.Json.Printer
import TabTools.Text.Utf8

/-!
# Messages on the runtime link

A player and the tab server exchange lines of JSON. A message has a kind and data; the data is the
player's own and is passed through.

**Writing.** A message is the object `kind`, then `data`, on a line of its own.

**Reading.** Keys may come in any order and unknown keys are skipped, at any depth and without
looking at their values beyond their form; a key that stands twice is refused. An array of a kind
and, if wanted, data is accepted as well.
-/

namespace TabTools.Link

structure Message where
  kind : String
  data : Json := .null
deriving Repr

/-- The text of a message. -/
def Message.render (m : Message) : List Char :=
  "\x7b\"kind\":".toList ++ Json.renderString m.kind ++ ",\"data\":".toList ++ m.data.render ++
    ['}']

/-- The bytes that are sent for a message. -/
def Message.wire (m : Message) : List UInt8 := Text.encode (m.render ++ ['\n'])

/-! ## Skipping values -/

/-- Skips the rest of a string. Escapes must have a known form, no more. -/
def skipString : List Char → Option (List Char)
  | [] => none
  | '"' :: rest => some rest
  | '\\' :: 'u' :: a :: b :: c :: d :: rest =>
    if (Json.hex4? a b c d).isSome then skipString rest else none
  | '\\' :: e :: rest => if (Json.simpleEscape? e).isSome then skipString rest else none
  | c :: rest => if c = '\\' ∨ c.toNat < 0x20 then none else skipString rest

/-- Skips a number behind its sign, whatever its size. -/
def skipUnsigned (cs : List Char) : Option (List Char) := do
  let (_, cs) ← Json.wholeDigits cs
  let (_, cs) ← Json.fraction? cs
  let (_, cs) ← Json.exponent? cs
  return cs

def skipNumber : List Char → Option (List Char)
  | '-' :: rest => skipUnsigned rest
  | cs => skipUnsigned cs

mutual

/-- Skips a value of any depth. -/
def skipValue : (fuel : Nat) → List Char → Option (List Char)
  | 0, _ => none
  | fuel + 1, cs =>
    match Json.skipSpace cs with
    | 'n' :: 'u' :: 'l' :: 'l' :: rest => some rest
    | 't' :: 'r' :: 'u' :: 'e' :: rest => some rest
    | 'f' :: 'a' :: 'l' :: 's' :: 'e' :: rest => some rest
    | '"' :: rest => skipString rest
    | '[' :: rest =>
      match Json.skipSpace rest with
      | ']' :: rest => some rest
      | rest => skipItems fuel rest
    | '{' :: rest =>
      match Json.skipSpace rest with
      | '}' :: rest => some rest
      | rest => skipFields fuel rest
    | rest => skipNumber rest

def skipItems : (fuel : Nat) → List Char → Option (List Char)
  | 0, _ => none
  | fuel + 1, cs =>
    match skipValue fuel cs with
    | none => none
    | some rest =>
      match Json.skipSpace rest with
      | ',' :: rest => skipItems fuel rest
      | ']' :: rest => some rest
      | _ => none

def skipFields : (fuel : Nat) → List Char → Option (List Char)
  | 0, _ => none
  | fuel + 1, cs =>
    match Json.skipSpace cs with
    | '"' :: rest =>
      match skipString rest with
      | none => none
      | some rest =>
        match Json.skipSpace rest with
        | ':' :: rest =>
          match skipValue fuel rest with
          | none => none
          | some rest =>
            match Json.skipSpace rest with
            | ',' :: rest => skipFields fuel rest
            | '}' :: rest => some rest
            | _ => none
        | _ => none
    | _ => none

end

/-! ## Reading messages -/

/-- The depth that remains for data inside a message. -/
def dataDepth : Nat := Json.maxDepth - 1

/-- A message in the making. -/
structure Draft where
  kind : Option String := none
  data : Option Json := none

def Draft.finish (d : Draft) : Option Message :=
  d.kind.map fun kind => ⟨kind, d.data.getD .null⟩

/-- Reads a string value. -/
def readString (cs : List Char) : Option (String × List Char) :=
  match Json.skipSpace cs with
  | '"' :: rest => (Json.stringBody rest).map fun r => (String.ofList r.1, r.2)
  | _ => none

/-- Reads the value of one key into a draft. -/
def readField (fuel : Nat) (draft : Draft) (key : List Char) (cs : List Char) :
    Option (Draft × List Char) :=
  if key = "kind".toList then
    if draft.kind.isSome then none
    else (readString cs).map fun r => ({ draft with kind := some r.1 }, r.2)
  else if key = "data".toList then
    if draft.data.isSome then none
    else (Json.value fuel dataDepth cs).map fun r => ({ draft with data := some r.1 }, r.2)
  else (skipValue fuel cs).map fun rest => (draft, rest)

/-- Reads one or more fields and the closing brace. -/
def readFields : (fuel : Nat) → Draft → List Char → Option (Draft × List Char)
  | 0, _, _ => none
  | fuel + 1, draft, cs =>
    match Json.skipSpace cs with
    | '"' :: rest =>
      match Json.stringBody rest with
      | none => none
      | some (key, rest) =>
        match Json.skipSpace rest with
        | ':' :: rest =>
          match readField fuel draft key rest with
          | none => none
          | some (draft, rest) =>
            match Json.skipSpace rest with
            | ',' :: rest => readFields fuel draft rest
            | '}' :: rest => some (draft, rest)
            | _ => none
        | _ => none
    | _ => none

/-- Reads the items of the array form and the closing bracket. -/
def readItems (fuel : Nat) (cs : List Char) : Option (Draft × List Char) :=
  match readString cs with
  | none => none
  | some (kind, rest) =>
    match Json.skipSpace rest with
    | ']' :: rest => some (⟨some kind, none⟩, rest)
    | ',' :: rest =>
      match Json.value fuel dataDepth rest with
      | none => none
      | some (data, rest) =>
        match Json.skipSpace rest with
        | ']' :: rest => some (⟨some kind, some data⟩, rest)
        | _ => none
    | _ => none

/-- Reads a whole line as one message. -/
def Message.parse? (text : List Char) : Option Message :=
  let fuel := 2 * text.length + 2
  let read := match Json.skipSpace text with
    | '{' :: rest =>
      match Json.skipSpace rest with
      | '}' :: rest => some (({} : Draft), rest)
      | rest => readFields fuel {} rest
    | '[' :: rest => readItems fuel rest
    | _ => none
  match read with
  | none => none
  | some (draft, rest) => if (Json.skipSpace rest).isEmpty then draft.finish else none

end TabTools.Link
