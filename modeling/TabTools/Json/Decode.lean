import TabTools.Json.Printer
import TabTools.Text.Quoted
import TabTools.Url.Parser

/-!
# Decoding JSON values

A decoder turns a JSON value into a value of a domain type, or names the first thing that does not
fit (`Mismatch`).

A record (`Shape`) may be given in two ways. As an object, its fields are decoded in key order and
unknown keys are ignored. As an array, the fields come in the order of the shape and may stop early;
an array longer than the shape is refused. Either way the fields that are given replace those of a
starting record.
-/

namespace TabTools

open Url (UrlError)

/-- Why a JSON value cannot be decoded. -/
inductive Mismatch where
  /-- A value of another kind than wanted. -/
  | kind (got want : String)
  /-- An integer outside the wanted range. -/
  | range (got : Int) (want : String)
  /-- A required field that an object does not have. -/
  | missing (field : String)
  /-- An array of a length that does not fit. -/
  | length (got : Nat) (want : String)
  /-- A word that is none of those wanted. -/
  | word (got : String) (want : List String)
  /-- An object in place of a word that does not have exactly one key. -/
  | manyKeys
  /-- A value that fits none of the forms of a choice. -/
  | choice (name : String)
  /-- A text that is no URL. -/
  | url (cause : UrlError) (text : String)
deriving DecidableEq, Repr

/-- The words of a message about a word that is none of them. -/
def alternatives (words : List String) : String :=
  match words.map fun word => "`" ++ word ++ "`" with
  | [a, b] => a ++ " or " ++ b
  | [a] => a
  | words => "one of " ++ String.intercalate ", " words

def Mismatch.message : Mismatch → String
  | .kind got want => s!"invalid type: {got}, expected {want}"
  | .range got want => s!"invalid value: integer `{got}`, expected {want}"
  | .missing field => s!"missing field `{field}`"
  | .length got want => s!"invalid length {got}, expected {want}"
  | .word got want => "unknown variant `" ++ got ++ "`, expected " ++ alternatives want
  | .manyKeys => "invalid value: map, expected map with a single key"
  | .choice name => "data did not match any variant of untagged enum " ++ name
  | .url cause text => cause.message ++ ": " ++ Text.quoted text

namespace Json

/-- How a value is named in a message about its kind. -/
def describe : Json → String
  | .null => "null"
  | .bool b => "boolean `" ++ (if b then "true" else "false") ++ "`"
  | .num (.int n) => "integer `" ++ String.ofList (renderInt n) ++ "`"
  | .num (.double x) => "floating point `" ++ String.ofList (doubleNotation.write x) ++ "`"
  | .str s => "string " ++ Text.quoted s
  | .arr _ => "sequence"
  | .obj _ => "map"

def refuse {α : Type} (v : Json) (want : String) : Except Mismatch α :=
  .error (.kind v.describe want)

def toBool (v : Json) : Except Mismatch Bool :=
  match v with
  | .bool b => .ok b
  | _ => v.refuse "a boolean"

def toText (v : Json) (want : String) : Except Mismatch String :=
  match v with
  | .str s => .ok s
  | _ => v.refuse want

def toPlain (v : Json) : Except Mismatch String := v.toText "a string"

/-- The path of a file. -/
def toPath (v : Json) : Except Mismatch String := v.toText "path string"

/-- A signed 64-bit integer. -/
def toInt64 (v : Json) : Except Mismatch Int :=
  match v with
  | .num (.int n) => if n < 0x8000000000000000 then .ok n else .error (.range n "i64")
  | _ => v.refuse "i64"

/-- A size or an index: an unsigned 64-bit integer. -/
def toSize (v : Json) : Except Mismatch Nat :=
  match v with
  | .num (.int n) => if 0 ≤ n then .ok n.toNat else .error (.range n "usize")
  | _ => v.refuse "usize"

/-- A value that may be absent, which `null` says. -/
def toOption {α : Type} (decode : Json → Except Mismatch α) : Json → Except Mismatch (Option α)
  | .null => .ok none
  | v => (decode v).map some

/-- A list, decoded from left to right. -/
def toList {α : Type} (decode : Json → Except Mismatch α) (v : Json) : Except Mismatch (List α) :=
  match v with
  | .arr items => items.mapM decode
  | _ => v.refuse "a sequence"

end Json

/-- A record type: its name and, in order, its fields with what a value given for one changes. -/
structure Shape (σ : Type) where
  name : String
  fields : List (String × (Json → σ → Except Mismatch σ))

namespace Shape

variable {σ : Type}

/-- Decodes the fields of an object, in the order in which the object holds them. -/
def readFields (shape : Shape σ) : List (String × Json) → σ → Except Mismatch σ
  | [], record => .ok record
  | (key, v) :: rest, record =>
    match shape.fields.lookup key with
    | none => shape.readFields rest record
    | some change => (change v record).bind (shape.readFields rest)

/-- Decodes the items of an array as fields. `total` is the length of the whole array. -/
def readItems (total : Nat) :
    List (String × (Json → σ → Except Mismatch σ)) → List Json → σ → Except Mismatch σ
  | _, [], record => .ok record
  | [], _ :: _, _ => .error (.length total "fewer elements in array")
  | (_, change) :: fields, v :: rest, record =>
    (change v record).bind (readItems total fields rest)

/-- Decodes a record, starting from `record` for the fields that are not given. -/
def read (shape : Shape σ) (record : σ) (v : Json) : Except Mismatch σ :=
  match v with
  | .obj fields => shape.readFields fields record
  | .arr items => readItems items.length shape.fields items record
  | _ => v.refuse ("struct " ++ shape.name)

end Shape

end TabTools
