import TabTools.Json.Decode

/-!
# Forms of JSON values

A form says what a JSON value may look like. Reading a value with a form either names the first
thing that does not fit, or gives the value in a normal form: records are objects that have their
own fields only, fields that say nothing are left out, and URLs are normalised.

**Records.** A record may be given as an object, whose fields are read in key order before the
missing ones are noticed, or as an array of its fields. The fields of other records may stand among
those of a record (`parts`); such a record must be an object.

**Held values.** To find out which form of a choice a value has, and to tell the fields of a record
from those of its parts, the value is held back and read again. A value that is held reads as ever,
except that an array with too many items is reported in other words.
-/

namespace TabTools

inductive Form where
  | any
  | bool
  | text
  | url
  /-- An integer from `least` up to, not including, `bound`. -/
  | int (name : String) (least bound : Int)
  | number (name : String)
  /-- `null` says that there is nothing, and so does the lack of a field. -/
  | option (form : Form)
  /-- A field that may be lacking, also at the end of an array. -/
  | lenient (form : Form)
  | list (form : Form)
  /-- An array of exactly two values. -/
  | pair (form : Form)
  /-- An object with any keys. -/
  | dict (form : Form)
  /-- An object whose keys are URLs. -/
  | urlDict (form : Form)
  /-- One of some words. -/
  | word (words : List String)
  /-- The first of several forms that fits. -/
  | choice (name : String) (forms : List Form)
  /-- An object with a word that says which form the rest of it has. The word's number among the
  words may stand for it, and an array may start with it. -/
  | tagged (key : String) (forms : List (String × Form))
  /-- A form, or just whether there is such a thing. -/
  | orBool (form : Form)
  | record (name : String) (fields : List (String × Form)) (parts : List Form)

namespace Form

def int32 : Form := .int "i32" (-0x80000000) 0x80000000

def nat32 : Form := .int "u32" 0 0x100000000

/-- Whether a field of a form may be lacking. -/
def mayLack (inArray : Bool) : Form → Bool
  | .option _ => !inArray
  | .lenient _ => true
  | _ => false

/-- Whether `null` in a field of a form says nothing. -/
def mayBeNull : Form → Bool
  | .option _ => true
  | .lenient form => form.mayBeNull
  | _ => false

/-- The fields that say something. -/
def telling (form : Form) (key : String) (v : Json) : List (String × Json) :=
  match form.mayBeNull, v with
  | true, .null => []
  | _, _ => [(key, v)]

/-- How the fields of a record are counted. -/
def countText (name : String) (count : Nat) : String :=
  "struct " ++ name ++ " with " ++ toString count ++ if count = 1 then " element" else " elements"

/-- What is said about an array with too many items. -/
def fewerText (held : Bool) (count : Nat) : String :=
  if !held then "fewer elements in array"
  else if count = 1 then "1 element in sequence"
  else toString count ++ " elements in sequence"

/-- How the value of a field is read. -/
structure Reader where
  key : String
  form : Form
  read : Json → Except Mismatch Json

/-- Reads the fields of an object in the order in which it holds them. Other fields are passed
over. -/
def readFields (readers : List Reader) :
    List (String × Json) → Except Mismatch (List (String × Json))
  | [] => .ok []
  | (key, v) :: rest => do
    match readers.find? fun r => r.key == key with
    | none => readFields readers rest
    | some reader =>
      let v ← reader.read v
      return reader.form.telling key v ++ (← readFields readers rest)

/-- The first field that is lacking and must not be. -/
def lacking (readers : List Reader) (fields : List (String × Json)) : Option String :=
  (readers.find? fun r =>
    !r.form.mayLack false && (fields.lookup r.key).isNone).map Reader.key

/-- Reads the items of an array as the fields of a record, of which there are `count`. The array has
`total` items; one that stops early is reported with the number of the first field that it lacks. -/
def readItems (name : String) (count total : Nat) (held : Bool) :
    List Reader → List Json → Except Mismatch (List (String × Json))
  | [], [] => .ok []
  | [], _ :: _ => .error (.length total (fewerText held count))
  | reader :: readers, [] =>
    if reader.form.mayLack true then readItems name count total held readers []
    else .error (.length (count - (readers.length + 1)) (countText name count))
  | reader :: readers, v :: rest => do
    let v ← reader.read v
    return reader.form.telling reader.key v ++ (← readItems name count total held readers rest)

/-- The fields of an object. -/
def fieldsOf : Json → List (String × Json)
  | .obj fields => fields
  | _ => []

/-- Reads a record with parts. -/
def readWhole (readers : List Reader) (parts : List (Json → Except Mismatch Json))
    (fields : List (String × Json)) : Except Mismatch (List (String × Json)) := do
  let own ← readFields readers fields
  match lacking readers fields with
  | some key => .error (.missing key)
  | none =>
    let others := fields.filter fun f => !readers.any fun r => r.key == f.1
    let inner ← parts.mapM fun read => read (.obj others)
    return own ++ inner.flatMap fieldsOf

/-- The first result of several readers. -/
def firstFit (name : String) (v : Json) :
    List (Json → Except Mismatch Json) → Except Mismatch Json
  | [] => .error (.choice name)
  | read :: rest =>
    match read v with
    | .ok v => .ok v
    | .error _ => firstFit name v rest

def readUrl (v : Json) : Except Mismatch Json := do
  let text ← v.toText "a string representing an URL"
  match Url.parse text with
  | .ok address => return .str address.text
  | .error cause => .error (.url cause text)

def readWord (words : List String) (v : Json) : Except Mismatch Json :=
  match v with
  | .str s => if words.contains s then .ok v else .error (.word s words)
  | .obj [(s, content)] =>
    if !words.contains s then .error (.word s words)
    else
      match content with
      | .null => .ok (.str s)
      | _ => content.refuse "unit"
  | .obj _ => .error .manyKeys
  | _ => v.refuse "string or map"

def readInt (name : String) (least bound : Int) (v : Json) : Except Mismatch Json :=
  match v with
  | .num (.int n) => if least ≤ n ∧ n < bound then .ok v else .error (.range n name)
  | _ => v.refuse name

/-- Reads the values of an object. -/
def readDict (want : String) (readKey : String → Except Mismatch String)
    (read : Json → Except Mismatch Json) (v : Json) : Except Mismatch Json :=
  match v with
  | .obj fields => do
    return .object (← fields.mapM fun f => do return (← readKey f.1, ← read f.2))
  | _ => v.refuse want

def readUrlKey (key : String) : Except Mismatch String := do
  return (← readUrl (.str key)).str?.getD key

/-- The reader that a tag names. -/
def taggedReader (readers : List Reader) (tag : Json) : Except Mismatch Reader :=
  let words := readers.map Reader.key
  match tag with
  | .str s => (readers.find? fun r => r.key == s).elim (.error (.word s words)) .ok
  | .num (.int n) =>
    (if 0 ≤ n then readers[n.toNat]? else none).elim (.error (.range n "variant identifier")) .ok
  | _ => tag.refuse "variant identifier"

def readTagged (key : String) (readers : List Reader) (v : Json) : Except Mismatch Json :=
  match v with
  | .obj fields =>
    match fields.lookup key with
    | none => .error (.missing key)
    | some tag => do
      (← taggedReader readers tag).read (.obj (fields.filter fun f => f.1 != key))
  | .arr (tag :: rest) => do (← taggedReader readers tag).read (.arr rest)
  | .arr [] => .error (.missing key)
  | _ => v.refuse "internally tagged enum"

mutual

/-- Reads a value of a form. -/
def read (held : Bool) : Form → Json → Except Mismatch Json
  | .any, v => .ok v
  | .bool, v => return .bool (← v.toBool)
  | .text, v => return .str (← v.toPlain)
  | .url, v => readUrl v
  | .int name least bound, v => readInt name least bound v
  | .number name, v =>
    match v with
    | .num _ => .ok v
    | _ => v.refuse name
  | .option form, v =>
    match v with
    | .null => .ok .null
    | _ => form.read held v
  | .lenient form, v => form.read held v
  | .list form, v =>
    match v with
    | .arr items => return .arr (← items.mapM (form.read held))
    | _ => v.refuse "a sequence"
  | .pair form, v =>
    match v with
    | .arr [a, b] => return .arr [← form.read held a, ← form.read held b]
    | .arr items => .error (.length items.length "an array of length 2")
    | _ => v.refuse "an array of length 2"
  | .dict form, v => readDict "a map" .ok (form.read held) v
  | .urlDict form, v => readDict "map" readUrlKey (form.read held) v
  | .word words, v => readWord words v
  | .choice name forms, v => firstFit name v (readers forms)
  | .tagged key forms, v => readTagged key (fieldReaders true forms) v
  | .orBool form, v =>
    match v with
    | .bool _ => .ok .null
    | _ => form.read false v
  | .record name fields parts, v =>
    match v, parts.isEmpty with
    | .obj given, _ =>
      return .object (← readWhole (fieldReaders held fields) (readers parts) given)
    | .arr items, true =>
      return .object (← readItems name fields.length items.length held
        (fieldReaders held fields) items)
    | _, _ => v.refuse ("struct " ++ name)

/-- The readers of the fields of a record. -/
def fieldReaders (held : Bool) : List (String × Form) → List Reader
  | [] => []
  | (key, form) :: rest => ⟨key, form, form.read held⟩ :: fieldReaders held rest

/-- The readers of values that are held. -/
def readers : List Form → List (Json → Except Mismatch Json)
  | [] => []
  | form :: rest => form.read true :: readers rest

end

/-- Reads a value and takes from its normal form what is of use. -/
def decode {α : Type} (form : Form) (take : Json → Option α) (v : Json) : Except Mismatch α := do
  match take (← form.read false v) with
  | some a => .ok a
  | none => v.refuse "a value of use"

end Form

end TabTools
