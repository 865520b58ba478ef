import TabTools.Lookup
import TabTools.Number.Shortest

/-!
# JSON values

A number is an integer, kept exactly, or a double. The fields of an object are kept in the order
of their keys, each key once: `Json.object` puts any list of fields into that form, and the last
field with a key wins.
-/

namespace TabTools

/-- A JSON number. Texts denote integers from `-2 ^ 63` to `2 ^ 64 - 1` exactly; every other number
is a double. -/
inductive JsonNumber where
  | int (value : Int)
  | double (value : Binary64)
deriving DecidableEq, Repr

inductive Json where
  | null
  | bool (value : Bool)
  | num (value : JsonNumber)
  | str (value : String)
  | arr (items : List Json)
  | obj (fields : List (String × Json))
deriving Repr

instance : Inhabited Json := ⟨.null⟩

namespace Json

/-- Fields in key order, the last of several with one key kept. -/
def sortFields (fields : List (String × Json)) : List (String × Json) :=
  fields.foldl (fun sorted f => insertKey f.1 f.2 sorted) []

/-- An object from fields in any order. -/
def object (fields : List (String × Json)) : Json := .obj (sortFields fields)

def int (n : Int) : Json := .num (.int n)

def nat (n : Nat) : Json := .num (.int n)

/-- The value under a key, of an object that has the key. -/
def get? (key : String) : Json → Option Json
  | .obj fields => fields.lookup key
  | _ => none

def str? : Json → Option String
  | .str s => some s
  | _ => none

def int? : Json → Option Int
  | .num (.int n) => some n
  | _ => none

/-- The items of an array. -/
def toItems : Json → List Json
  | .arr vs => vs
  | _ => []

def ofOption {α : Type} (f : α → Json) : Option α → Json
  | none => .null
  | some a => f a

/-! ## Shape -/

mutual

/-- How many arrays and objects stand inside each other at the deepest place. -/
def depth : Json → Nat
  | .arr items => depthItems items + 1
  | .obj fields => depthFields fields + 1
  | _ => 0

def depthItems : List Json → Nat
  | [] => 0
  | v :: rest => max (depth v) (depthItems rest)

def depthFields : List (String × Json) → Nat
  | [] => 0
  | (_, v) :: rest => max (depth v) (depthFields rest)

end

mutual

/-- Whether every number in the value is an integer. -/
def allInts : Json → Bool
  | .num (.double _) => false
  | .arr items => allIntsItems items
  | .obj fields => allIntsFields fields
  | _ => true

def allIntsItems : List Json → Bool
  | [] => true
  | v :: rest => allInts v && allIntsItems rest

def allIntsFields : List (String × Json) → Bool
  | [] => true
  | (_, v) :: rest => allInts v && allIntsFields rest

end

end Json

end TabTools
