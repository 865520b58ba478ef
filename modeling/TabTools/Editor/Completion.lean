import TabTools.Editor.Protocol.Document

/-!
# Completion

The server offers one completion, the instruction `LDA`. Its details are sent when the client asks
to resolve it, which the client does by sending the item back: the item is recognised by the number
it carries.
-/

namespace TabTools.Editor

/-- A completion item: its label, and the other fields it has. -/
structure CompletionItem where
  label : String
  fields : List (String × Json) := []

namespace CompletionItem

/-- The item that a value in normal form is. -/
def ofNormal? : Json → Option CompletionItem
  | .obj fields => do
    let label ← (fields.lookup "label").bind Json.str?
    return ⟨label, fields.filter fun f => f.1 != "label"⟩
  | _ => none

def ofJson : Json → Except Mismatch CompletionItem := Protocol.completionItem.decode ofNormal?

def toJson (item : CompletionItem) : Json := .object (("label", .str item.label) :: item.fields)

/-- The number that the item `LDA` carries. -/
def loadData : Int := 1

/-- The items on offer. -/
def offered : List CompletionItem := [⟨"LDA", [("kind", .nat 14), ("data", .int loadData)]⟩]

/-- Whether an item carries a given number. -/
def carries (item : CompletionItem) (n : Int) : Bool :=
  match item.fields.lookup "data" with
  | some (.num (.int m)) => m == n
  | _ => false

/-- Puts the details into the item `LDA`. Other items stay as they are. -/
def resolve (item : CompletionItem) : CompletionItem :=
  if item.carries loadData then
    { item with fields := Json.sortFields (item.fields ++
        [("detail", .str "Load accumulator"),
         ("documentation", .str "Loads a byte of memory into the accumulator.")]) }
  else item

end CompletionItem

end TabTools.Editor
