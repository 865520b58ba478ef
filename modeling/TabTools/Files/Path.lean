import TabTools.Text.Blank
import TabTools.Text.Utf8

/-!
# Paths

A path is what the system takes for one: bytes, which need not be the encoding of a text. A text
denotes the path of its bytes, but not every path has a text (`Path.text?`).

Two paths denote the same key when they have the same components. Repeated and trailing slashes do
not count, and neither does a dot between components; a leading dot and every double dot do.
-/

namespace TabTools.Files

/-- The name of a file, in bytes. -/
abbrev Name := List UInt8

/-- A path, in bytes. -/
structure Path where
  bytes : List UInt8
deriving DecidableEq, Repr

/-- The text that a name encodes, if it does. -/
def Name.text? (name : Name) : Option String := (Text.decode? name).map String.ofList

namespace Path

/-- The path that a text denotes. -/
def ofText (text : String) : Path := ⟨Text.encode text.toList⟩

instance : Coe String Path := ⟨ofText⟩

/-- The text of a path, if it has one. -/
def text? (path : Path) : Option String := (Text.decode? path.bytes).map String.ofList

end Path

inductive Component where
  | root
  | here
  | up
  | name (name : Name)
deriving DecidableEq, Repr

/-- The byte of a slash. -/
def slash : UInt8 := 47

/-- The byte of a dot. -/
def dot : UInt8 := 46

/-- The component a piece between slashes stands for, if it is not empty. -/
def Component.ofPiece? (piece : List UInt8) : Option Component :=
  if piece.isEmpty then none
  else if piece = [dot] then some .here
  else if piece = [dot, dot] then some .up
  else some (.name piece)

/-- Every piece of a path, dots included. -/
def pathPieces (path : Path) : List Component :=
  (Text.pieces (· == slash) path.bytes).filterMap Component.ofPiece?

def isAbsolute (path : Path) : Bool := path.bytes.head? == some slash

/-- The components of a path: a dot counts only at the start of a relative path. -/
def components (path : Path) : List Component :=
  let pieces := pathPieces path
  if isAbsolute path then .root :: pieces.filter (· != .here)
  else
    match pieces with
    | .here :: rest => .here :: rest.filter (· != .here)
    | pieces => pieces.filter (· != .here)

/-- The last component, when it is a name. -/
def fileName? (path : Path) : Option Name :=
  match (components path).getLast? with
  | some (.name name) => some name
  | _ => none

end TabTools.Files
