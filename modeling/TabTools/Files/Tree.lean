import TabTools.Files.Basic

/-!
# A directory tree in memory

Files, directories and symbolic links, with a working directory. A path is resolved name by name:
every name but the last must lead to a directory, a link is replaced by the path it holds, and a
double dot leads to the directory above. At most 40 links are followed.

A slash at the end of a path asks for a directory. A path at which a file may be made must not ask
for one: it is refused before its last name is looked up.

Changes to the tree that cannot be made leave it as it is.
-/

namespace TabTools.Files

inductive Node where
  | file (bytes : List UInt8)
  | dir (entries : List (Name × Node))
  | link (target : Path)

structure Tree where
  root : Node
  /-- The names that lead from the root to the working directory. -/
  cwd : List Name

namespace Node

/-- The node at the end of a list of names, none of which is followed through a link. -/
def at? : Node → List Name → Option Node
  | node, [] => some node
  | .dir entries, name :: rest => (entries.lookup name).bind fun node => node.at? rest
  | _, _ :: _ => none

def putEntry (name : Name) (node : Node) : List (Name × Node) → List (Name × Node)
  | [] => [(name, node)]
  | (n, old) :: rest => if n = name then (n, node) :: rest else (n, old) :: putEntry name node rest

/-- Puts a node at the end of a list of names, making directories on the way. -/
def put : (tree : Node) → (names : List Name) → (node : Node) → Node
  | _, [], node => node
  | .dir entries, name :: rest, node =>
    .dir (putEntry name (put ((entries.lookup name).getD (.dir [])) rest node) entries)
  | _, name :: rest, node => .dir [(name, put (.dir []) rest node)]

/-- Takes away the node at the end of a list of names. -/
def remove : (tree : Node) → (names : List Name) → Node
  | .dir entries, [name] => .dir (entries.filter fun e => e.1 != name)
  | .dir entries, name :: next :: rest =>
    .dir (entries.map fun e => if e.1 = name then (e.1, remove e.2 (next :: rest)) else e)
  | node, _ => node

end Node

/-- The longest name of a file, in bytes. -/
def maxName : Nat := 255

/-- The longest path, in bytes. -/
def maxPath : Nat := 4095

def maxLinks : Nat := 40

/-- Whether a path asks for a directory. -/
def endsInSlash (path : Path) : Bool := path.bytes.getLast? == some slash

/-- Follows steps from the directory `place`. With `creating`, the last name may be missing, and the
result is where it would be. With `directory`, the steps ask for a directory. -/
def walk (root : Node) (creating : Bool) (links : Nat) (directory : Bool) (place : List Name) :
    List Component → Except FileError (List Name)
  | [] =>
    match directory, root.at? place with
    | true, some (.file _) => .error .notDirectory
    | _, _ => .ok place
  | step :: rest =>
    match root.at? place with
    | some (.dir entries) =>
      match step with
      | .root => walk root creating links directory [] rest
      | .here =>
        if creating && rest.isEmpty then .error .isDirectory
        else walk root creating links directory place rest
      | .up =>
        if creating && rest.isEmpty then .error .isDirectory
        else walk root creating links directory place.dropLast rest
      | .name name =>
        if creating && directory && rest.isEmpty then .error .isDirectory
        else if maxName < name.length then .error .nameTooLong
        else
          match entries.lookup name with
          | none =>
            if creating && rest.isEmpty then .ok (place ++ [name]) else .error .notFound
          | some (.link target) =>
            match links with
            | 0 => .error .linkLoop
            | links + 1 =>
              if target.bytes.isEmpty then .error .notFound
              else
                walk root creating links (directory || rest.isEmpty && endsInSlash target)
                  (if isAbsolute target then [] else place) (pathPieces target ++ rest)
          | some _ => walk root creating links directory (place ++ [name]) rest
    | _ => .error .notDirectory
termination_by steps => (links, steps.length)

namespace Tree

/-- An empty directory, which is the working directory. -/
def empty (cwd : List Name) : Tree := ⟨(Node.dir []).put cwd (.dir []), cwd⟩

/-- The directory that a path starts from. -/
def base (tree : Tree) (path : Path) : List Name := if isAbsolute path then [] else tree.cwd

/-- Where a path leads. -/
def resolve (tree : Tree) (creating : Bool) (path : Path) : Except FileError (List Name) :=
  if path.bytes.contains 0 then .error .nulByte
  else if path.bytes.isEmpty then .error .notFound
  else if maxPath < path.bytes.length then .error .nameTooLong
  else
    walk tree.root creating maxLinks (endsInSlash path) (tree.base path) (pathPieces path)

def absolutePath (place : List Name) : Path := ⟨slash :: List.intercalate [slash] place⟩

def read (tree : Tree) (path : Path) : Except FileError (List UInt8) := do
  let place ← tree.resolve false path
  match tree.root.at? place with
  | some (.file bytes) => return bytes
  | some _ => .error .isDirectory
  | none => .error .notFound

def view (tree : Tree) : View where
  read path := tree.read path
  canonical path := (tree.resolve false path).toOption.map absolutePath

/-! ## Changes -/

/-- The place of the last name of a path, which is not followed through a link. -/
def entry? (tree : Tree) (path : Path) : Option (List Name) :=
  match (pathPieces path).reverse with
  | .name name :: before =>
    match walk tree.root false maxLinks false (tree.base path) before.reverse with
    | .ok place => some (place ++ [name])
    | .error _ => none
  | _ => none

/-- Makes the last directory on a way from `start` if there is nothing yet. -/
def makeDirAt (start : List Name) (tree : Tree) (way : List Component) : Tree :=
  match walk tree.root false maxLinks false start way with
  | .error .notFound =>
    match walk tree.root true maxLinks false start way with
    | .ok place => { tree with root := tree.root.put place (.dir []) }
    | .error _ => tree
  | _ => tree

/-- Makes a directory and those that lead to it. -/
def makeDirs (tree : Tree) (start : List Name) (way : List Component) : Tree :=
  ((List.range way.length).map fun n => way.take (n + 1)).foldl (makeDirAt start) tree

def makeDir (tree : Tree) (path : Path) : Tree :=
  tree.makeDirs (tree.base path) (pathPieces path)

/-- Makes the directories that lead to the last name of a path. -/
def makeParents (tree : Tree) (path : Path) : Tree :=
  tree.makeDirs (tree.base path) (pathPieces path).dropLast

/-- Replaces what stands in a file, making the file and the directories that lead to it. -/
def write (tree : Tree) (path : Path) (bytes : List UInt8) : Tree :=
  let tree := tree.makeParents path
  match tree.resolve true path with
  | .error _ => tree
  | .ok place =>
    match tree.root.at? place with
    | some (.dir _) => tree
    | _ => { tree with root := tree.root.put place (.file bytes) }

/-- Makes a link where there is nothing yet. -/
def link (tree : Tree) (path target : Path) : Tree :=
  let tree := tree.makeParents path
  match tree.entry? path with
  | none => tree
  | some place =>
    match tree.root.at? place with
    | none => { tree with root := tree.root.put place (.link target) }
    | some _ => tree

/-- Takes away a file or a link. -/
def remove (tree : Tree) (path : Path) : Tree :=
  match endsInSlash path, tree.entry? path with
  | false, some place =>
    match tree.root.at? place with
    | some (.dir _) => tree
    | _ => { tree with root := tree.root.remove place }
  | _, _ => tree

/-- Opens a file for appending, making it if it is missing. -/
def openAppend (tree : Tree) (path : Path) : Except FileError Tree := do
  let place ← tree.resolve true path
  match tree.root.at? place with
  | some (.file _) => return tree
  | some _ => .error .isDirectory
  | none => return { tree with root := tree.root.put place (.file []) }

/-- Appends to a file that `openAppend` has opened. -/
def append (tree : Tree) (path : Path) (bytes : List UInt8) : Tree :=
  match tree.resolve true path with
  | .error _ => tree
  | .ok place =>
    match tree.root.at? place with
    | some (.file old) => { tree with root := tree.root.put place (.file (old ++ bytes)) }
    | _ => tree

/-- Appends to the log, if there is one. -/
def appendLog (tree : Tree) (log : Option String) (text : List Char) : Tree :=
  match log with
  | none => tree
  | some path => tree.append path (Text.encode text)

end Tree

end TabTools.Files
