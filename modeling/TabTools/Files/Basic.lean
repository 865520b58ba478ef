import TabTools.Files.Path

/-!
# Access to files

What the program asks of a file system: the bytes of a file, and the canonical path of a file that
exists. Both go through `View`, so that the same definitions run over a disk and over a tree in
memory. The program asks by texts; what it is told need not be one, since links lead anywhere.
-/

namespace TabTools.Files

/-- Why a file cannot be opened or read. -/
inductive FileError where
  | notFound
  | notDirectory
  | isDirectory
  | nameTooLong
  | linkLoop
  | nulByte
  | notUtf8
  /-- Any other cause, in the words of the system. -/
  | other (text : String)
deriving DecidableEq, Repr

def FileError.message : FileError → String
  | .notFound => "No such file or directory (os error 2)"
  | .notDirectory => "Not a directory (os error 20)"
  | .isDirectory => "Is a directory (os error 21)"
  | .nameTooLong => "File name too long (os error 36)"
  | .linkLoop => "Too many levels of symbolic links (os error 40)"
  | .nulByte => "file name contained an unexpected NUL byte"
  | .notUtf8 => "stream did not contain valid UTF-8"
  | .other text => text

/-- A file system as the program sees it. -/
structure View where
  read : String → Except FileError (List UInt8)
  canonical : String → Option Path

namespace View

/-- The text of a file. -/
def readText (view : View) (path : String) : Except FileError (List Char) :=
  match view.read path with
  | .error e => .error e
  | .ok bytes =>
    match Text.decode? bytes with
    | none => .error .notUtf8
    | some text => .ok text

/-- The path under which a file is known: the canonical one if the file exists, else the path as
it was given. -/
def sourcePath (view : View) (path : String) : Path := (view.canonical path).getD path

end View

end TabTools.Files
