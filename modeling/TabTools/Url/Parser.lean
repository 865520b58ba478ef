import TabTools.Url.Host

/-!
# URLs

A URL is a scheme, an authority if it has one, a path, and perhaps a query and a fragment. Reading
brings it into a normal form: the scheme and the host in lowercase, no port that is the scheme's
own, no dots among the names of the path, and all reserved characters encoded. What is read and
written is `Url`.

**Special schemes.** Some schemes are *special*: their URLs always have a host and a path, and a
backslash counts as a slash. In a URL of the scheme `file` the host may be missing, empty names at
the start of the path do not count, and a drive letter in first place stays where it is and takes
the place of the host.
-/

namespace TabTools

structure Url.Authority where
  /-- User and password, encoded, as they stand before the sign that ends them. -/
  user : List Char := []
  host : List Char := []
  port : Option Nat := none
deriving DecidableEq, Repr

inductive Url.Path where
  /-- A text without structure. -/
  | plain (text : List Char)
  /-- Names that each follow a slash. -/
  | names (names : List (List Char))
deriving DecidableEq, Repr

structure Url where
  scheme : List Char
  authority : Option Url.Authority := none
  path : Url.Path
  query : Option (List Char) := none
  fragment : Option (List Char) := none
deriving DecidableEq, Repr

namespace Url

/-! ## Writing -/

def Authority.text (a : Authority) : List Char :=
  ['/', '/'] ++ (if a.user.isEmpty then [] else a.user ++ ['@']) ++ a.host ++
    match a.port with
    | none => []
    | some n => ':' :: Nat.toDigits 10 n

def Path.text : Path → List Char
  | .plain text => text
  | .names list => list.flatMap ('/' :: ·)

/-- A part that follows its mark, if there is one. -/
def marked (mark : Char) : Option (List Char) → List Char
  | none => []
  | some text => mark :: text

/-- A path that would be taken for an authority is set off from the scheme by a dot. -/
def separator (url : Url) : List Char :=
  match url.authority, url.path with
  | some a, _ => a.text
  | none, .names ([] :: _ :: _) => ['/', '.']
  | none, _ => []

def text (url : Url) : String :=
  String.ofList (url.scheme ++ [':'] ++ url.separator ++ url.path.text ++ marked '?' url.query ++
    marked '#' url.fragment)

/-! ## Schemes -/

inductive SchemeKind where
  | file
  | special
  | plain
deriving DecidableEq, Repr

/-- The special schemes other than `file`, with their ports. -/
def schemePorts : List (List Char × Nat) :=
  [("http".toList, 80), ("https".toList, 443), ("ws".toList, 80), ("wss".toList, 443),
   ("ftp".toList, 21)]

def kindOf (scheme : List Char) : SchemeKind :=
  if scheme = "file".toList then .file
  else if (schemePorts.lookup scheme).isSome then .special
  else .plain

def SchemeKind.isSpecial : SchemeKind → Bool
  | .plain => false
  | _ => true

/-- Whether a character separates the names of a path. -/
def SchemeKind.isSlash (kind : SchemeKind) (c : Char) : Bool :=
  c == '/' || kind.isSpecial && c == '\\'

def isSchemeChar (c : Char) : Bool := c.isAlphanum || ['+', '-', '.'].contains c

/-- The scheme of a text, in lowercase, and what follows the colon behind it. -/
def scheme? (cs : List Char) : Option (List Char × List Char) :=
  match cs, cs.dropWhile isSchemeChar with
  | c :: _, ':' :: rest =>
    if c.isAlpha then some ((cs.takeWhile isSchemeChar).map Char.toLower, rest) else none
  | _, _ => none

/-! ## Paths -/

/-- Whether a name is a drive letter. -/
def isDrive : List Char → Bool
  | [letter, mark] => letter.isAlpha && (mark == ':' || mark == '|')
  | _ => false

/-- A name with the dots in it that are encoded. -/
def decodeDots : List Char → List Char
  | '%' :: '2' :: 'e' :: rest => '.' :: decodeDots rest
  | '%' :: '2' :: 'E' :: rest => '.' :: decodeDots rest
  | c :: rest => c :: decodeDots rest
  | [] => []

/-- The names left when the last one is taken back. A drive letter is not. -/
def parent (names : List (List Char)) : List (List Char) :=
  match names.getLast? with
  | some name => if isDrive name then names else names.dropLast
  | none => []

/-- A path while it is read: its names, and whether a drive letter has taken the place of the
host. -/
structure Trail where
  names : List (List Char) := []
  drive : Bool := false

/-- Adds a name that is followed by another one, or with `last` the last one. -/
def Trail.add (kind : SchemeKind) (last : Bool) (trail : Trail) (name : List Char) : Trail :=
  let ending := if last then [[]] else []
  match decodeDots name with
  | ['.'] => { trail with names := trail.names ++ ending }
  | ['.', '.'] => { trail with names := parent trail.names ++ ending }
  | _ =>
    match kind, trail.names, isDrive name with
    | .file, [], true => { names := [name.take 1 ++ [':']], drive := true }
    | _, names, _ => { trail with names := names ++ [name] }

/-- Adds all names of a path. -/
def Trail.addAll (kind : SchemeKind) : Trail → List (List Char) → Trail
  | trail, [] => trail
  | trail, [name] => trail.add kind true name
  | trail, name :: rest => Trail.addAll kind (trail.add kind false name) rest

/-- Empty names at the start of the path of a file do not count. -/
def SchemeKind.settle (kind : SchemeKind) (names : List (List Char)) : List (List Char) :=
  match kind, names.dropWhile List.isEmpty with
  | .file, [] => [[]]
  | .file, names => names
  | _, _ => names

/-- Reads the names of a path, without the slash before the first one. -/
def readTrail (kind : SchemeKind) (cs : List Char) : Trail :=
  let names := (Text.pieces kind.isSlash cs).map (percentEncode .path)
  let trail := Trail.addAll kind {} names
  { trail with names := kind.settle trail.names }

/-- Leaves out a slash at the start. -/
def SchemeKind.afterSlash (kind : SchemeKind) : List Char → List Char
  | c :: rest => if kind.isSlash c then rest else c :: rest
  | [] => []

/-- The path behind an authority. Only a URL that is not special may have none. -/
def pathBehind (kind : SchemeKind) (cs : List Char) : Trail :=
  if cs.isEmpty && !kind.isSpecial then {} else readTrail kind (kind.afterSlash cs)

/-! ## Authorities -/

/-- The parts before and after the last sign that ends user and password. -/
def splitUser (cs : List Char) : Option (List Char × List Char) :=
  match cs.reverse.dropWhile (· != '@') with
  | _ :: front => some (front.reverse, (cs.reverse.takeWhile (· != '@')).reverse)
  | [] => none

/-- User and password in encoded form. A password that is empty is left out. -/
def userText (cs : List Char) : List Char :=
  let name := percentEncode .userinfo (cs.takeWhile (· != ':'))
  match cs.dropWhile (· != ':') with
  | _ :: c :: rest => name ++ ':' :: percentEncode .userinfo (c :: rest)
  | _ => name

/-- The parts before and after the colon that ends a host. Brackets protect a colon. -/
def splitHost (inside : Bool) : List Char → List Char × Option (List Char)
  | [] => ([], none)
  | c :: rest =>
    if c = ':' ∧ !inside then ([], some rest)
    else
      let inside := if c = '[' then true else if c = ']' then false else inside
      let (host, port) := splitHost inside rest
      (c :: host, port)

/-- Reads a port. The scheme's own is left out. -/
def readPort (scheme : List Char) (cs : List Char) : Except UrlError (Option Nat) :=
  if cs.all Char.isDigit then
    let n := Text.natOfDigits cs
    if 65535 < n then .error .badPort
    else if cs.isEmpty ∨ schemePorts.lookup scheme = some n then .ok none
    else .ok (some n)
  else .error .badPort

/-- The part of a text before the first character of some kind, and the rest from there on. -/
def cut (stop : Char → Bool) (cs : List Char) : List Char × List Char :=
  (cs.takeWhile fun c => !stop c, cs.dropWhile fun c => !stop c)

/-! ## Reading -/

/-- A URL of the scheme `file`, behind the colon. -/
def readFile (cs : List Char) : Except UrlError (Authority × List (List Char)) :=
  let isSlash := SchemeKind.isSlash .file
  match cs with
  | a :: b :: rest =>
    if isSlash a && isSlash b then
      let (host, path) := cut isSlash rest
      if isDrive host then .ok ({}, (readTrail .file rest).names)
      else if host.isEmpty then .ok ({}, (readTrail .file path).names)
      else
        match Host.read host with
        | .error e => .error e
        | .ok host =>
          if host = .name "localhost".toList then .ok ({}, (readTrail .file path).names)
          else
            let trail := pathBehind .file path
            .ok ({ host := if trail.drive then [] else host.text }, trail.names)
    else .ok ({}, (readTrail .file (SchemeKind.file.afterSlash cs)).names)
  | _ => .ok ({}, (readTrail .file (SchemeKind.file.afterSlash cs)).names)

/-- A URL of another scheme with an authority, behind the slashes. With `followed`, a query or a
fragment comes behind it. A backslash ends a port of any URL, not only of a special one. -/
def readPlace (kind : SchemeKind) (scheme cs : List Char) (followed : Bool) :
    Except UrlError (Authority × List (List Char)) := do
  let (place, path) := cut kind.isSlash cs
  let (user, place) ← match splitUser place with
    | some ([], []) => if followed || !path.isEmpty then .error .emptyHost else .ok ([], [])
    | some parts => .ok parts
    | none => .ok ([], place)
  let user := userText user
  let (host, port) := splitHost false place
  if host.isEmpty && (kind.isSpecial || port.isSome || !user.isEmpty) then .error .emptyHost
  let host ← if kind.isSpecial then Host.read host else Host.readOpaque host
  let (digits, more) := cut (· == '\\') (port.getD [])
  let port ← readPort scheme digits
  return ({ user, host := host.text, port }, (pathBehind kind (more ++ path)).names)

/-- The scheme, the authority and the path of a URL. With `followed`, a query or a fragment comes
behind them. -/
def readBody (scheme cs : List Char) (followed : Bool) :
    Except UrlError (Option Authority × Path) :=
  match kindOf scheme with
  | .file => do
    let (authority, names) ← readFile cs
    return (some authority, .names names)
  | .special => do
    let place := cs.dropWhile (SchemeKind.isSlash .special)
    let (authority, names) ← readPlace .special scheme place followed
    return (some authority, .names names)
  | .plain =>
    match cs with
    | '/' :: '/' :: place => do
      let (authority, names) ← readPlace .plain scheme place followed
      return (some authority, .names names)
    | '/' :: path => .ok (none, .names (readTrail .plain path).names)
    | _ => .ok (none, .plain (percentEncode .controls cs))

/-- The text to read: no control characters or spaces around it, and no tabs and line breaks. -/
def tidy (text : List Char) : List Char :=
  let edge := fun (c : Char) => decide (c.toNat ≤ 0x20)
  (((text.dropWhile edge).reverse.dropWhile edge).reverse).filter fun c =>
    c != '\t' && c != '\n' && c != '\r'

/-- The text behind a mark. -/
def behind : List Char → Option (List Char)
  | [] => none
  | _ :: rest => some rest

/-- Reads a URL. -/
def parse (text : String) : Except UrlError Url :=
  match scheme? (tidy text.toList) with
  | none => .error .noScheme
  | some (scheme, rest) => do
    let (rest, fragment) := cut (· == '#') rest
    let (body, query) := cut (· == '?') rest
    let (authority, path) ← readBody scheme body (!query.isEmpty || !fragment.isEmpty)
    return {
      scheme, authority, path
      query := (behind query).map (percentEncode (.query (kindOf scheme).isSpecial))
      fragment := (behind fragment).map (percentEncode .fragment) }

end Url

end TabTools
