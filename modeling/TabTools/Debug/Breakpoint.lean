import TabTools.Source
import TabTools.Files.Path

/-!
# Breakpoints

**Placement.** A breakpoint asked for on an empty line or on a line starting with `+` moves one line
down; if the line it then stands on starts with `-`, it moves one line up. It is verified unless the
final line is outside the file or mentions `lazy`. A line outside the file stays where it is.

**Table.** Every source has its own list of breakpoints, which a new request replaces as a whole.
Identifiers count up from 1000 and are never used again. Reaching an unverified breakpoint verifies
it.
-/

namespace TabTools.Debug

structure Breakpoint where
  id : Nat
  verified : Bool
  /-- The client's number of the line. -/
  line : Int
deriving DecidableEq, Repr

/-- What a line must mention to keep its breakpoint unverified. -/
def lazyMarker : List Char := "lazy".toList

def startsWith (c : Char) (line : List Char) : Bool := line.head? == some c

/-- Whether a breakpoint on this trimmed line moves down. -/
def pushesDown (line : List Char) : Bool := line.isEmpty || startsWith '+' line

/-- Whether a breakpoint on this line moves up. -/
def pullsUp (source : Source) (line : Nat) : Bool :=
  match source.trimmed? line with
  | none => false
  | some text => startsWith '-' text

/-- Whether a breakpoint on this line counts as verified. -/
def accepts (source : Source) (line : Nat) : Bool :=
  match source.get? line with
  | none => false
  | some text => !Text.mentions lazyMarker text

/-- Where a breakpoint asked for on `line` stands, and whether it is verified. -/
def place (source : Source) (line : Nat) : Nat × Bool :=
  match source.trimmed? line with
  | none => (line, false)
  | some text =>
    let pushed := if pushesDown text then line + 1 else line
    let final := if pullsUp source pushed then pushed - 1 else pushed
    (final, accepts source final)

/-- What a breakpoint asked for at a client line becomes. -/
def placeClient (source : Source) (base : LineBase) (client : Int) : Int × Bool :=
  match base.toInternal client with
  | none => (client, false)
  | some line => (base.toClient (place source line).1, (place source line).2)

/-- Execution has reached a breakpoint. -/
structure Hit where
  id : Nat
  /-- The breakpoint, if this verified it. -/
  verifiedNow : Option Breakpoint
deriving DecidableEq, Repr

/-- The components of a path, by which sources are told apart. -/
abbrev SourceKey := List Files.Component

structure BreakpointTable where
  nextId : Nat := 1000
  bySource : List (SourceKey × List Breakpoint) := []
deriving DecidableEq, Repr

namespace BreakpointTable

/-- The breakpoints of a source, in the order of the request that set them. -/
def get (table : BreakpointTable) (key : SourceKey) : List Breakpoint :=
  (table.bySource.lookup key).getD []

/-- Gives a source a new list, in place of an old one. -/
def put (key : SourceKey) (list : List Breakpoint) :
    List (SourceKey × List Breakpoint) → List (SourceKey × List Breakpoint)
  | [] => [(key, list)]
  | (k, old) :: rest => if k = key then (k, list) :: rest else (k, old) :: put key list rest

/-- Numbered breakpoints for the asked client lines. -/
def create (source : Source) (base : LineBase) (firstId : Nat) : List Int → List Breakpoint
  | [] => []
  | client :: rest =>
    let placed := placeClient source base client
    ⟨firstId, placed.2, placed.1⟩ :: create source base (firstId + 1) rest

/-- Replaces the breakpoints of a source; the new list comes with the new table. -/
def set (table : BreakpointTable) (key : SourceKey) (source : Source) (clientLines : List Int)
    (base : LineBase) : List Breakpoint × BreakpointTable :=
  let list := create source base table.nextId clientLines
  (list, ⟨table.nextId + clientLines.length, put key list table.bySource⟩)

/-- Verifies the first breakpoint on a client line. -/
def verifyFirst (client : Int) : List Breakpoint → List Breakpoint
  | [] => []
  | bp :: rest =>
    if bp.line = client then { bp with verified := true } :: rest
    else bp :: verifyFirst client rest

/-- Execution reaches a client line of a source: the first breakpoint there, if any, is hit and
verified. -/
def hit (table : BreakpointTable) (key : SourceKey) (client : Int) :
    Option (Hit × BreakpointTable) :=
  match (table.get key).find? fun bp => bp.line == client with
  | none => none
  | some bp =>
    let now := { bp with verified := true }
    let list := verifyFirst client (table.get key)
    some (⟨bp.id, if bp.verified then none else some now⟩,
      { table with bySource := put key list table.bySource })

end BreakpointTable

end TabTools.Debug
