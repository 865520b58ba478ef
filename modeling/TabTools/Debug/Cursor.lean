/-!
# The execution position

A program runs line by line. The cursor is the line it has reached, if it has reached any; before
that a forward scan starts at the first line. Scanning visits the lines beyond the cursor in one
direction, nearest first, and never the line of the cursor itself.
-/

namespace TabTools.Debug

inductive Direction where
  | forward
  | backward
deriving DecidableEq, Repr

structure Cursor where
  line : Option Nat := none
deriving DecidableEq, Repr

namespace Cursor

def onLine (line : Nat) : Cursor := ⟨some line⟩

/-- The lines that a scan of a file of `length` lines visits, in visiting order. -/
def candidates (cursor : Cursor) (direction : Direction) (length : Nat) : List Nat :=
  match direction with
  | .forward =>
    let start := match cursor.line with
      | none => 0
      | some line => line + 1
    List.range' start (length - start)
  | .backward => (List.range (min (cursor.line.getD 0) length)).reverse

end Cursor

end TabTools.Debug
