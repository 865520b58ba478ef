import TabTools.Text.Lines

/-!
# Source texts

A source is the lines of a file, numbered from zero.

Clients may count lines from one. A `LineBase` converts between their numbers and ours. Client
numbers are signed 64-bit integers: a number before the first line has no internal line, and an
internal line too large for a client is shown as the largest client number.
-/

namespace TabTools

structure Source where
  lines : List (List Char)
deriving DecidableEq, Repr

namespace Source

def empty : Source := ⟨[]⟩

def ofText (text : List Char) : Source := ⟨Text.lines text⟩

def length (source : Source) : Nat := source.lines.length

def get? (source : Source) (line : Nat) : Option (List Char) := source.lines[line]?

/-- A line without the blanks around it. -/
def trimmed? (source : Source) (line : Nat) : Option (List Char) :=
  (source.get? line).map Text.trim

end Source

/-- How a client counts lines. -/
structure LineBase where
  startAtOne : Bool := true
deriving DecidableEq, Repr

namespace LineBase

/-- The largest client line number. -/
def maxClient : Int := 0x7FFFFFFFFFFFFFFF

/-- The client's number of the first line. -/
def first (base : LineBase) : Int := if base.startAtOne then 1 else 0

/-- The line that a client number denotes, unless it is before the first line. -/
def toInternal (base : LineBase) (client : Int) : Option Nat :=
  if base.first ≤ client then some (client - base.first).toNat else none

/-- The client's number of a line. -/
def toClient (base : LineBase) (line : Nat) : Int :=
  min (line + base.first) maxClient

end LineBase

end TabTools
