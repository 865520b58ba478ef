import TabTools.Text.Blank

/-!
# Lines of a text

A line ends at a line feed, and a carriage return directly before that line feed belongs to the
ending. What follows the last line feed is a line of its own unless it is empty; it has no ending,
so a carriage return at its end stays.
-/

namespace TabTools.Text

/-- Drops the carriage return at the end of a line that a line feed ended. -/
def dropReturn (line : List Char) : List Char :=
  if line.getLast? = some '\r' then line.dropLast else line

/-- Turns the pieces between line feeds into lines. -/
def endLines : List (List Char) → List (List Char)
  | [] => []
  | [last] => if last.isEmpty then [] else [last]
  | line :: next :: rest => dropReturn line :: endLines (next :: rest)

/-- The lines of a text, without their endings. -/
def lines (text : List Char) : List (List Char) :=
  endLines (pieces (· == '\n') text)

end TabTools.Text
