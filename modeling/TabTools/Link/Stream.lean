import TabTools.Link.Message
import TabTools.Text.Lines

/-!
# The stream of a player

What a player sends is cut into lines, each ended by a line feed and perhaps a carriage return
before it; what follows the last line feed is a line too unless it is empty. A line of blanks and a
line that is no message are passed over. A line that is not UTF-8 ends the stream.

`Reader` takes the stream as it arrives; `messages` reads a whole stream at once.
-/

namespace TabTools.Link

/-- The message on a line, if the line holds one. -/
def lineMessage? (line : List Char) : Option Message :=
  if (Text.trim line).isEmpty then none else Message.parse? line

/-- The messages of lines, up to the first line that cannot be decoded; the flag says whether there
was one. -/
def linesMessages : List (List UInt8) → List Message × Bool
  | [] => ([], false)
  | bytes :: rest =>
    match Text.decode? bytes with
    | none => ([], true)
    | some line =>
      let (later, broken) := linesMessages rest
      ((lineMessage? line).toList ++ later, broken)

/-- Bytes of a line that a line feed ended, without the carriage return before it. -/
def dropReturnByte (line : List UInt8) : List UInt8 :=
  if line.getLast? = some 13 then line.dropLast else line

/-- A reader in the middle of a stream: the bytes of the unfinished line. -/
structure Reader where
  pending : List UInt8 := []
  /-- The stream has ended, at its end or at a line that is not UTF-8. -/
  ended : Bool := false

namespace Reader

/-- More bytes have arrived. -/
def feed (r : Reader) (bytes : List UInt8) : List Message × Reader :=
  if r.ended then ([], r)
  else
    let lines := Text.pieces (· == 10) (r.pending ++ bytes)
    let (found, broken) := linesMessages (lines.dropLast.map dropReturnByte)
    (found, ⟨lines.getLast?.getD [], broken⟩)

/-- The stream ends: an unfinished line is a line after all. -/
def finish (r : Reader) : List Message × Reader :=
  if r.ended || r.pending.isEmpty then ([], ⟨[], true⟩)
  else ((linesMessages [r.pending]).1, ⟨[], true⟩)

end Reader

/-- All messages of a whole stream. -/
def messages (stream : List UInt8) : List Message :=
  let (found, reader) := ({} : Reader).feed stream
  found ++ reader.finish.1

end TabTools.Link
