import TabTools.Link.Server
import TabTools.Proofs.Link.Message
import TabTools.Proofs.Text.Pieces
import TabTools.Proofs.Text.Utf8

/-!
# Streams of players

**Theorem (`interspersed_messages_reported`).** Messages are written one after another, with other
lines between them that hold none. Whoever reads the stream reports exactly those messages, in order
and each once, and goes on until the stream ends, into whatever chunks the bytes were cut.

**Lines.** A stream of complete lines is cut at its line feeds and nowhere else, since no message has
a line feed of its own (`pieces_stream`). Every line is decoded by itself, so a line without a
message neither takes anything from its neighbours nor gives anything to them (`linesMessages_map`).

**Chunks.** The bytes of an unfinished line wait for the next chunk. So feeding chunks is feeding all
of them at once (`feed_append`), as long as every line can be decoded.
-/

namespace TabTools.Link

open Text

/-! ## Lines -/

/-- A line of a player's stream. -/
inductive Line where
  /-- A message, as it is sent. -/
  | message (m : Message)
  /-- Some other text, up to its line feed. -/
  | other (text : List Char)

namespace Line

/-- A line without its line feed. -/
def text : Line → List Char
  | .message m => m.render
  | .other text => text

def bytes : Line → List UInt8
  | .message m => m.wire
  | .other text => encode (text ++ ['\n'])

def message? : Line → Option Message
  | .message m => some m
  | .other _ => none

/-- A message has data that can be read inside of an object. Any other line is one line, and without
its ending, a line feed or carriage return and line feed, it is blank or no message. -/
def Admissible : Line → Prop
  | .message m => m.data.Readable 126
  | .other text =>
    '\n' ∉ text ∧ (trim (dropReturn text) = [] ∨ Message.parse? (dropReturn text) = none)

instance : (line : Line) → Decidable line.Admissible
  | .message m => inferInstanceAs (Decidable (m.data.Readable 126))
  | .other text =>
    inferInstanceAs
      (Decidable ('\n' ∉ text ∧
        (trim (dropReturn text) = [] ∨ Message.parse? (dropReturn text) = none)))

theorem bytes_eq (line : Line) : line.bytes = encode line.text ++ [10] := by
  have newline : encode ['\n'] = [10] := by decide
  cases line <;> rw [bytes, text, ← newline, ← encode_append]
  rfl

variable {line : Line}

theorem newline_not_mem_text (h : line.Admissible) : 10 ∉ encode line.text := by
  rw [newline_mem_encode]
  cases line with
  | message m => exact m.newline_not_mem_render
  | other text => exact h.1

/-- **A line holds** its message or none. -/
theorem lineMessage?_text (h : line.Admissible) :
    lineMessage? (dropReturn line.text) = line.message? := by
  cases line with
  | message m =>
    rw [text, m.dropReturn_render]
    exact lineMessage?_render h
  | other text =>
    rcases h.2 with blank | unread
    · simp [lineMessage?, Line.text, message?, blank]
    · simp [lineMessage?, Line.text, message?, unread]

end Line

/-- Dropping the carriage return before or after decoding is the same. -/
theorem dropReturnByte_encode (text : List Char) :
    dropReturnByte (encode text) = encode (dropReturn text) := by
  unfold dropReturnByte dropReturn
  by_cases last : text.getLast? = some '\r'
  · rw [if_pos last, if_pos ((getLast?_encode_eq_return text).2 last)]
    obtain ⟨front, rfl⟩ := List.getLast?_eq_some_iff.1 last
    have return_ : encode ['\r'] = [13] := by decide
    rw [encode_append, return_, List.dropLast_concat, List.dropLast_concat]
  · rw [if_neg last, if_neg (mt (getLast?_encode_eq_return text).1 last)]

/-- **Every line by itself** gives its message, and the stream goes on. -/
theorem linesMessages_map {lines : List Line} (h : ∀ line ∈ lines, line.Admissible) :
    linesMessages (lines.map fun line => dropReturnByte (encode line.text)) =
      (lines.filterMap Line.message?, false) := by
  induction lines with
  | nil => rfl
  | cons line lines ih =>
    obtain ⟨hline, hrest⟩ := List.forall_mem_cons.1 h
    rw [List.map_cons, linesMessages, dropReturnByte_encode, decode?_encode, ih hrest]
    simp only [Line.lineMessage?_text hline]
    cases hmessage : line.message? <;> simp [hmessage]

theorem linesMessages_append (xs ys : List (List UInt8)) :
    linesMessages (xs ++ ys) =
      if (linesMessages xs).2 then linesMessages xs
      else ((linesMessages xs).1 ++ (linesMessages ys).1, (linesMessages ys).2) := by
  induction xs with
  | nil => rfl
  | cons bytes xs ih =>
    rw [List.cons_append, linesMessages, linesMessages]
    cases decode? bytes with
    | none => rfl
    | some line =>
      rw [ih]
      dsimp only
      split <;> simp

/-! ## Streams -/

/-- **A stream of lines** is cut at the end of each of them. -/
theorem pieces_stream {lines : List Line} (h : ∀ line ∈ lines, line.Admissible) :
    pieces (· == 10) (lines.flatMap Line.bytes) =
      lines.map (fun line => encode line.text) ++ [[]] := by
  induction lines with
  | nil => rfl
  | cons line lines ih =>
    obtain ⟨hline, hrest⟩ := List.forall_mem_cons.1 h
    have whole : ∀ b ∈ encode line.text, (b == 10) = false := by
      intro b hb
      rw [beq_eq_false_iff_ne]
      rintro rfl
      exact Line.newline_not_mem_text hline hb
    rw [List.flatMap_cons, Line.bytes_eq, List.append_assoc, List.singleton_append,
      pieces_append_cons whole rfl, ih hrest]
    rfl

namespace Reader

/-- A reader that goes on. -/
structure Open (r : Reader) : Prop where
  goes : r.ended = false
  unfinished : ∀ b ∈ r.pending, (b == 10) = false

theorem open_start : Open {} := ⟨rfl, by simp⟩

theorem feed_eq {r : Reader} (goes : r.ended = false) (bytes : List UInt8) :
    r.feed bytes =
      let lines := pieces (· == 10) (r.pending ++ bytes)
      let (found, broken) := linesMessages (lines.dropLast.map dropReturnByte)
      (found, ⟨lines.getLast?.getD [], broken⟩) := by
  rw [feed, if_neg (by simp [goes])]

theorem feed_nil {r : Reader} (h : r.Open) : r.feed [] = ([], r) := by
  obtain ⟨pending, ended⟩ := r
  obtain ⟨rfl, unfinished⟩ := h
  rw [feed_eq rfl, List.append_nil, pieces_of_forall_not unfinished]
  rfl

/-- The last piece of a chunk is an unfinished line. -/
theorem Open.feed {r : Reader} (h : r.Open) {bytes : List UInt8}
    (goes : (r.feed bytes).2.ended = false) : (r.feed bytes).2.Open := by
  refine ⟨goes, fun b hb => ?_⟩
  rw [feed_eq h.goes] at hb
  obtain ⟨last, hlast⟩ : ∃ last, (pieces (· == 10) (r.pending ++ bytes)).getLast? = some last :=
    ⟨_, List.getLast?_eq_some_getLast (pieces_ne_nil _ _)⟩
  simp only [hlast, Option.getD_some] at hb
  exact not_mem_of_mem_pieces (List.mem_of_getLast? hlast) b hb

/-- **Two chunks are one.** -/
theorem feed_append {r : Reader} (h : r.Open) {xs ys : List UInt8}
    (goes : (r.feed (xs ++ ys)).2.ended = false) :
    (r.feed xs).2.ended = false ∧
      r.feed (xs ++ ys) = ((r.feed xs).1 ++ ((r.feed xs).2.feed ys).1, ((r.feed xs).2.feed ys).2) := by
  rw [feed_eq h.goes (xs ++ ys), ← List.append_assoc, pieces_append] at goes ⊢
  have last : pieces (· == 10)
      ((pieces (· == 10) (r.pending ++ xs)).getLast?.getD [] ++ ys) ≠ [] := pieces_ne_nil _ _
  simp only [List.dropLast_append_of_ne_nil last, List.map_append, linesMessages_append,
    List.getLast?_append, Option.or_of_isSome (List.getLast?_isSome.2 last)] at goes ⊢
  -- No line of the first chunk breaks the stream, for then all of it would be broken.
  have unbroken : (linesMessages
      ((pieces (· == 10) (r.pending ++ xs)).dropLast.map dropReturnByte)).2 = false := by
    by_contra broken
    rw [Bool.not_eq_false] at broken
    rw [if_pos broken] at goes
    exact Bool.false_ne_true (goes.symm.trans broken)
  have first : (r.feed xs).2.ended = false := by
    rw [feed_eq h.goes]
    exact unbroken
  refine ⟨first, ?_⟩
  rw [if_neg (Bool.eq_false_iff.1 unbroken), feed_eq first]
  simp only [feed_eq h.goes]

/-- **A stream of lines** gives the messages on them and leaves nothing over. -/
theorem feed_stream {lines : List Line} (h : ∀ line ∈ lines, line.Admissible) :
    ({} : Reader).feed (lines.flatMap Line.bytes) = (lines.filterMap Line.message?, {}) := by
  rw [feed_eq rfl, List.nil_append, pieces_stream h]
  simp only [List.dropLast_concat, List.map_map, Function.comp_def, linesMessages_map h,
    List.getLast?_concat, Option.getD_some]

end Reader

/-! ## Players -/

namespace Exchange

variable {x : Exchange} {name id : String} {p : Player}

theorem player?_putPlayer (x : Exchange) (p : Player) : (x.putPlayer p).player? p.name = some p := by
  have others : (x.players.filter fun q => q.name != p.name).find? (fun q => q.name == p.name) =
      none := by simp
  simp [player?, putPlayer, List.find?_append, others]

/-- **A chunk arrives**: its messages are reported, and the reader goes on. -/
theorem act_write (here : x.player? name = some p) (taken : p.id = some id)
    (goes : p.reader.ended = false) {bytes : List UInt8}
    (on : (p.reader.feed bytes).2.ended = false) :
    (x.act name (.write bytes)).2 =
      (x.putPlayer { p with reader := (p.reader.feed bytes).2 }).emit
        ((p.reader.feed bytes).1.map (.message id)) := by
  simp only [act, here, receive, taken, goes, on]
  rfl

/-- **The stream ends** at the end of a line: nothing is left to be read. -/
theorem act_halfClose (here : x.player? name = some p) (taken : p.id = some id)
    (fresh : p.reader = {}) :
    (x.act name .halfClose).2.events = x.events ++ [.disconnected id] := by
  have ended : (({} : Reader).finish) = ([], ⟨[], true⟩) := rfl
  simp only [act, here, finish, taken, fresh, ended]
  simp only [endReader, emit, putPlayer, Bool.false_eq_true, if_false, List.map_nil, List.append_nil]
  split <;> rfl

/-- A player writes chunks one after another. -/
def writeAll (x : Exchange) (name : String) (chunks : List (List UInt8)) : Exchange :=
  chunks.foldl (fun x chunk => (x.act name (.write chunk)).2) x

/-- **All chunks have arrived**: the reader stands where it would had they been one. -/
theorem writeAll_reads (here : x.player? name = some p) (taken : p.id = some id)
    (h : p.reader.Open) (chunks : List (List UInt8))
    (on : (p.reader.feed chunks.flatten).2.ended = false) :
    (x.writeAll name chunks).player? name =
        some { p with reader := (p.reader.feed chunks.flatten).2 } ∧
      (x.writeAll name chunks).live = x.live ∧
      (x.writeAll name chunks).events =
        x.events ++ (p.reader.feed chunks.flatten).1.map (.message id) := by
  induction chunks generalizing x p with
  | nil =>
    rw [List.flatten_nil, Reader.feed_nil h]
    exact ⟨here, rfl, (List.append_nil _).symm⟩
  | cons chunk chunks ih =>
    rw [List.flatten_cons] at on ⊢
    obtain ⟨first, whole⟩ := Reader.feed_append h on
    rw [whole] at on ⊢
    have named : p.name = name := by simpa using List.find?_some here
    have arrived := act_write here taken h.goes first
    have seen : ((x.act name (.write chunk)).2).player? name =
        some { p with reader := (p.reader.feed chunk).2 } := by
      rw [arrived, ← named]
      exact player?_putPlayer x { p with reader := (p.reader.feed chunk).2 }
    obtain ⟨player, live, events⟩ := ih seen taken (h.feed first) on
    refine ⟨player, ?_, ?_⟩
    · rw [writeAll, List.foldl_cons, ← writeAll, live, arrived]
      rfl
    · rw [writeAll, List.foldl_cons, ← writeAll, events, arrived, List.map_append,
        ← List.append_assoc]
      rfl

end Exchange

/-- **Messages between other lines are reported.** Take a player whose connection is live and who
has sent nothing yet. The player writes messages as they are sent on the link, with data that holds
no doubles and is nested at most 126 deep, and among them other complete lines that are blank or no
messages; the bytes may come in any chunks. (That integers are in range and keys in order holds of
all data in memory.) Then exactly those messages are reported, in order, with kind and data
unchanged, and the connection is still there with nothing left over. Its end is reported when the
player's stream ends. -/
theorem interspersed_messages_reported {x : Exchange} {name id : String} {p : Player}
    (here : x.player? name = some p) (taken : p.id = some id) (fresh : p.reader = {})
    {lines : List Line} (admissible : ∀ line ∈ lines, line.Admissible)
    {chunks : List (List UInt8)} (arrives : chunks.flatten = lines.flatMap Line.bytes) :
    let sent := lines.filterMap Line.message?
    let heard := x.writeAll name chunks
    messages (lines.flatMap Line.bytes) = sent ∧
      heard.events = x.events ++ sent.map (.message id) ∧
      heard.live = x.live ∧ heard.player? name = some p ∧
      (heard.act name .halfClose).2.events =
        x.events ++ sent.map (.message id) ++ [.disconnected id] := by
  intro sent heard
  have read := Reader.feed_stream admissible
  have stands : { p with reader := {} } = p := by rw [← fresh]
  obtain ⟨player, live, events⟩ := Exchange.writeAll_reads here taken
    (by rw [fresh]; exact Reader.open_start) chunks (by rw [fresh, arrives, read])
  rw [fresh, arrives, read, stands] at player
  rw [fresh, arrives, read] at events
  refine ⟨?_, events, live, player, ?_⟩
  · rw [messages, read]
    exact List.append_nil _
  · rw [Exchange.act_halfClose player taken fresh, events]

/-- Line feeds, a carriage return and quotes inside of messages, and between them a line that is no
JSON, one of a blank and a carriage return, and one that is JSON but no message. The stream arrives
in two chunks, the first of which ends inside of a character. -/
def mixedLines : List Line :=
  [.message ⟨"é\n\"", .object [("text", .str "\r\n"), ("pc", .arr [.int (-512), .null])]⟩,
   .other "not json".toList, .other " \r".toList, .message ⟨"", .null⟩, .other "[1]".toList]

theorem mixed_lines_reported :
    let x := (({} : Exchange).connect "ada").2
    let stream := mixedLines.flatMap Line.bytes
    (∀ line ∈ mixedLines, line.Admissible) ∧
      (x.writeAll "ada" [stream.take 10, stream.drop 10]).events =
        [.connected "<id0>" "<ada>",
         .message "<id0>"
          ⟨"é\n\"", .object [("text", .str "\r\n"), ("pc", .arr [.int (-512), .null])]⟩,
         .message "<id0>" ⟨"", .null⟩] := by
  intro x stream
  have admissible : ∀ line ∈ mixedLines, line.Admissible := by decide +kernel
  have here : x.player? "ada" = some { name := "ada", id := some "<id0>" } := by rfl
  have arrives : [stream.take 10, stream.drop 10].flatten = stream := by simp
  obtain ⟨-, events, -⟩ := interspersed_messages_reported here rfl rfl admissible arrives
  exact ⟨admissible, events⟩

end TabTools.Link
