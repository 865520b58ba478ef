import TabTools.Proofs.Json.RoundTrip
import TabTools.Proofs.Wire.Block

/-!
# Reading framed messages back

**Main result** (`written_read_back`). Messages that one channel writes one after another come out
of a channel that reads the bytes: unchanged, in order and each once. The read after the last one
finds the stream closed.

**Frames** (`ownFrame`). What is written has one header, which announces the length of the body in
bytes. So it is one of the frames that are read exactly: the body is cut off whole and what follows
is left (`read_frameBody`). That holds of any body; that the body of a message then denotes the
message is `Json.parseWithin?_render`.
-/

namespace TabTools.Wire

open Text

/-! ## The length header -/

theorem trim_numeral (n : Nat) : trim (' ' :: Nat.toDigits 10 n) = Nat.toDigits 10 n := by
  have notBlank : ∀ c ∈ Nat.toDigits 10 n, isBlank c = false := fun c hc =>
    isBlank_of_isDigit (isDigit_numeral n c hc)
  rw [trim, List.dropWhile_cons_of_pos (by decide), dropWhile_of_forall_not notBlank,
    dropWhile_of_forall_not fun c hc => notBlank c (List.mem_reverse.1 hc), List.reverse_reverse]

/-- The header line that announces a length, up to its line feed. -/
def lengthLine (n : Nat) : List Char := lengthHeader ++ ' ' :: Nat.toDigits 10 n ++ ['\r']

theorem newline_not_mem_lengthLine (n : Nat) : '\n' ∉ lengthLine n := by
  have fixed : '\n' ∉ lengthHeader ++ [' ', '\r'] := by decide
  have digits : '\n' ∉ Nat.toDigits 10 n := by
    intro h
    cases isDigit_numeral n '\n' h
  simp only [lengthLine, List.mem_append, List.mem_cons, not_or] at fixed ⊢
  exact ⟨⟨fixed.1, fixed.2.1, digits⟩, fixed.2.2⟩

theorem announces_lengthLine {n : Nat} (fits : n ≤ maxLength) {line : HeaderLine}
    (h : line.text = lengthLine n) : line.Announces n := by
  have blank : ∀ c ∈ ['\r'], isBlank c = true := List.forall_mem_singleton.2 (by decide)
  refine ⟨' ' :: Nat.toDigits 10 n ++ ['\r'], by simp [h, lengthLine], ?_⟩
  rw [trim_append_blanks _ blank, trim_numeral]
  exact numeral_toDigits fits

/-! ## Frames -/

theorem frameBody_eq (body : List UInt8) :
    frameBody body =
      encode (lengthLine body.length ++ ['\n']) ++ (encode (['\r'] ++ ['\n']) ++ body) := by
  rw [frameBody, ← List.append_assoc, ← encode_append]
  simp [lengthLine]

/-- The frame that is written for a body. -/
def ownFrame {body : List UInt8} (fits : body.length ≤ maxLength) : Framed where
  headers :=
    [⟨lengthLine body.length, newline_not_mem_lengthLine _, 'C', List.mem_cons_self, by decide⟩]
  returns := 1
  body
  numeric _ mem _ :=
    ⟨_, announces_lengthLine fits (congrArg HeaderLine.text (List.mem_singleton.1 mem))⟩
  announced := ⟨[], _, [], rfl, announces_lengthLine fits rfl, nofun⟩

theorem bytes_ownFrame {body : List UInt8} (fits : body.length ≤ maxLength) :
    (ownFrame fits).bytes = frameBody body := by
  rw [frameBody_eq, Framed.bytes, ownFrame, List.flatMap_singleton]
  rfl

/-- **A framed body is cut off exactly.** -/
theorem read_frameBody {body : List UInt8} (fits : body.length ≤ maxLength) (rest : List UInt8) :
    read (frameBody body ++ rest) = (parseBody body, rest) := by
  rw [← bytes_ownFrame fits, Framed.read_bytes, ← Framed.parseBody_body]
  rfl

theorem parseBody_encode {v : Json} (h : v.Readable Json.maxDepth) :
    parseBody (encode v.render) = .ok v := by
  rw [parseBody, decode?_encode, Option.bind_some, Json.parse?, Json.parseWithin?_render h]

/-- **A framed message is read back, and what follows it is left.** -/
theorem read_frame {v : Json} (h : v.Readable Json.maxDepth)
    (fits : (encode v.render).length ≤ maxLength) (rest : List UInt8) :
    read (frame v ++ rest) = (.ok v, rest) := by
  rw [frame, read_frameBody fits, parseBody_encode h]

/-! ## Channels -/

/-- What it takes for a message to come through a channel unchanged. -/
structure Sendable (message : Json) : Prop where
  readable : message.Readable Json.maxDepth
  fits : (encode message.render).length ≤ maxLength

/-- **A stream of framed messages** holds these messages and nothing else. -/
theorem readAll_frames {messages : List Json} (sendable : ∀ m ∈ messages, Sendable m) :
    readAll (messages.flatMap frame) = (messages, .closed) := by
  induction messages with
  | nil =>
    unfold readAll
    split
    · rename_i e rest hread
      rw [List.flatMap_nil, read, readHeaders] at hread
      cases hread
      rfl
    · rename_i m rest hread
      rw [List.flatMap_nil, read, readHeaders] at hread
      cases hread
  | cons m messages ih =>
    have hm := sendable m List.mem_cons_self
    have hfirst := read_frame hm.readable hm.fits (messages.flatMap frame)
    unfold readAll
    split
    · rename_i e rest hread
      rw [List.flatMap_cons, hfirst] at hread
      cases hread
    · rename_i v rest hread
      rw [List.flatMap_cons, hfirst] at hread
      cases hread
      rw [ih fun k hk => sendable k (List.mem_cons_of_mem m hk)]

namespace Channel

theorem output_write (channel : Channel) (message : Json) :
    (channel.write message).output = channel.output ++ frame message := by
  simp [write]

theorem output_foldl_write (messages : List Json) (channel : Channel) :
    (messages.foldl write channel).output = channel.output ++ messages.flatMap frame := by
  induction messages generalizing channel with
  | nil => simp
  | cons m messages ih =>
    rw [List.foldl_cons, ih, output_write, List.flatMap_cons, List.append_assoc]

theorem read_frame {channel : Channel} {message : Json} {rest : List UInt8}
    (sendable : Sendable message) (ahead : channel.input = frame message ++ rest) :
    ∃ next, channel.read = (.ok message, next) ∧ next.input = rest := by
  rw [read, ahead, Wire.read_frame sendable.readable sendable.fits]
  exact ⟨_, rfl, by simp⟩

theorem read_nil {channel : Channel} (ahead : channel.input = []) :
    channel.read = (.error .closed, channel) := by
  rw [read, ahead, Wire.read, readHeaders]
  simp only [← ahead]

theorem readMany_nil (goOn : Bool) (count : Nat) {channel : Channel} (ahead : channel.input = []) :
    readMany goOn (count + 1) channel = ([.error .closed], channel) := by
  rw [readMany, read_nil ahead]
  simp

/-- **Framed messages are read back in order.** -/
theorem readMany_frames (goOn : Bool) {messages : List Json} (sendable : ∀ m ∈ messages, Sendable m)
    {channel : Channel} (ahead : channel.input = messages.flatMap frame) :
    ∃ last, readMany goOn (messages.length + 1) channel =
        (messages.map .ok ++ [.error .closed], last) ∧ last.input = [] := by
  induction messages generalizing channel with
  | nil => exact ⟨channel, readMany_nil goOn 0 ahead, ahead⟩
  | cons m messages ih =>
    rw [List.flatMap_cons] at ahead
    obtain ⟨next, hread, hnext⟩ := read_frame (sendable m List.mem_cons_self) ahead
    obtain ⟨last, hlast, hinput⟩ := ih (fun k hk => sendable k (List.mem_cons_of_mem m hk)) hnext
    refine ⟨last, ?_, hinput⟩
    rw [List.length_cons, readMany, hread]
    simp only [hlast]
    rfl

end Channel

/-- **Written messages are read back.** The messages hold no doubles and are nested at most 127
deep; that their integers are in range, their keys in order and their bodies shorter than `2 ^ 64`
bytes holds of every value in memory. What either channel logs does not matter. -/
theorem written_read_back (goOn : Bool) (writer reader : Channel) (messages : List Json)
    (readable : ∀ m ∈ messages, m.Readable 127 ∧ (encode m.render).length ≤ 0xFFFFFFFFFFFFFFFF)
    (fresh : writer.output = [])
    (wired : reader.input = (messages.foldl Channel.write writer).output) :
    (Channel.readMany goOn (messages.length + 1) reader).1 =
        messages.map .ok ++ [.error .closed] ∧
      (Channel.readMany goOn (messages.length + 1) reader).2.input = [] ∧
      ReadError.message .closed = "DAP connection closed" := by
  have sendable : ∀ m ∈ messages, Sendable m := fun m hm =>
    ⟨(readable m hm).1, (readable m hm).2⟩
  rw [Channel.output_foldl_write, fresh, List.nil_append] at wired
  obtain ⟨last, hlast, hinput⟩ := Channel.readMany_frames goOn sendable wired
  rw [hlast]
  exact ⟨rfl, hinput, rfl⟩

/-- Quotes, control characters, characters of two and four bytes and the integers at both ends of
the range, nested and one after another. -/
def assortment : List Json :=
  [.object [("text", .str "a\"\\\n\x01é😀"), ("body", .object [("", .arr [.null, .bool true])])],
   .arr [.int (-0x8000000000000000), .int 0xFFFFFFFFFFFFFFFF, .arr [], .object []],
   .str ""]

theorem assortment_read_back :
    (∀ m ∈ assortment, m.Readable 127 ∧ (encode m.render).length ≤ 0xFFFFFFFFFFFFFFFF) ∧
      (Channel.readMany true 4
          { input := (assortment.foldl Channel.write {}).output, trace := true }).1 =
        assortment.map .ok ++ [.error .closed] := by
  have readable : ∀ m ∈ assortment,
      m.Readable 127 ∧ (encode m.render).length ≤ 0xFFFFFFFFFFFFFFFF := by
    decide +kernel
  exact ⟨readable, (written_read_back true {} _ assortment readable rfl rfl).1⟩

end TabTools.Wire
