import Mathlib.Data.List.DropRight
import TabTools.Proofs.Text
import TabTools.Proofs.Text.Digits
import TabTools.Proofs.Text.Utf8
import TabTools.Wire.Traffic

/-!
# Reading frames

Our own writer sends one header, but a reader has to take what others send: several headers in any
order, lengths that are announced more than once, lines that end in a line feed alone or in more than
one carriage return (`Framed`).

**Theorem (`framed_read`).** Whatever stands in the headers, reading takes the block of headers, the
line that ends it and as many bytes as were announced last, and leaves the rest. So a body that is no
JSON text spoils its own read only, and the reads of a stream give the values of the bodies one by
one.

**Lines.** The byte of a line feed stands in the encoding of a text only where the text has a line
feed (`newline_mem_encode`). So a header line ends where its text does, whatever bytes follow, and
the reading of a block goes on as the line says (`readHeaders_line`): with the length it announces, if
it announces one, and else with the length that counted so far (`readHeaders_lines`).
-/

namespace TabTools.Wire

open Text

/-! ## Lines of bytes -/

theorem takeLine_append {line : List UInt8} (h : 10 ∉ line) (rest : List UInt8) :
    takeLine (line ++ 10 :: rest) = (line ++ [10], rest) := by
  induction line with
  | nil => rfl
  | cons b line ih =>
    rw [List.mem_cons, not_or] at h
    rw [List.cons_append, takeLine, if_neg (Ne.symm h.1), ih h.2]
    rfl

theorem takeLine_encode {line : List Char} (h : '\n' ∉ line) (rest : List UInt8) :
    takeLine (encode (line ++ ['\n']) ++ rest) = (encode (line ++ ['\n']), rest) := by
  have newline : encode ['\n'] = [10] := by decide
  rw [encode_append, newline, List.append_assoc]
  exact takeLine_append (mt (newline_mem_encode line).1 h) rest

/-- What a header line does to the reading of a block. -/
theorem readHeaders_line (length : Option Nat) {line : List Char} (h : '\n' ∉ line)
    (rest : List UInt8) :
    readHeaders length (encode (line ++ ['\n']) ++ rest) =
      match parseHeader (encode (line ++ ['\n'])) with
      | .error e => (.error e, rest)
      | .ok .blank => (.ok length, rest)
      | .ok (.length size) => readHeaders (some size) rest
      | .ok .other => readHeaders length rest := by
  have taken := takeLine_encode h rest
  cases heq : encode (line ++ ['\n']) ++ rest with
  | nil =>
    rw [heq, takeLine, Prod.mk.injEq] at taken
    have : '\n' ∈ line ++ ['\n'] := by simp
    rw [← newline_mem_encode, ← taken.1] at this
    cases this
  | cons b bytes =>
    rw [heq] at taken
    cases hmeaning : parseHeader (encode (line ++ ['\n'])) with
    | error e => simp only [readHeaders, taken, hmeaning]
    | ok header => cases header <;> simp only [readHeaders, taken, hmeaning]

/-! ## Sizes -/

/-- Decimal digits, perhaps behind a plus sign, that denote a size of at most `limit`. -/
def Numeral (limit : Nat) (text : List Char) (size : Nat) : Prop :=
  ∃ digits, digits ≠ [] ∧ (text = digits ∨ text = '+' :: digits) ∧
    (∀ c ∈ digits, c.isDigit = true) ∧ Nat.ofDigitChars 10 digits 0 = size ∧ size ≤ limit

theorem digitsSize_digits (limit : Nat) (digits : List Char) (n : Nat)
    (all : ∀ c ∈ digits, c.isDigit = true) (fits : Nat.ofDigitChars 10 digits n ≤ limit) :
    digitsSize limit n digits = .ok (Nat.ofDigitChars 10 digits n) := by
  induction digits generalizing n with
  | nil => rfl
  | cons c digits ih =>
    rw [ofDigitChars_cons_digitValue, digitValue] at fits ⊢
    have room : ¬limit < n * 10 + (c.toNat - 48) :=
      Nat.not_lt.2 ((le_ofDigitChars digits _).trans fits)
    rw [digitsSize, all c List.mem_cons_self, if_neg (by decide), if_neg room]
    exact ih _ (fun d hd => all d (List.mem_cons_of_mem c hd)) fits

theorem digitsSize_eq_ok_iff {limit start size : Nat} (fits : start ≤ limit) (digits : List Char) :
    digitsSize limit start digits = .ok size ↔
      (∀ c ∈ digits, c.isDigit = true) ∧ Nat.ofDigitChars 10 digits start = size ∧
        size ≤ limit := by
  constructor
  · intro h
    induction digits generalizing start with
    | nil =>
      cases h
      exact ⟨by simp, rfl, fits⟩
    | cons c digits ih =>
      rw [digitsSize] at h
      split at h
      · cases h
      · rename_i hdigit
        split at h
        · cases h
        · rename_i hroom
          obtain ⟨hdigits, hvalue⟩ := ih (Nat.le_of_not_lt hroom) h
          rw [ofDigitChars_cons_digitValue]
          exact ⟨List.forall_mem_cons.2 ⟨by simpa using hdigit, hdigits⟩, hvalue⟩
  · rintro ⟨hdigits, rfl, hsize⟩
    exact digitsSize_digits limit digits start hdigits hsize

/-- **Sizes** are what `parseSize` accepts. -/
theorem parseSize_eq_ok_iff {limit size : Nat} {text : List Char} :
    parseSize limit text = .ok size ↔ Numeral limit text size := by
  have hread (digits : List Char) : digitsSize limit 0 digits = .ok size ↔
      (∀ c ∈ digits, c.isDigit = true) ∧ Nat.ofDigitChars 10 digits 0 = size ∧ size ≤ limit :=
    digitsSize_eq_ok_iff (Nat.zero_le limit) digits
  constructor
  · intro h
    unfold parseSize at h
    split at h
    · cases h
    · cases h
    · rename_i rest hrest
      exact ⟨rest, hrest, .inr rfl, (hread rest).1 h⟩
    · rename_i hnonempty hplus _
      exact ⟨text, hnonempty, .inl rfl, (hread text).1 h⟩
  · rintro ⟨digits, hnonempty, rfl | rfl, hdigits⟩
    · rw [← (hread text).2 hdigits]
      unfold parseSize
      split
      · exact absurd rfl hnonempty
      · cases hdigits.1 '+' (.head _)
      · cases hdigits.1 '+' (.head _)
      · rfl
    · rw [← (hread digits).2 hdigits]
      unfold parseSize
      split <;> simp_all

theorem numeral_toDigits {limit n : Nat} (fits : n ≤ limit) :
    Numeral limit (Nat.toDigits 10 n) n :=
  ⟨Nat.toDigits 10 n, by simp, .inl rfl, isDigit_numeral n, Nat.ofDigitChars_ten_toDigits, fits⟩

theorem numeral_plus_toDigits {limit n : Nat} (fits : n ≤ limit) :
    Numeral limit ('+' :: Nat.toDigits 10 n) n :=
  ⟨Nat.toDigits 10 n, by simp, .inr rfl, isDigit_numeral n, Nat.ofDigitChars_ten_toDigits, fits⟩

/-! ## Endings -/

def isEnding (c : Char) : Bool := c == '\r' || c == '\n'

theorem isEnding_iff {c : Char} : isEnding c = true ↔ c = '\r' ∨ c = '\n' := by
  simp [isEnding]

theorem dropEnding_eq (line : List Char) : dropEnding line = line.rdropWhile isEnding := rfl

theorem dropEnding_concat (line : List Char) : dropEnding (line ++ ['\n']) = dropEnding line := by
  rw [dropEnding_eq, List.rdropWhile_concat_pos _ _ _ rfl, ← dropEnding_eq]

/-- Endings are blank. -/
theorem trim_dropEnding (line : List Char) : trim (dropEnding line) = trim line := by
  have hblank : ∀ c ∈ line.rtakeWhile isEnding, isBlank c = true := by
    intro c hc
    rcases isEnding_iff.1 (List.mem_rtakeWhile_imp hc) with rfl | rfl <;> decide
  rw [← trim_append_blanks (dropEnding line) hblank, dropEnding_eq,
    List.rdropWhile_append_rtakeWhile]

/-- The name of a header has no ending, whatever its value is. -/
theorem dropEnding_append_length (value : List Char) :
    dropEnding (lengthHeader ++ value) = lengthHeader ++ dropEnding value := by
  simp only [dropEnding_eq]
  induction value using List.reverseRecOn with
  | nil => rfl
  | append_singleton value c ih =>
    rw [← List.append_assoc, List.rdropWhile_concat, List.rdropWhile_concat, ih]
    split
    · rfl
    · rw [List.append_assoc]

/-! ## Header lines -/

/-- A header line, up to its line feed. There is more to it than carriage returns. -/
structure HeaderLine where
  text : List Char
  oneLine : '\n' ∉ text
  filled : ∃ c ∈ text, c ≠ '\r'

namespace HeaderLine

variable {line : HeaderLine} {size : Nat}

def bytes (line : HeaderLine) : List UInt8 := encode (line.text ++ ['\n'])

/-- Whether a line says how long the body is. -/
def Announces (line : HeaderLine) (size : Nat) : Prop :=
  ∃ value, line.text = lengthHeader ++ value ∧ Numeral maxLength (trim value) size

theorem dropEnding_ne_nil (line : HeaderLine) : dropEnding line.text ≠ [] := by
  obtain ⟨c, hc, hreturn⟩ := line.filled
  rw [dropEnding_eq, ne_eq, List.rdropWhile_eq_nil_iff]
  intro hall
  rcases isEnding_iff.1 (hall c hc) with rfl | rfl
  · exact hreturn rfl
  · exact line.oneLine hc

theorem parseHeader_of_announces (h : line.Announces size) :
    parseHeader line.bytes = .ok (.length size) := by
  obtain ⟨value, htext, hvalue⟩ := h
  have hheld := line.dropEnding_ne_nil
  have hparsed := parseSize_eq_ok_iff.2 hvalue
  rw [← trim_dropEnding] at hparsed
  rw [htext, dropEnding_append_length] at hheld
  rw [parseHeader, bytes, decode?_encode]
  simp only [dropEnding_concat, htext, dropEnding_append_length, List.isEmpty_iff, hheld, if_false,
    afterPrefix?_eq_some_iff.2 rfl, hparsed]

theorem parseHeader_of_other (h : ¬ lengthHeader <+: line.text) :
    parseHeader line.bytes = .ok .other := by
  have hmissing : afterPrefix? lengthHeader (dropEnding line.text) = none := by
    cases hafter : afterPrefix? lengthHeader (dropEnding line.text) with
    | none => rfl
    | some rest =>
      have hprefix : dropEnding line.text <+: line.text := List.rdropWhile_prefix _ _
      rw [afterPrefix?_eq_some_iff.1 hafter] at hprefix
      exact absurd ((List.prefix_append _ _).trans hprefix) h
  rw [parseHeader, bytes, decode?_encode]
  simp only [dropEnding_concat, List.isEmpty_iff, line.dropEnding_ne_nil, if_false, hmissing]

end HeaderLine

/-! ## Blocks -/

variable {line : HeaderLine} {lines : List HeaderLine}

theorem readHeaders_of_announces {size : Nat} (h : line.Announces size) (length : Option Nat)
    (rest : List UInt8) :
    readHeaders length (line.bytes ++ rest) = readHeaders (some size) rest := by
  have hread := readHeaders_line length line.oneLine rest
  rwa [← HeaderLine.bytes, HeaderLine.parseHeader_of_announces h] at hread

theorem readHeaders_of_other (h : ¬ lengthHeader <+: line.text) (length : Option Nat)
    (rest : List UInt8) :
    readHeaders length (line.bytes ++ rest) = readHeaders length rest := by
  have hread := readHeaders_line length line.oneLine rest
  rwa [← HeaderLine.bytes, HeaderLine.parseHeader_of_other h] at hread

/-- Reading goes on behind header lines, as long as their lengths are numbers. -/
theorem readHeaders_lines
    (numeric : ∀ line ∈ lines, lengthHeader <+: line.text → ∃ size, line.Announces size)
    (length : Option Nat) (rest : List UInt8) :
    ∃ length', readHeaders length (lines.flatMap HeaderLine.bytes ++ rest) =
      readHeaders length' rest := by
  induction lines generalizing length with
  | nil => exact ⟨length, rfl⟩
  | cons line lines ih =>
    have hrest := ih fun other hmem => numeric other (List.mem_cons_of_mem line hmem)
    rw [List.flatMap_cons, List.append_assoc]
    by_cases hlength : lengthHeader <+: line.text
    · obtain ⟨size, hsize⟩ := numeric line (.head _) hlength
      rw [readHeaders_of_announces hsize]
      exact hrest (some size)
    · rw [readHeaders_of_other hlength]
      exact hrest length

/-- Header lines that announce no length do not count. -/
theorem readHeaders_others (others : ∀ line ∈ lines, ¬ lengthHeader <+: line.text)
    (length : Option Nat) (rest : List UInt8) :
    readHeaders length (lines.flatMap HeaderLine.bytes ++ rest) = readHeaders length rest := by
  induction lines with
  | nil => rfl
  | cons line lines ih =>
    rw [List.flatMap_cons, List.append_assoc, readHeaders_of_other (others line (.head _))]
    exact ih fun other hmem => others other (List.mem_cons_of_mem line hmem)

theorem readHeaders_returns (returns : Nat) (length : Option Nat) (rest : List UInt8) :
    readHeaders length (encode (List.replicate returns '\r' ++ ['\n']) ++ rest) =
      (.ok length, rest) := by
  have hreturns : ∀ c ∈ List.replicate returns '\r', c = '\r' := fun c hc =>
    List.eq_of_mem_replicate hc
  have hempty : dropEnding (List.replicate returns '\r') = [] :=
    List.rdropWhile_eq_nil_iff.2 fun c hc => isEnding_iff.2 (.inl (hreturns c hc))
  have hblank : parseHeader (encode (List.replicate returns '\r' ++ ['\n'])) = .ok .blank := by
    rw [parseHeader, decode?_encode]
    simp only [dropEnding_concat, hempty]
    rfl
  have honeLine : '\n' ∉ List.replicate returns '\r' := fun hmem => by cases hreturns _ hmem
  rw [readHeaders_line length honeLine, hblank]

/-! ## Frames -/

/-- A frame as others may send it: header lines, then a line with nothing but carriage returns, then
the body. Every length in the headers is a number, and the last one is that of the body. -/
structure Framed where
  headers : List HeaderLine
  returns : Nat
  body : List UInt8
  numeric : ∀ line ∈ headers, lengthHeader <+: line.text → ∃ size, line.Announces size
  announced : ∃ early line late, headers = early ++ line :: late ∧ line.Announces body.length ∧
    ∀ other ∈ late, ¬ lengthHeader <+: other.text

namespace Framed

def bytes (framed : Framed) : List UInt8 :=
  framed.headers.flatMap HeaderLine.bytes ++
    (encode (List.replicate framed.returns '\r' ++ ['\n']) ++ framed.body)

/-- What reading gives for the body: its value, if it is JSON text. -/
def result (framed : Framed) : Except ReadError Json :=
  ((decode? framed.body).bind Json.parse?).elim (.error .badJson) .ok

theorem parseBody_body (framed : Framed) : parseBody framed.body = framed.result := by
  unfold parseBody result
  cases (decode? framed.body).bind Json.parse? with
  | none => rfl
  | some value => rfl

theorem result_ne_closed (framed : Framed) : framed.result ≠ .error .closed := by
  unfold result
  cases (decode? framed.body).bind Json.parse? with
  | none => simp
  | some value => simp

/-- **The headers are taken off** with the length that was announced last. -/
theorem readHeaders_bytes (framed : Framed) (rest : List UInt8) :
    readHeaders none (framed.bytes ++ rest) =
      (.ok (some framed.body.length), framed.body ++ rest) := by
  obtain ⟨early, line, late, hheaders, hline, hlate⟩ := framed.announced
  have hearly : ∀ other ∈ early, lengthHeader <+: other.text → ∃ size, other.Announces size :=
    fun other hmem => framed.numeric other (hheaders ▸ List.mem_append_left _ hmem)
  simp only [bytes, hheaders, List.flatMap_append, List.flatMap_cons, List.append_assoc]
  obtain ⟨length, hread⟩ := readHeaders_lines hearly none _
  rw [hread, readHeaders_of_announces hline, readHeaders_others hlate, readHeaders_returns]

/-- **A frame is taken off exactly.** -/
theorem read_bytes (framed : Framed) (rest : List UInt8) :
    Wire.read (framed.bytes ++ rest) = (framed.result, rest) := by
  rw [Wire.read, framed.readHeaders_bytes]
  simp only
  rw [if_neg (by simp), List.take_left, List.drop_left, parseBody_body]

end Framed

namespace Channel

@[simp] theorem input_traced (channel : Channel) (flow : Flow) (message : Json) :
    (channel.traced flow message).input = channel.input := by
  unfold traced
  split <;> rfl

@[simp] theorem output_traced (channel : Channel) (flow : Flow) (message : Json) :
    (channel.traced flow message).output = channel.output := by
  unfold traced
  split <;> rfl

theorem read_framed {channel : Channel} {framed : Framed} {rest : List UInt8}
    (ahead : channel.input = framed.bytes ++ rest) :
    ∃ next, channel.read = (framed.result, next) ∧ next.input = rest ∧
      next.output = channel.output := by
  rw [read, ahead, framed.read_bytes]
  cases framed.result with
  | error e => exact ⟨_, rfl, rfl, rfl⟩
  | ok value => exact ⟨_, rfl, by simp, by simp⟩

theorem readMany_framed {channel : Channel} {frames : List Framed} {rest : List UInt8}
    (ahead : channel.input = frames.flatMap Framed.bytes ++ rest) :
    ∃ last, readMany true frames.length channel = (frames.map Framed.result, last) ∧
      last.input = rest ∧ last.output = channel.output := by
  induction frames generalizing channel with
  | nil => exact ⟨channel, rfl, ahead, rfl⟩
  | cons framed frames ih =>
    rw [List.flatMap_cons, List.append_assoc] at ahead
    obtain ⟨next, hread, hinput, houtput⟩ := read_framed ahead
    obtain ⟨last, hlast, hrest, hkept⟩ := ih hinput
    refine ⟨last, ?_, hrest, hkept.trans houtput⟩
    rw [List.length_cons, readMany, hread]
    have hopen := framed.result_ne_closed
    cases hresult : framed.result with
    | ok value => simp [hlast, hresult]
    | error e =>
      rw [hresult] at hopen
      have hgoOn : (true && e != .closed) = true := by simpa using hopen
      simp only [if_pos hgoOn, hlast, List.map_cons, hresult]

end Channel

/-- **Frames of other writers are read one by one.** A frame is taken off the input exactly: the read
gives the value of the body, or fails if the body is no JSON text, and leaves what follows. So the
reads of a stream of frames give what each of the bodies gives, whatever the others are. -/
theorem framed_read (channel : Channel) (rest : List UInt8) :
    (∀ framed : Framed, channel.input = framed.bytes ++ rest → ∃ next,
        channel.read =
          (((decode? framed.body).bind Json.parse?).elim (.error .badJson) .ok, next) ∧
        next.input = rest ∧ next.output = channel.output) ∧
      ∀ frames : List Framed, channel.input = frames.flatMap Framed.bytes ++ rest → ∃ last,
        Channel.readMany true frames.length channel =
          (frames.map fun framed =>
            ((decode? framed.body).bind Json.parse?).elim (.error .badJson) .ok, last) ∧
        last.input = rest ∧ last.output = channel.output :=
  ⟨fun _ ahead => Channel.read_framed ahead, fun _ ahead => Channel.readMany_framed ahead⟩

/-- Two lengths in two forms, lines with line feeds alone and with more than one carriage return, and
a body that is no JSON text. -/
def spoilt : Framed where
  headers :=
    [⟨"Content-Length: 99".toList, by decide, 'C', by decide⟩,
     ⟨"X-Sender: é\r".toList, by decide, 'X', by decide⟩,
     ⟨"Content-Length:+2 \r\r".toList, by decide, 'C', by decide⟩,
     ⟨"content-length: 7\r".toList, by decide, 'c', by decide⟩]
  returns := 0
  body := encode "\x7b]".toList
  numeric := by
    have first : Numeral maxLength (trim " 99".toList) 99 := by
      rw [show trim " 99".toList = Nat.toDigits 10 99 by decide]
      exact numeral_toDigits (by decide)
    have second : Numeral maxLength (trim "+2 \r\r".toList) 2 := by
      rw [show trim "+2 \r\r".toList = '+' :: Nat.toDigits 10 2 by decide]
      exact numeral_plus_toDigits (by decide)
    simp only [List.forall_mem_cons, List.not_mem_nil, false_implies, implies_true, and_true]
    exact ⟨fun _ => ⟨99, _, rfl, first⟩, fun h => absurd h (by decide),
      fun _ => ⟨2, _, rfl, second⟩, fun h => absurd h (by decide)⟩
  announced := by
    refine ⟨[_, _], _, [_], rfl, ⟨"+2 \r\r".toList, rfl, ?_⟩,
      List.forall_mem_singleton.2 (by decide)⟩
    rw [show trim "+2 \r\r".toList = '+' :: Nat.toDigits 10 2 by decide]
    exact numeral_plus_toDigits (by decide)

/-- A frame with one header and a second carriage return. -/
def sound : Framed where
  headers := [⟨"Content-Length: 4\r".toList, by decide, 'C', by decide⟩]
  returns := 2
  body := encode "true".toList
  numeric := by
    refine List.forall_mem_singleton.2 fun _ => ⟨4, " 4\r".toList, rfl, ?_⟩
    rw [show trim " 4\r".toList = Nat.toDigits 10 4 by decide]
    exact numeral_toDigits (by decide)
  announced := by
    refine ⟨[], _, [], rfl, ⟨" 4\r".toList, rfl, ?_⟩, nofun⟩
    rw [show trim " 4\r".toList = Nat.toDigits 10 4 by decide]
    exact numeral_toDigits (by decide)

theorem spoilt_then_sound :
    let channel : Channel := { input := [spoilt, sound].flatMap Framed.bytes ++ [67, 111] }
    (∃ next, channel.read = (.error .badJson, next) ∧
        next.input = sound.bytes ++ [67, 111]) ∧
      ∃ last, Channel.readMany true 2 channel = ([.error .badJson, .ok (.bool true)], last) ∧
        last.input = [67, 111] := by
  intro channel
  have hspoilt : (decode? spoilt.body).bind Json.parse? = none := by decide +kernel
  have hsound : (decode? sound.body).bind Json.parse? = some (.bool true) := rfl
  obtain ⟨next, hread, hnext, -⟩ :=
    (framed_read channel (sound.bytes ++ [67, 111])).1 spoilt (by simp [channel])
  obtain ⟨last, hmany, hlast, -⟩ := (framed_read channel [67, 111]).2 [spoilt, sound] rfl
  simp only [List.map_cons, List.map_nil, hspoilt, hsound] at hmany
  rw [hspoilt] at hread
  exact ⟨⟨next, hread, hnext⟩, last, hmany, hlast⟩

end TabTools.Wire
