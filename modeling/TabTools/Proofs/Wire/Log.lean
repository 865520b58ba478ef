import Mathlib.Data.List.Basic
import Mathlib.Data.List.Induction
import TabTools.Proofs.Json.OneLine
import TabTools.Proofs.Text.Lines
import TabTools.Proofs.Wire.RoundTrip
import TabTools.Wire.Call

/-!
# What a channel logs

**Tracing** (`tracingAfter`). After some traffic tracing is on or off as the last switch has it, and
as it was at first if there was none. `tracedMessages` are the messages that pass while it is on.

**Theorem (`Channel.log_callAll`).** Whatever calls are made on a channel, and whichever of them
fail, its log grows by one line for each of these messages, in the order of the calls.

**Lines** (`lines_logText`). The text of a message has no line feed and no carriage return, so the
lines of what was added are one to one with the messages.
-/

namespace TabTools.Wire

/-! ## Tracing -/

def Traffic.switch? : Traffic → Option Bool
  | .setTrace on => some on
  | .message _ _ => none

/-- Whether tracing is on after some traffic, given whether it is on at first. -/
def tracingAfter (trace : Bool) (traffic : List Traffic) : Bool :=
  (traffic.filterMap Traffic.switch?).getLast?.getD trace

/-- The message that is passed on, if any is, while tracing is on. -/
def Traffic.traced? (tracing : Bool) : Traffic → Option (Flow × Json)
  | .message flow m => if tracing then some (flow, m) else none
  | .setTrace _ => none

/-- The messages that are passed on while tracing is on. -/
def tracedMessages (trace : Bool) (traffic : List Traffic) : List (Flow × Json) :=
  traffic.zipIdx.filterMap fun entry =>
    entry.1.traced? (tracingAfter trace (traffic.take entry.2))

variable {trace : Bool}

theorem tracingAfter_append (trace : Bool) (early late : List Traffic) :
    tracingAfter trace (early ++ late) = tracingAfter (tracingAfter trace early) late := by
  simp only [tracingAfter, List.filterMap_append, List.getLast?_append]
  cases (late.filterMap Traffic.switch?).getLast? <;> rfl

theorem tracedMessages_concat (trace : Bool) (early : List Traffic) (entry : Traffic) :
    tracedMessages trace (early ++ [entry]) =
      tracedMessages trace early ++ (entry.traced? (tracingAfter trace early)).toList := by
  have hearly : ∀ pair ∈ early.zipIdx,
      pair.1.traced? (tracingAfter trace ((early ++ [entry]).take pair.2)) =
        pair.1.traced? (tracingAfter trace (early.take pair.2)) := by
    rintro ⟨other, i⟩ hmem
    obtain ⟨-, hi, -⟩ := List.mem_zipIdx hmem
    rw [List.take_append_of_le_length (by omega)]
  rw [tracedMessages, List.zipIdx_append, List.filterMap_append, List.filterMap_congr hearly]
  simp only [tracedMessages, Nat.zero_add, List.zipIdx_singleton, List.filterMap_cons,
    List.filterMap_nil, List.take_left]
  cases entry.traced? (tracingAfter trace early) <;> rfl

theorem tracedMessages_append (trace : Bool) (early late : List Traffic) :
    tracedMessages trace (early ++ late) =
      tracedMessages trace early ++ tracedMessages (tracingAfter trace early) late := by
  induction late using List.reverseRecOn with
  | nil => simp [tracedMessages]
  | append_singleton late entry ih =>
    rw [← List.append_assoc, tracedMessages_concat, ih, tracedMessages_concat, tracingAfter_append,
      List.append_assoc]

theorem tracedMessages_setTrace (trace on : Bool) (early late : List Traffic) :
    tracedMessages trace (early ++ .setTrace on :: late) =
      tracedMessages trace early ++ tracedMessages on late := by
  rw [tracedMessages_append, ← List.singleton_append, tracedMessages_append]
  rfl

/-- While nothing switches tracing off, all messages are traced. -/
theorem tracedMessages_of_on {traffic : List Traffic}
    (stays : ∀ entry ∈ traffic, entry ≠ .setTrace false) :
    tracedMessages true traffic = traffic.filterMap (Traffic.traced? true) := by
  induction traffic with
  | nil => rfl
  | cons entry traffic ih =>
    have hrest := ih fun other hmem => stays other (List.mem_cons_of_mem _ hmem)
    have hon : tracingAfter true [entry] = true := by
      cases entry with
      | message flow m => rfl
      | setTrace on =>
        cases on with
        | true => rfl
        | false => exact absurd rfl (stays _ (.head _))
    rw [← List.singleton_append, tracedMessages_append, hon, hrest, List.filterMap_append]
    rfl

/-! ## Logs -/

/-- The log line of a message, up to its line feed. -/
def lineText : Flow × Json → List Char
  | (.inbound, m) => "<- ".toList ++ m.render
  | (.outbound, m) => "-> ".toList ++ m.render

/-- The lines that messages are logged with. -/
def logText (messages : List (Flow × Json)) : List Char :=
  messages.flatMap fun message => lineText message ++ ['\n']

theorem messageLine_eq (flow : Flow) (m : Json) :
    messageLine flow m = lineText (flow, m) ++ ['\n'] := by
  cases flow <;> rfl

theorem logText_append (xs ys : List (Flow × Json)) :
    logText (xs ++ ys) = logText xs ++ logText ys := List.flatMap_append

theorem traceAfter_eq (trace : Bool) (traffic : List Traffic) :
    traceAfter trace traffic = tracingAfter trace traffic := by
  induction traffic generalizing trace with
  | nil => rfl
  | cons entry traffic ih =>
    rw [← List.singleton_append, tracingAfter_append, ← ih]
    cases entry <;> rfl

/-- **The log of traffic** has a line for each message that passes while tracing is on. -/
theorem logLines_eq (trace : Bool) (traffic : List Traffic) :
    logLines trace traffic = logText (tracedMessages trace traffic) := by
  induction traffic generalizing trace with
  | nil => rfl
  | cons entry traffic ih =>
    rw [← List.singleton_append, tracedMessages_append, logText_append, ← ih]
    cases entry with
    | setTrace on => rfl
    | message flow m =>
      have hline : logText (tracedMessages trace [.message flow m]) =
          if trace then messageLine flow m else [] := by
        cases trace with
        | false => rfl
        | true => exact (List.flatMap_singleton _ _).trans (messageLine_eq flow m).symm
      rw [hline]
      rfl

theorem logLines_append (trace : Bool) (early late : List Traffic) :
    logLines trace (early ++ late) =
      logLines trace early ++ logLines (traceAfter trace early) late := by
  rw [logLines_eq, logLines_eq, logLines_eq, tracedMessages_append, traceAfter_eq, logText_append]

/-! ## Lines -/

theorem plain_lineText (message : Flow × Json) : Text.Plain (lineText message) := by
  obtain ⟨flow, m⟩ := message
  cases flow <;> simp [lineText, Json.plain_render m]

/-- A text without control characters is a line of its own. -/
theorem lines_cons_of_plain {text : List Char} (h : Text.Plain text) (rest : List Char) :
    Text.lines (text ++ '\n' :: rest) = text :: Text.lines rest := by
  have hreturn : Text.dropReturn text = text := by
    refine if_neg fun hlast => ?_
    exact h.not_mem (by decide) (List.mem_of_getLast? hlast)
  rw [Text.lines_cons (h.not_mem (by decide)), hreturn]

/-- **Lines are one to one with messages.** -/
theorem lines_logText (messages : List (Flow × Json)) :
    Text.lines (logText messages) = messages.map lineText := by
  induction messages with
  | nil => rfl
  | cons message messages ih =>
    rw [logText, List.flatMap_cons, ← logText, List.append_assoc, List.singleton_append,
      lines_cons_of_plain (plain_lineText message), ih, List.map_cons]

/-! ## Calls -/

/-- The bytes that a call writes. -/
def Call.bytes : Call → List UInt8
  | .write m none => frameBody (Text.encode m.render)
  | .write m (some count) => (frameBody (Text.encode m.render)).take count
  | _ => []

namespace Channel

/-- What calls leave behind that amount to some traffic and write some bytes. -/
structure Called (channel : Channel) (passed : List Traffic) (written : List UInt8)
    (next : Channel) : Prop where
  log : next.log = channel.log.map (· ++ logLines channel.trace passed)
  trace : next.trace = traceAfter channel.trace passed
  output : next.output = channel.output ++ written

theorem Called.refl (channel : Channel) : channel.Called [] [] channel where
  log := by simp [logLines]
  trace := rfl
  output := (List.append_nil _).symm

theorem Called.trans {channel next last : Channel} {passed more : List Traffic}
    {written rest : List UInt8} (h : channel.Called passed written next)
    (h' : next.Called more rest last) :
    channel.Called (passed ++ more) (written ++ rest) last where
  log := by
    rw [h'.log, h.log, h.trace, Option.map_map, logLines_append]
    simp [Function.comp_def]
  trace := by rw [h'.trace, h.trace, traceAfter_eq, traceAfter_eq, traceAfter_eq, tracingAfter_append]
  output := by rw [h'.output, h.output, List.append_assoc]

theorem called_traced (channel : Channel) (flow : Flow) (m : Json) :
    channel.Called [.message flow m] [] (channel.traced flow m) where
  log := by
    unfold traced
    cases channel.trace <;> simp [logLines]
  trace := by
    unfold traced
    split <;> rfl
  output := by simp

theorem called_read (channel : Channel) :
    channel.Called (channel.call (.read none)).1.toList [] (channel.call (.read none)).2 := by
  obtain ⟨⟨result, rest⟩, hread⟩ : ∃ taken, Wire.read channel.input = taken := ⟨_, rfl⟩
  have hinput : channel.Called [] [] { channel with input := rest } :=
    ⟨(Called.refl channel).log, rfl, (Called.refl channel).output⟩
  rw [call, read, hread]
  cases result with
  | error e => exact hinput
  | ok m => exact hinput.trans (called_traced _ .inbound m)

/-- **One call** logs the message that it passes on. -/
theorem called_call (channel : Channel) (call : Call) :
    channel.Called (channel.call call).1.toList call.bytes (channel.call call).2 := by
  cases call with
  | read fails =>
    cases fails with
    | none => exact called_read channel
    | some count => exact ⟨(Called.refl channel).log, rfl, (Called.refl channel).output⟩
  | setTrace on => exact ⟨(Called.refl channel).log, rfl, (Called.refl channel).output⟩
  | write m fails =>
    obtain ⟨hlog, htrace, -⟩ := called_traced channel .outbound m
    cases fails with
    | none => exact ⟨hlog, htrace, output_write channel m⟩
    | some count => exact ⟨hlog, htrace, by simp [Channel.call, Call.bytes, frame]⟩

/-- **Calls** log the messages that they pass on, in their order. -/
theorem called_callAll (channel : Channel) (calls : List Call) :
    channel.Called (channel.callAll calls).1 (calls.flatMap Call.bytes)
      (channel.callAll calls).2 := by
  induction calls generalizing channel with
  | nil => exact .refl channel
  | cons first calls ih => exact (called_call channel first).trans (ih _)

/-- **The log agrees with the wire.** Whatever calls are made on a channel that logs to a file, the
file grows by one line for every message that was read or was to be written while tracing was on. -/
theorem log_callAll {channel : Channel} {file : List Char} (logs : channel.log = some file)
    (calls : List Call) :
    (channel.callAll calls).2.log =
      some (file ++ logText (tracedMessages channel.trace (channel.callAll calls).1)) := by
  rw [(channel.called_callAll calls).log, logs, logLines_eq]
  rfl

end Channel

end TabTools.Wire
