import TabTools.Wire.Frame

/-!
# Traffic and its log

A `Channel` reads framed messages from the bytes ahead of it and writes framed messages behind each
other. While tracing is on and there is a log, every message that was read and every message that is
written adds a line to the log: an arrow for the direction, then the compact text of the message,
which has no line break in it. Notes of the adapter are lines of their own, marked with `#`.
-/

namespace TabTools.Wire

/-- The direction of a message, seen from the adapter. -/
inductive Flow where
  | inbound
  | outbound
deriving DecidableEq, Repr

def Flow.mark : Flow → List Char
  | .inbound => ['<', '-']
  | .outbound => ['-', '>']

/-- The log line of a message. -/
def messageLine (flow : Flow) (message : Json) : List Char :=
  flow.mark ++ ' ' :: message.render ++ ['\n']

/-- The log line of a note. -/
def noteLine (text : List Char) : List Char := '#' :: ' ' :: text ++ ['\n']

/-- Something that a channel is used for. -/
inductive Traffic where
  | message (flow : Flow) (message : Json)
  | setTrace (on : Bool)

/-- The lines that traffic adds to a log, given whether tracing is on at first. -/
def logLines (trace : Bool) : List Traffic → List Char
  | [] => []
  | .setTrace on :: rest => logLines on rest
  | .message flow m :: rest =>
    (if trace then messageLine flow m else []) ++ logLines trace rest

/-- Whether tracing is on after traffic. -/
def traceAfter (trace : Bool) : List Traffic → Bool
  | [] => trace
  | .setTrace on :: rest => traceAfter on rest
  | .message _ _ :: rest => traceAfter trace rest

/-- The bytes that traffic writes. -/
def outputBytes : List Traffic → List UInt8
  | [] => []
  | .message .outbound m :: rest => frame m ++ outputBytes rest
  | _ :: rest => outputBytes rest

structure Channel where
  input : List UInt8 := []
  output : List UInt8 := []
  trace : Bool := false
  /-- What has been added to the log, oldest first; `none` without a log. -/
  log : Option (List Char) := none

namespace Channel

def traced (channel : Channel) (flow : Flow) (message : Json) : Channel :=
  if channel.trace then
    { channel with log := channel.log.map (· ++ messageLine flow message) }
  else channel

/-- Reads the next message. -/
def read (channel : Channel) : Except ReadError Json × Channel :=
  match Wire.read channel.input with
  | (.error e, rest) => (.error e, { channel with input := rest })
  | (.ok m, rest) => (.ok m, ({ channel with input := rest }).traced .inbound m)

def write (channel : Channel) (message : Json) : Channel :=
  let channel := channel.traced .outbound message
  { channel with output := channel.output ++ frame message }

def setTrace (channel : Channel) (on : Bool) : Channel := { channel with trace := on }

/-- Reads up to `count` messages. Reading ends at a failure; with `goOn` only at the end of the
input. -/
def readMany (goOn : Bool) : (count : Nat) → Channel → List (Except ReadError Json) × Channel
  | 0, channel => ([], channel)
  | count + 1, channel =>
    match channel.read with
    | (.ok m, channel) =>
      let (more, channel) := readMany goOn count channel
      (.ok m :: more, channel)
    | (.error e, channel) =>
      if goOn && e != .closed then
        let (more, channel) := readMany goOn count channel
        (.error e :: more, channel)
      else ([.error e], channel)

end Channel

theorem readHeaders_length (length : Option Nat) (bytes : List UInt8) (h : bytes ≠ []) :
    (readHeaders length bytes).2.length < bytes.length := by
  fun_induction readHeaders length bytes with
  | case1 => exact absurd rfl h
  | case2 length b rest line e he => exact takeLine_cons_length b rest
  | case3 length b rest line he => exact takeLine_cons_length b rest
  | case4 length b rest line size he ih =>
    by_cases hl : line.2 = []
    · simp [hl, readHeaders]
    · exact Nat.lt_trans (ih hl) (takeLine_cons_length b rest)
  | case5 length b rest line he ih =>
    by_cases hl : line.2 = []
    · simp [hl, readHeaders]
    · exact Nat.lt_trans (ih hl) (takeLine_cons_length b rest)

/-- Reading a message consumes something. -/
theorem read_length {bytes rest : List UInt8} {m : Json} (h : read bytes = (.ok m, rest)) :
    rest.length < bytes.length := by
  have ne : bytes ≠ [] := by
    rintro rfl
    simp [read, readHeaders] at h
  have shorter := readHeaders_length none bytes ne
  unfold read at h
  split at h
  · simp at h
  · simp at h
  · rename_i size after he
    rw [he] at shorter
    split at h
    · simp at h
    · simp only [Prod.mk.injEq] at h
      rw [← h.2, List.length_drop]
      simp only at shorter
      omega

/-- The messages of a stream up to the first failure, and that failure. A stream always ends in one:
at the latest, it is closed. -/
def readAll (bytes : List UInt8) : List Json × ReadError :=
  match _found : read bytes with
  | (.error e, _) => ([], e)
  | (.ok m, rest) =>
    let (more, e) := readAll rest
    (m :: more, e)
termination_by bytes.length
decreasing_by exact read_length _found

end TabTools.Wire
