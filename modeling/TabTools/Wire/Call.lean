import TabTools.Wire.Traffic

/-!
# Calls on a channel

A channel is used call by call, and the streams beneath it may fail in any of them. Then some bytes
were taken off the input, or have reached the output, and the next call goes on from there.

A message that is read is logged once all of it was read. One that is written is logged before its
bytes are, so its line is in the log also when the write fails.
-/

namespace TabTools.Wire

inductive Call where
  /-- Reads a message, from an input that may fail after some bytes. -/
  | read (fails : Option Nat)
  /-- Writes a message, to an output that may fail after some bytes of the frame. -/
  | write (message : Json) (fails : Option Nat)
  | setTrace (on : Bool)

namespace Channel

/-- The traffic that a call amounts to, if any, and the channel after it. -/
def call (channel : Channel) : Call → Option Traffic × Channel
  | .read none =>
    match channel.read with
    | (.ok m, channel) => (some (.message .inbound m), channel)
    | (.error _, channel) => (none, channel)
  | .read (some count) => (none, { channel with input := channel.input.drop count })
  | .write m none => (some (.message .outbound m), channel.write m)
  | .write m (some count) =>
    let channel := channel.traced .outbound m
    (some (.message .outbound m), { channel with output := channel.output ++ (frame m).take count })
  | .setTrace on => (some (.setTrace on), channel.setTrace on)

/-- Makes calls one after the other. -/
def callAll (channel : Channel) : List Call → List Traffic × Channel
  | [] => ([], channel)
  | call :: rest =>
    let (passed, channel) := channel.call call
    let (more, channel) := channel.callAll rest
    (passed.toList ++ more, channel)

end Channel

end TabTools.Wire
