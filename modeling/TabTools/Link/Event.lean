import TabTools.Link.Message

/-!
# Events of the tab server

Everything that happens on the tab server is reported as an event: a player connects, sends a
message, and disconnects. A connection has an identifier of its own, which is never given to another
connection.
-/

namespace TabTools.Link

inductive Event where
  | connected (id peer : String)
  | disconnected (id : String)
  | message (id : String) (message : Message)
deriving Repr

/-- The event in words. -/
def Event.line : Event → String
  | .connected id peer => s!"player {peer} connected ({id})"
  | .disconnected id => s!"player disconnected ({id})"
  | .message id m => "player message `" ++ m.kind ++ "` (" ++ id ++ "): " ++ m.data.text

/-- Why the tab server cannot send a message. -/
inductive SendError where
  | noRuntime
  | closed
deriving DecidableEq, Repr

def SendError.message : SendError → String
  | .noRuntime => "no runtime connected to the tab server"
  | .closed => "tab server is closed"

end TabTools.Link
