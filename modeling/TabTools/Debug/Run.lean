import TabTools.Debug.Plan
import TabTools.Link.Event
import TabTools.Wire.Traffic

/-!
# Running a session

A session is served one inbound message at a time. In every turn (`serve`) the events of the tab
server that are queued are reported, the next message is read, and if it is a well-formed request it
is carried out and answered; then the events that arrived meanwhile are reported too. Anything else
that arrives is passed over.

A request that is refused, or whose plan fails at a write, is answered with a failure; the session
goes on. The session ends with the request to disconnect, or when a message cannot be read or an
answer to a failure cannot be written. A request that crashes the program ends it at once.

Writes may fail. Which do is given by `Faults`: for the number of each write, the error it fails
with, if it does. Messages are numbered by the attempts to write them.
-/

namespace TabTools.Debug

/-- The error that each write fails with, by the number of the write, counted from one. -/
abbrev Faults := Nat → Option String

/-- Every write succeeds. -/
def Faults.none : Faults := fun _ => Option.none

/-- What happened on the transport. -/
inductive Entry where
  | received (message : Json)
  | traceOn
  /-- An attempt to write. -/
  | sent (seq : Nat) (message : Message) (delivered : Bool)

structure Run where
  session : Session
  /-- The number of the next message. -/
  nextSeq : Nat := 1
  /-- All that happened so far, oldest first. -/
  entries : List Entry := []
  /-- Events of the tab server that have not been reported. -/
  queue : List Link.Event := []

/-- One turn of the world: what the next read gives, the files there are while it is dealt with,
and the events that the tab server queues meanwhile. -/
structure Turn where
  inbound : Except Wire.ReadError Json
  files : Files.View
  arrivals : List Link.Event := []

/-- How a turn or a session ended. -/
inductive Outcome where
  | goOn
  | disconnected
  | readFailed (cause : Wire.ReadError)
  | writeFailed (cause : String)
  /-- The program crashed. -/
  | panicked

namespace Run

/-- Attempts to write a message. -/
def write (run : Run) (faults : Faults) (after : Session) (message : Message) :
    Run × Option String :=
  let failure := faults run.nextSeq
  ({ run with
      session := after
      nextSeq := run.nextSeq + 1
      entries := run.entries ++ [.sent run.nextSeq message failure.isNone] },
    failure)

/-- Performs acts until one fails; the failure, if there was one, comes with the result. -/
def perform (faults : Faults) : Run → List Act → Run × Option String
  | run, [] => (run, none)
  | run, .traceOn :: rest =>
    perform faults { run with entries := run.entries ++ [.traceOn] } rest
  | run, .write after message :: rest =>
    match run.write faults after message with
    | (run, none) => perform faults run rest
    | (run, some failure) => (run, some failure)

/-- Answers a request with a failure. -/
def fail (run : Run) (faults : Faults) (req : Request) (reason : String) : Run × Outcome :=
  match run.write faults run.session (.failure req.answered reason) with
  | (run, none) => (run, .goOn)
  | (run, some failure) => (run, .writeFailed failure)

/-- Carries out a request. -/
def handle (run : Run) (faults : Faults) (files : Files.View) (req : Request) : Run × Outcome :=
  match run.session.plan files req with
  | .error (.refused after why) => ({ run with session := after }).fail faults req why.message
  | .error .panic => (run, .panicked)
  | .ok acts =>
    match run.perform faults acts with
    | (run, some failure) => run.fail faults req failure
    | (run, none) => (run, if req.command = "disconnect" then .disconnected else .goOn)

/-- The plan for reporting events. -/
def reportActs : Session → List Link.Event → List Act
  | _, [] => []
  | s, event :: rest =>
    let (after, say) := s.sayLine event.line
    say :: reportActs after rest

/-- Reports the queued events. -/
def drain (run : Run) (faults : Faults) : Run × Option String :=
  ({ run with queue := [] }).perform faults (reportActs run.session run.queue)

/-- The request in an inbound message, if it is a well-formed one. -/
def request? (message : Json) : Option Request :=
  if (message.get? "type").bind Json.str? = some "request" then
    (Request.ofJson message).toOption
  else none

/-- Serves one turn. -/
def serve (run : Run) (faults : Faults) (turn : Turn) : Run × Outcome :=
  match run.drain faults with
  | (run, some failure) => (run, .writeFailed failure)
  | (run, none) =>
    let run := { run with queue := run.queue ++ turn.arrivals }
    match turn.inbound with
    | .error cause => (run, .readFailed cause)
    | .ok message =>
      let run := { run with entries := run.entries ++ [.received message] }
      match request? message with
      | none => (run, .goOn)
      | some req =>
        match run.handle faults turn.files req with
        | (run, .goOn) => afterwards (run.drain faults) .goOn
        | (run, .disconnected) => afterwards (run.drain faults) .disconnected
        | ended => ended
where
  /-- Events that arrived during the request are reported before the turn ends. -/
  afterwards (drained : Run × Option String) (outcome : Outcome) : Run × Outcome :=
    match drained with
    | (run, none) => (run, outcome)
    | (run, some failure) => (run, .writeFailed failure)

/-- Serves turns until the session ends. A session whose turns run out before that is still going
on. -/
def serveAll (faults : Faults) : Run → List Turn → Run × Outcome
  | run, [] => (run, .goOn)
  | run, turn :: rest =>
    match run.serve faults turn with
    | (run, .goOn) => serveAll faults run rest
    | ended => ended

/-- Serves reads one after the other, while every write succeeds, until the session ends. A read
that gives a message comes before the files are looked at. -/
def serveReads (files : List Entry → Files.View) :
    Run → List (Except Wire.ReadError Json) → Run × Outcome
  | run, [] => (run, .goOn)
  | run, inbound :: rest =>
    let seen := run.entries ++ inbound.toOption.toList.map Entry.received
    match run.serve Faults.none { inbound, files := files seen } with
    | (run, .goOn) => serveReads files run rest
    | ended => ended

end Run

/-- A fresh session. -/
def Run.start (link : Link) : Run := { session := { link } }

/-- The traffic that an entry amounts to. -/
def Entry.traffic : Entry → Wire.Traffic
  | .received m => .message .inbound m
  | .traceOn => .setTrace true
  | .sent seq m _ => .message .outbound (m.toJson seq)

/-- What a session does with a stream of framed messages. Its own traffic may change the files, when
it is logged to one of them: `files` gives those there are after what has happened so far. -/
def runStream (link : Link) (files : List Entry → Files.View) (bytes : List UInt8) :
    Run × Outcome :=
  let (messages, failure) := Wire.readAll bytes
  Run.serveReads files (.start link) (messages.map .ok ++ [.error failure])

end TabTools.Debug
