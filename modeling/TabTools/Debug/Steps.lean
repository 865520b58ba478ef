import TabTools.Debug.Run
import TabTools.Schedule

/-!
# A session among arriving events

In a turn of `Run.serve` the events of the tab server arrive at one moment. The threads of the tab
server know nothing of turns, they queue an event whenever something happens. `Step` lists what a
session does without being interrupted; between any two of its steps events may be queued:

* before it reads, and again after it has carried out a request, a session takes events from the
  queue one by one until it finds the queue empty, and then reports those it has taken;
* it reads a message, and passes over what is no well-formed request;
* it carries out a request act by act. After a request to disconnect the session ends, once the
  events taken by then are reported. A request that crashes the program ends the session at once.

Every write succeeds. The events that were ever queued are kept for the record.
-/

namespace TabTools.Debug.Steps

/-- What a session turns to when it has reported events. -/
inductive Ahead where
  /-- The next message. -/
  | reading
  /-- The next turn, which starts by taking events again. -/
  | turn
  /-- Nothing, the client has disconnected. -/
  | leaving
deriving DecidableEq, Repr

/-- Where a session is. -/
inductive Stage where
  /-- Takes events from the queue. -/
  | taking (taken : List Link.Event) (ahead : Ahead)
  /-- Reports the events it has taken. -/
  | reporting (left : List Link.Event) (ahead : Ahead)
  /-- About to read a message. -/
  | reading
  /-- Carries out a request. -/
  | handling (req : Request) (left : List Act)
  | ended (outcome : Outcome)

/-- The beginning of a turn. -/
def Stage.opening : Stage := .taking [] .reading

def Ahead.stage : Ahead → Stage
  | .reading => .reading
  | .turn => .opening
  | .leaving => .ended .disconnected

/-- What is ahead once a request has been carried out. -/
def Ahead.after (req : Request) : Ahead :=
  if req.command = "disconnect" then .leaving else .turn

structure State where
  run : Run
  stage : Stage := .opening
  /-- All events that were queued so far, oldest first. -/
  queued : List Link.Event := []

/-- A fresh session. -/
def State.start (link : Link) : State := { run := Run.start link }

/-- What the tab server or the session does at a time. -/
inductive Move where
  | queue (event : Link.Event)
  | take
  | allTaken
  | report
  | allReported
  | readNothing (cause : Wire.ReadError)
  | passOver (message : Json)
  | hear (message : Json) (files : Files.View)
  | crash (message : Json) (files : Files.View)
  | act
  | allDone

inductive Step : State → Move → State → Prop
  | queue {s : State} (event : Link.Event) :
      Step s (.queue event)
        { s with
          run := { s.run with queue := s.run.queue ++ [event] }
          queued := s.queued ++ [event] }
  | take {s : State} {taken rest : List Link.Event} {ahead : Ahead} {event : Link.Event}
      (turn : s.stage = .taking taken ahead) (next : s.run.queue = event :: rest) :
      Step s .take
        { s with run := { s.run with queue := rest }, stage := .taking (taken ++ [event]) ahead }
  | allTaken {s : State} {taken : List Link.Event} {ahead : Ahead}
      (turn : s.stage = .taking taken ahead) (empty : s.run.queue = []) :
      Step s .allTaken { s with stage := .reporting taken ahead }
  | report {s : State} {event : Link.Event} {left : List Link.Event} {ahead : Ahead}
      (turn : s.stage = .reporting (event :: left) ahead) :
      Step s .report
        { s with
          run := (s.run.perform Faults.none [(s.run.session.sayLine event.line).2]).1
          stage := .reporting left ahead }
  | allReported {s : State} {ahead : Ahead} (turn : s.stage = .reporting [] ahead) :
      Step s .allReported { s with stage := ahead.stage }
  | readNothing {s : State} (cause : Wire.ReadError) (turn : s.stage = .reading) :
      Step s (.readNothing cause) { s with stage := .ended (.readFailed cause) }
  | passOver {s : State} {message : Json} (turn : s.stage = .reading)
      (other : Run.request? message = none) :
      Step s (.passOver message)
        { s with
          run := { s.run with entries := s.run.entries ++ [.received message] }
          stage := .opening }
  | hear {s : State} {message : Json} {req : Request} (files : Files.View)
      (turn : s.stage = .reading) (asks : Run.request? message = some req)
      (sound : s.run.session.plan files req ≠ .error .panic) :
      Step s (.hear message files)
        { s with
          run := { s.run with entries := s.run.entries ++ [.received message] }
          stage := .handling req (s.run.session.reaction files req) }
  | crash {s : State} {message : Json} {req : Request} (files : Files.View)
      (turn : s.stage = .reading) (asks : Run.request? message = some req)
      (panics : s.run.session.plan files req = .error .panic) :
      Step s (.crash message files)
        { s with
          run := { s.run with entries := s.run.entries ++ [.received message] }
          stage := .ended .panicked }
  | act {s : State} {req : Request} {first : Act} {left : List Act}
      (turn : s.stage = .handling req (first :: left)) :
      Step s .act
        { s with run := (s.run.perform Faults.none [first]).1, stage := .handling req left }
  | allDone {s : State} {req : Request} (turn : s.stage = .handling req []) :
      Step s .allDone { s with stage := .taking [] (.after req) }

/-- Moves in the order of some interleaving. -/
abbrev Schedule := TabTools.Schedule Step

/-- The states that can come about. -/
def Reachable (link : Link) (s : State) : Prop := ∃ moves, Schedule (.start link) moves s

end TabTools.Debug.Steps
