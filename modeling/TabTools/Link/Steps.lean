import TabTools.Link.Event
import TabTools.Link.Stream
import TabTools.Schedule

/-!
# The tab server as a step relation

The server runs an acceptor, one reader for every player it has taken, and whoever closes it, all at
the same time. `Step` lists what each of them does without being interrupted:

* the acceptor tests the closed flag, accepts a connection, locks the slot and either refuses the
  connection or installs it under a fresh identifier, then announces it and starts its reader;
* a reader handles a line, or comes to the end of its stream, locks the slot and clears it if it
  still holds a connection with the reader's identifier, then reports the end;
* closing sets the flag, takes and shuts down the connection in the slot, and waits for the
  acceptor to finish. Closing again does nothing.

Connections are numbered as they are accepted. Identifiers are given to the installed ones only; any
identifier that was not given before may be. Threads start, and sockets do what they are told.
-/

namespace TabTools.Link.Steps

/-- A connection that was installed, under its identifier. -/
structure Live where
  id : String
  connection : Nat
deriving DecidableEq, Repr

/-- Where the acceptor is. -/
inductive Acceptor where
  /-- About to test the closed flag. -/
  | testing
  /-- The flag was clear; about to accept. -/
  | waiting
  /-- Has accepted a connection and is about to lock the slot. -/
  | holding (connection : Nat) (peer : String)
  /-- Has installed a connection and is about to announce it. -/
  | announcing (live : Live) (peer : String)
  /-- Has announced a connection and is about to start its reader. -/
  | starting (live : Live)
  | finished
deriving DecidableEq, Repr

/-- Where the reader of a connection is. -/
inductive Stage where
  | absent
  | reading
  /-- At the end of its stream, about to lock the slot. -/
  | clearing
  /-- Done with the slot, about to report the end. -/
  | reporting
  | done
deriving DecidableEq, Repr

/-- Where closing is. -/
inductive Closer where
  | idle
  | flagged
  | taken
  | returned
deriving DecidableEq, Repr

structure State where
  closed : Bool := false
  /-- The live connection. -/
  slot : Option Live := none
  acceptor : Acceptor := .testing
  readers : Live → Stage := fun _ => .absent
  closer : Closer := .idle
  /-- All events so far, oldest first. -/
  channel : List Event := []
  /-- How many connections have been accepted. -/
  accepted : Nat := 0
  /-- The connections that were installed, oldest first. -/
  installed : List Live := []
  refused : List Nat := []
  /-- Connections that closing has shut down. -/
  shut : List Nat := []
  /-- Connections whose stream has come to its end. -/
  ended : List Nat := []

/-- The server before anything has happened. -/
def State.start : State := {}

def State.setReader (s : State) (live : Live) (stage : Stage) : State :=
  { s with readers := fun other => if other = live then stage else s.readers other }

def State.send (s : State) (events : List Event) : State :=
  { s with channel := s.channel ++ events }

/-- What the acceptor, a reader or closing does at a time. -/
inductive Move where
  | test
  /-- Nobody is there to be accepted. -/
  | idle
  | accept (peer : String)
  | refuse
  | install (id : String)
  | announce
  | startReader
  | line (live : Live) (text : List Char)
  | endOfStream (live : Live)
  | clear (live : Live)
  | report (live : Live)
  | setFlag
  | takeLive
  | join
  | closeAgain
deriving DecidableEq, Repr

inductive Step : State → Move → State → Prop
  | testOpen {s : State} (turn : s.acceptor = .testing) (clear : s.closed = false) :
      Step s .test { s with acceptor := .waiting }
  | testClosed {s : State} (turn : s.acceptor = .testing) (set : s.closed = true) :
      Step s .test { s with acceptor := .finished }
  | idle {s : State} (turn : s.acceptor = .waiting) :
      Step s .idle { s with acceptor := .testing }
  | accept {s : State} (peer : String) (turn : s.acceptor = .waiting) :
      Step s (.accept peer)
        { s with acceptor := .holding s.accepted peer, accepted := s.accepted + 1 }
  | refuse {s : State} {c : Nat} {peer : String} {other : Live}
      (turn : s.acceptor = .holding c peer) (occupied : s.slot = some other) :
      Step s .refuse { s with acceptor := .testing, refused := s.refused ++ [c] }
  | install {s : State} {c : Nat} {peer : String} (id : String)
      (turn : s.acceptor = .holding c peer) (free : s.slot = none)
      (fresh : ∀ live ∈ s.installed, live.id ≠ id) :
      Step s (.install id)
        { s with
          acceptor := .announcing ⟨id, c⟩ peer
          slot := some ⟨id, c⟩
          installed := s.installed ++ [⟨id, c⟩] }
  | announce {s : State} {live : Live} {peer : String}
      (turn : s.acceptor = .announcing live peer) :
      Step s .announce (({ s with acceptor := .starting live }).send [.connected live.id peer])
  | startReader {s : State} {live : Live} (turn : s.acceptor = .starting live) :
      Step s .startReader (({ s with acceptor := .testing }).setReader live .reading)
  | line {s : State} {live : Live} (text : List Char) (turn : s.readers live = .reading) :
      Step s (.line live text) (s.send ((lineMessage? text).toList.map (.message live.id)))
  | endOfStream {s : State} {live : Live} (turn : s.readers live = .reading) :
      Step s (.endOfStream live)
        (({ s with ended := s.ended ++ [live.connection] }).setReader live .clearing)
  | clearOwn {s : State} {live held : Live} (turn : s.readers live = .clearing)
      (holds : s.slot = some held) (own : held.id = live.id) :
      Step s (.clear live) (({ s with slot := none }).setReader live .reporting)
  | clearOther {s : State} {live : Live} (turn : s.readers live = .clearing)
      (other : ∀ held, s.slot = some held → held.id ≠ live.id) :
      Step s (.clear live) (s.setReader live .reporting)
  | report {s : State} {live : Live} (turn : s.readers live = .reporting) :
      Step s (.report live) ((s.send [.disconnected live.id]).setReader live .done)
  | setFlag {s : State} (turn : s.closer = .idle) :
      Step s .setFlag { s with closed := true, closer := .flagged }
  | takeLive {s : State} (turn : s.closer = .flagged) :
      Step s .takeLive
        { s with
          slot := none
          shut := s.shut ++ s.slot.toList.map Live.connection
          closer := .taken }
  | join {s : State} (turn : s.closer = .taken) (stopped : s.acceptor = .finished) :
      Step s .join { s with closer := .returned }
  | closeAgain {s : State} (turn : s.closer = .returned) : Step s .closeAgain s

/-- Moves in the order of some interleaving. -/
abbrev Schedule := TabTools.Schedule Step

/-- The states that can come about. -/
def Reachable (s : State) : Prop := ∃ moves, Schedule .start moves s

end TabTools.Link.Steps
