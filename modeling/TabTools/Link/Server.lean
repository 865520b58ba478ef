import TabTools.Link.Event
import TabTools.Link.Stream

/-!
# The tab server and its players

The tab server takes one player at a time. Another player who connects meanwhile is let in by the
socket and put out at once, without an event. Closing the server ends the live connection; from then
on no player gets in and nothing can be sent.

An `Exchange` is a server together with its players, acting one after another: each action is
carried through to the events it causes before the next one starts.
-/

namespace TabTools.Link

/-- A player's end of a connection. -/
structure Player where
  name : String
  /-- The identifier of the connection, if the server has taken it. -/
  id : Option String
  reader : Reader := {}
  /-- What the server has sent and the player has not read. -/
  inbox : List UInt8 := []

structure Exchange where
  /-- Whether players can reach the server's address at all. -/
  reachable : Bool := true
  closed : Bool := false
  /-- The identifier of the live connection. -/
  live : Option String := none
  /-- How many connections have been taken. -/
  taken : Nat := 0
  players : List Player := []
  /-- Events that have not been looked at, oldest first. -/
  events : List Event := []

/-- What a player can do. -/
inductive PlayerAction where
  | connect
  | write (bytes : List UInt8)
  /-- Ends the player's own stream. -/
  | halfClose
  | hangUp
  | readLine
  /-- Reads to the end of what the server sends. -/
  | readToEnd
deriving DecidableEq, Repr

/-- What a player's action gives. -/
inductive PlayerAnswer where
  | done
  | refused
  | noSuchPlayer
  | line (bytes : List UInt8)
  | rest (bytes : List UInt8)
deriving DecidableEq, Repr

namespace Exchange

/-- The identifier of the `n`-th connection. -/
def connectionId (n : Nat) : String := s!"<id{n}>"

def player? (x : Exchange) (name : String) : Option Player :=
  x.players.find? fun p => p.name == name

def putPlayer (x : Exchange) (p : Player) : Exchange :=
  { x with players := x.players.filter (fun q => q.name != p.name) ++ [p] }

def dropPlayer (x : Exchange) (name : String) : Exchange :=
  { x with players := x.players.filter fun q => q.name != name }

def emit (x : Exchange) (events : List Event) : Exchange :=
  { x with events := x.events ++ events }

/-- A player connects. -/
def connect (x : Exchange) (name : String) : PlayerAnswer × Exchange :=
  if x.closed || !x.reachable then (.refused, x)
  else if x.live.isSome then (.done, x.putPlayer { name, id := none, reader := ⟨[], true⟩ })
  else
    let id := connectionId x.taken
    let x := { x with live := some id, taken := x.taken + 1 }
    (.done, (x.putPlayer { name, id := some id }).emit [.connected id s!"<{name}>"])

/-- The reader of a connection has come to its end: the connection is no longer live, and its end is
reported. -/
def endReader (x : Exchange) (id : String) : Exchange :=
  let x := if x.live = some id then { x with live := none } else x
  x.emit [.disconnected id]

/-- Bytes from a player arrive. -/
def receive (x : Exchange) (p : Player) (bytes : List UInt8) : Exchange :=
  match p.id with
  | none => x
  | some id =>
    if p.reader.ended then x
    else
      let (found, reader) := p.reader.feed bytes
      let x := (x.putPlayer { p with reader }).emit (found.map (.message id))
      if reader.ended then x.endReader id else x

/-- The stream of a player ends. -/
def finish (x : Exchange) (p : Player) : Exchange :=
  match p.id with
  | none => x
  | some id =>
    if p.reader.ended then x
    else
      let (found, reader) := p.reader.finish
      ((x.putPlayer { p with reader }).emit (found.map (.message id))).endReader id

/-- A player acts. -/
def act (x : Exchange) (name : String) : PlayerAction → PlayerAnswer × Exchange
  | .connect => x.connect name
  | .hangUp =>
    match x.player? name with
    | none => (.done, x)
    | some p => (.done, (x.finish p).dropPlayer name)
  | .write bytes =>
    match x.player? name with
    | none => (.noSuchPlayer, x)
    | some p => (.done, x.receive p bytes)
  | .halfClose =>
    match x.player? name with
    | none => (.noSuchPlayer, x)
    | some p => (.done, x.finish p)
  | .readLine =>
    match x.player? name with
    | none => (.noSuchPlayer, x)
    | some p =>
      let line := p.inbox.takeWhile (· != 10)
      (.line line, x.putPlayer { p with inbox := p.inbox.drop (line.length + 1) })
  | .readToEnd =>
    match x.player? name with
    | none => (.noSuchPlayer, x)
    | some p => (.rest p.inbox, x.putPlayer { p with inbox := [] })

/-- The server sends a message to the live player. -/
def send (x : Exchange) (m : Message) : Except SendError Exchange :=
  if x.closed then .error .closed
  else
    match x.live with
    | none => .error .noRuntime
    | some id =>
      .ok { x with players := x.players.map fun p =>
              if p.id = some id then { p with inbox := p.inbox ++ m.wire } else p }

/-- The server closes. Only the first time does anything. -/
def close (x : Exchange) : Exchange :=
  if x.closed then x
  else
    let x := { x with closed := true }
    match x.live.bind fun id => x.players.find? fun p => p.id == some id with
    | none => { x with live := none }
    | some p => ({ x with live := none }).finish p

/-- Takes the next `n` events. -/
def takeEvents (x : Exchange) (n : Nat) : List Event × Exchange :=
  (x.events.take n, { x with events := x.events.drop n })

end Exchange

end TabTools.Link
