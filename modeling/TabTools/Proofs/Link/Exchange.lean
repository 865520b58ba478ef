import TabTools.Link.Server
import TabTools.Proofs.Link.Players

/-!
# An exchange is an interleaving

An `Exchange` carries every action through before the next one starts. `Steps` cuts the same actions
into pieces and lets them interleave.

**Theorem (`exchange_scheduled`).** Whatever is done with an exchange, there is a schedule of the
step relation that leads to the same closed flag, the same live connection, the same identifiers and
the same events. So what holds of every state that can come about in steps holds of every exchange,
such as the order of the events about a connection (`exchange_events`).

The proof is a simulation. `Tracks` relates an exchange to a state in which the acceptor is between
two connections and every reader is at work or done; each action is matched by the moves it stands
for.
-/

namespace TabTools.Link

open Steps

/-! ## What is done with an exchange -/

/-- Something done with an exchange. -/
inductive Deed where
  | act (player : String) (action : PlayerAction)
  | send (message : Message)
  | close
  /-- Takes a number of events. -/
  | look (count : Nat)

namespace Exchange

/-- The events that a deed takes, and the exchange after it. -/
def perform (x : Exchange) : Deed → List Event × Exchange
  | .act name action => ([], (x.act name action).2)
  | .send message => ([], (x.send message).toOption.getD x)
  | .close => ([], x.close)
  | .look count => x.takeEvents count

/-- The events taken by deeds one after another, and the exchange in the end. -/
def performAll (x : Exchange) : List Deed → List Event × Exchange
  | [] => ([], x)
  | deed :: deeds =>
    let (taken, x) := x.perform deed
    let (later, x) := x.performAll deeds
    (taken ++ later, x)

theorem connectionId_injective : Function.Injective connectionId := by
  intro m n h
  have numerals : m.repr = n.repr := by simpa [connectionId] using h
  have read := congrArg (fun numeral => Nat.ofDigitChars 10 numeral.toList 0) numerals
  simpa [Nat.repr, Nat.ofDigitChars_toDigits] using read

theorem endReader_eq (x : Exchange) (id : String) :
    x.endReader id =
      { x with
        live := if x.live = some id then none else x.live
        events := x.events ++ [.disconnected id] } := by
  unfold endReader
  split <;> rfl

end Exchange

/-! ## Composing schedules -/

namespace Steps

variable {s t u : State}

theorem Reachable.schedule {moves : List Move} (h : Reachable s) (schedule : Schedule s moves t) :
    Reachable t := by
  obtain ⟨past, before⟩ := h
  exact ⟨past ++ moves, before.append schedule⟩

/-- A reader handles lines. -/
theorem schedule_lines {live : Live} (reading : s.readers live = .reading)
    (texts : List (List Char)) :
    Schedule s (texts.map (.line live))
      (s.send ((texts.filterMap lineMessage?).map (.message live.id))) := by
  induction texts generalizing s with
  | nil =>
    have same : s.send [] = s := by simp [State.send]
    simpa [same] using Schedule.nil
  | cons text texts ih =>
    have rest := ih (s := s.send ((lineMessage? text).toList.map (.message live.id))) reading
    refine .cons (.line text reading) ?_
    have same : (s.send ((lineMessage? text).toList.map (.message live.id))).send
        ((texts.filterMap lineMessage?).map (.message live.id)) =
        s.send (((text :: texts).filterMap lineMessage?).map (.message live.id)) := by
      cases found : lineMessage? text <;> simp [State.send, found]
    exact same ▸ rest

/-- A reader at its end clears the slot if it holds its identifier, and leaves it otherwise. -/
theorem step_clear {live : Live} (turn : s.readers live = .clearing) :
    Step s (.clear live)
      (({ s with slot := if s.slot.map Live.id = some live.id then none else s.slot }).setReader
        live .reporting) := by
  by_cases own : s.slot.map Live.id = some live.id
  · obtain ⟨held, holds, same⟩ := Option.map_eq_some_iff.1 own
    rw [if_pos own]
    exact .clearOwn turn holds same
  · rw [if_neg own]
    exact .clearOther turn fun held holds same =>
      own (Option.map_eq_some_iff.2 ⟨held, holds, same⟩)

/-- The state after a reader has come to its end and has reported it. -/
def State.gone (s : State) (live : Live) : State :=
  (({ s with
      slot := if s.slot.map Live.id = some live.id then none else s.slot
      ended := s.ended ++ [live.connection] }).send [.disconnected live.id]).setReader live .done

theorem schedule_end {live : Live} (reading : s.readers live = .reading) :
    Schedule s [.endOfStream live, .clear live, .report live] (s.gone live) := by
  have schedule := Schedule.cons (.endOfStream reading) <|
    .cons (step_clear (State.setReader_self _ _ _)) <|
    .cons (.report (State.setReader_self _ _ _)) .nil
  convert schedule using 1
  -- Only the last of the three stages of the reader is left.
  simp only [State.gone, State.setReader, State.send]
  congr 1
  funext other
  split_ifs <;> rfl

/-- A player is refused. -/
theorem schedule_refusal {held : Live} (turn : s.acceptor = .testing) (clear : s.closed = false)
    (occupied : s.slot = some held) (peer : String) :
    Schedule s [.test, .accept peer, .refuse]
      { s with
        acceptor := .testing
        accepted := s.accepted + 1
        refused := s.refused ++ [s.accepted] } :=
  .cons (.testOpen turn clear) <| .cons (.accept peer rfl) <| .cons (.refuse rfl occupied) .nil

/-- The state after a player was installed. -/
def State.joined (s : State) (id peer : String) : State :=
  let live : Live := ⟨id, s.accepted⟩
  let s : State := { s with
    acceptor := .testing
    slot := some live
    accepted := s.accepted + 1
    installed := s.installed ++ [live] }
  (s.send [.connected id peer]).setReader live .reading

theorem schedule_arrival (turn : s.acceptor = .testing) (clear : s.closed = false)
    (free : s.slot = none) (id peer : String) (fresh : ∀ live ∈ s.installed, live.id ≠ id) :
    Schedule s [.test, .accept peer, .install id, .announce, .startReader] (s.joined id peer) :=
  .cons (.testOpen turn clear) <| .cons (.accept peer rfl) <| .cons (.install id rfl free fresh) <|
    .cons (.announce rfl) <| .cons (.startReader rfl) .nil

/-- Closing goes through while nobody arrives. -/
theorem schedule_closing (turn : s.acceptor = .testing) (idle : s.closer = .idle) :
    Schedule s [.setFlag, .takeLive, .test, .join]
      { s with
        closed := true
        slot := none
        acceptor := .finished
        closer := .returned
        shut := s.shut ++ s.slot.toList.map Live.connection } :=
  .cons (.setFlag idle) <| .cons (.takeLive rfl) <| .cons (.testClosed turn rfl) <|
    .cons (.join rfl rfl) .nil

end Steps

/-! ## Readers and their lines -/

theorem exists_linesMessages_eq (lines : List (List UInt8)) :
    ∃ texts : List (List Char), (linesMessages lines).1 = texts.filterMap lineMessage? := by
  induction lines with
  | nil => exact ⟨[], rfl⟩
  | cons bytes rest ih =>
    obtain ⟨texts, eq⟩ := ih
    cases decoded : Text.decode? bytes with
    | none => exact ⟨[], by simp [linesMessages, decoded]⟩
    | some line =>
      refine ⟨line :: texts, ?_⟩
      cases found : lineMessage? line <;> simp [linesMessages, decoded, found, eq]

theorem Reader.exists_feed_eq (r : Reader) (bytes : List UInt8) :
    ∃ texts : List (List Char), (r.feed bytes).1 = texts.filterMap lineMessage? := by
  unfold Reader.feed
  split
  · exact ⟨[], rfl⟩
  · exact exists_linesMessages_eq _

theorem Reader.exists_finish_eq (r : Reader) :
    ∃ texts : List (List Char), r.finish.1 = texts.filterMap lineMessage? := by
  unfold Reader.finish
  split
  · exact ⟨[], rfl⟩
  · exact exists_linesMessages_eq _

theorem Reader.ended_finish (r : Reader) : r.finish.2.ended = true := by
  unfold Reader.finish
  split <;> rfl

/-! ## Players and their readers -/

/-- Players have names and connections of their own, and a player whose stream goes on has a reader
at work. -/
structure Seated (players : List Player) (s : State) : Prop where
  names : (players.map Player.name).Nodup
  apart : ∀ p ∈ players, ∀ q ∈ players, ∀ id, p.id = some id → q.id = some id → p.name = q.name
  installed : ∀ p ∈ players, ∀ id, p.id = some id → id ∈ s.installed.map Live.id
  reading : ∀ p ∈ players, ∀ id, p.id = some id → p.reader.ended = false →
    ∃ live, live.id = id ∧ s.readers live = .reading

namespace Seated

variable {players : List Player} {s t : State}

theorem carry (h : Seated players s) (installed : t.installed = s.installed)
    (readers : t.readers = s.readers) : Seated players t where
  names := h.names
  apart := h.apart
  installed := by rw [installed]; exact h.installed
  reading := by rw [readers]; exact h.reading

theorem sublist (h : Seated players s) {fewer : List Player} (sub : fewer.Sublist players) :
    Seated fewer s where
  names := (sub.map _).nodup h.names
  apart p mem q memq := h.apart p (sub.subset mem) q (sub.subset memq)
  installed p mem := h.installed p (sub.subset mem)
  reading p mem := h.reading p (sub.subset mem)

/-- What is done to players leaves their names, connections and streams as they are. -/
theorem map (h : Seated players s) {f : Player → Player}
    (keeps : ∀ p, (f p).name = p.name ∧ (f p).id = p.id ∧ (f p).reader = p.reader) :
    Seated (players.map f) s where
  names := by
    have same : Player.name ∘ f = Player.name := funext fun p => (keeps p).1
    rw [List.map_map, same]
    exact h.names
  apart := by
    simp only [List.forall_mem_map, keeps]
    exact h.apart
  installed := by
    simp only [List.forall_mem_map, keeps]
    exact h.installed
  reading := by
    simp only [List.forall_mem_map, keeps]
    exact h.reading

/-- A player takes the place of the one with the same name. -/
theorem put (h : Seated players s) (new : Player)
    (unshared : ∀ q ∈ players, q.name ≠ new.name → ∀ id, new.id = some id → q.id ≠ some id)
    (given : ∀ id, new.id = some id → id ∈ t.installed.map Live.id)
    (reading : ∀ id, new.id = some id → new.reader.ended = false →
      ∃ live, live.id = id ∧ t.readers live = .reading)
    (grown : ∀ id ∈ s.installed.map Live.id, id ∈ t.installed.map Live.id)
    (others : ∀ live, new.id ≠ some live.id → s.readers live = .reading →
      t.readers live = .reading) :
    Seated (players.filter (fun q => q.name != new.name) ++ [new]) t := by
  have mem_iff {p : Player} : p ∈ players.filter (fun q => q.name != new.name) ++ [new] ↔
      (p ∈ players ∧ p.name ≠ new.name) ∨ p = new := by simp
  refine ⟨?_, ?_, ?_, ?_⟩
  · rw [List.map_append]
    refine List.nodup_append'.2 ⟨?_, List.nodup_singleton _, ?_⟩
    · exact (List.filter_sublist.map _).nodup h.names
    · simp [List.disjoint_singleton]
  · intro p mem q memq id hp hq
    rcases mem_iff.1 mem with ⟨old, differs⟩ | rfl
    · rcases mem_iff.1 memq with ⟨oldq, -⟩ | rfl
      · exact h.apart p old q oldq id hp hq
      · exact absurd hp (unshared p old differs id hq)
    · rcases mem_iff.1 memq with ⟨oldq, differs⟩ | rfl
      · exact absurd hq (unshared q oldq differs id hp)
      · rfl
  · intro p mem id hp
    rcases mem_iff.1 mem with ⟨old, -⟩ | rfl
    · exact grown id (h.installed p old id hp)
    · exact given id hp
  · intro p mem id hp going
    rcases mem_iff.1 mem with ⟨old, differs⟩ | rfl
    · obtain ⟨live, rfl, stage⟩ := h.reading p old id hp going
      exact ⟨live, rfl, others live (fun eq => unshared p old differs _ eq hp) stage⟩
    · exact reading id hp going

end Seated

/-! ## The simulation -/

/-- The state stands where the exchange stands: the acceptor is between two connections, or has
finished, and closing is not under way. The events `seen` were taken from the exchange before. -/
structure Tracks (seen : List Event) (x : Exchange) (s : State) : Prop where
  reachable : Reachable s
  closed : s.closed = x.closed
  acceptor : s.acceptor = if x.closed then .finished else .testing
  closer : s.closer = if x.closed then .returned else .idle
  live : s.slot.map Live.id = x.live
  channel : s.channel = seen ++ x.events
  ids : s.installed.map Live.id = (List.range x.taken).map Exchange.connectionId
  seated : Seated x.players s

namespace Tracks

variable {seen : List Event} {x : Exchange} {s : State}

theorem start (reachable : Bool) : Tracks [] { reachable } .start where
  reachable := ⟨[], .nil⟩
  closed := rfl
  acceptor := rfl
  closer := rfl
  live := rfl
  channel := rfl
  ids := rfl
  seated := ⟨.nil, by simp, by simp, by simp⟩

theorem connect (h : Tracks seen x s) (name : String) :
    ∃ t, Tracks seen (x.connect name).2 t := by
  unfold Exchange.connect
  split
  · exact ⟨s, h⟩
  rename_i reached
  have opened : x.closed = false := by
    simp only [Bool.or_eq_true, not_or, Bool.not_eq_true] at reached
    exact reached.1
  have turn : s.acceptor = .testing := by simp [h.acceptor, opened]
  have clear : s.closed = false := h.closed.trans opened
  split
  · rename_i occupied
    obtain ⟨held, holds⟩ : ∃ held, s.slot = some held := by
      rw [← h.live, Option.isSome_map] at occupied
      exact Option.isSome_iff_exists.1 occupied
    have schedule := schedule_refusal turn clear holds name
    refine ⟨_, { h with
      reachable := h.reachable.schedule schedule
      acceptor := turn.symm.trans h.acceptor
      seated := ?_ }⟩
    exact h.seated.put _ (by simp) (by simp) (by simp) (fun _ mem => mem) (fun _ _ stage => stage)
  · rename_i vacant
    have free : s.slot = none := by
      rw [← h.live, Option.isSome_map] at vacant
      simpa using vacant
    have fresh : ∀ live ∈ s.installed, live.id ≠ Exchange.connectionId x.taken := by
      intro live mem eq
      have given : live.id ∈ s.installed.map Live.id := List.mem_map_of_mem mem
      rw [h.ids, eq] at given
      obtain ⟨n, below, same⟩ := List.mem_map.1 given
      rw [Exchange.connectionId_injective same] at below
      simp at below
    have schedule := schedule_arrival turn clear free _ s!"<{name}>" fresh
    refine ⟨_, {
      reachable := h.reachable.schedule schedule
      closed := h.closed
      acceptor := turn.symm.trans h.acceptor
      closer := h.closer
      live := rfl
      channel := ?_
      ids := ?_
      seated := ?_ }⟩
    · simp [State.joined, State.send, State.setReader, Exchange.emit, Exchange.putPlayer, h.channel]
    · simp [State.joined, State.send, Exchange.emit, Exchange.putPlayer, h.ids, List.range_succ]
    · refine h.seated.put _ ?_ ?_ ?_ ?_ ?_
      · rintro q mem - _ ⟨⟩ given
        obtain ⟨live, memLive, same⟩ := List.mem_map.1 (h.seated.installed q mem _ given)
        exact fresh live memLive same
      · rintro _ ⟨⟩
        simp [State.joined, State.send]
      · rintro _ ⟨⟩ -
        exact ⟨_, rfl, State.setReader_self _ _ _⟩
      · intro id mem
        simp only [State.joined, State.setReader_installed, State.send, List.map_append]
        exact List.mem_append_left _ mem
      · intro live differs stage
        refine (State.setReader_other ?_ _ _).trans stage
        rintro rfl
        exact differs rfl

/-- The reader of a connection comes to its end, after its player was told so. -/
theorem endReader (h : Tracks seen x s) {live : Live} (reading : s.readers live = .reading)
    (stopped : ∀ p ∈ x.players, p.id = some live.id → p.reader.ended = true) :
    Tracks seen (x.endReader live.id) (s.gone live) := by
  rw [Exchange.endReader_eq]
  refine { h with
    reachable := h.reachable.schedule (schedule_end reading)
    live := ?_
    channel := ?_
    seated := { h.seated with reading := fun p mem id taken going => ?_ } }
  · rw [← h.live]
    simp only [State.gone, State.setReader_slot, State.send]
    split <;> rfl
  · simp [State.gone, State.setReader, State.send, h.channel]
  · obtain ⟨other, rfl, stage⟩ := h.seated.reading p mem id taken going
    refine ⟨other, rfl, (State.setReader_other ?_ _ _).trans stage⟩
    rintro rfl
    simp [stopped p mem taken] at going

/-- A player's reader handles lines and is left as `r`. -/
theorem read (h : Tracks seen x s) {p : Player} (mem : p ∈ x.players) {live : Live}
    (taken : p.id = some live.id) (reading : s.readers live = .reading)
    (texts : List (List Char)) (r : Reader) :
    let found := (texts.filterMap lineMessage?).map (.message live.id)
    Tracks seen ((x.putPlayer { p with reader := r }).emit found) (s.send found) := by
  intro found
  refine { h with
    reachable := h.reachable.schedule (schedule_lines reading texts)
    channel := ?_
    seated := ?_ }
  · simp [State.send, Exchange.emit, Exchange.putPlayer, h.channel]
  · refine h.seated.put _ ?_ (h.seated.installed p mem) ?_ (fun _ given => given)
      fun _ _ stage => stage
    · exact fun q memq differs id own shared =>
        differs (h.seated.apart q memq p mem id shared own)
    · intro id own _
      exact ⟨live, Option.some.inj (taken.symm.trans own), reading⟩

/-- A player's reader handles lines, and comes to its end if `r` has ended. -/
theorem readOn (h : Tracks seen x s) {p : Player} (mem : p ∈ x.players) {id : String}
    (taken : p.id = some id) (going : p.reader.ended = false) (texts : List (List Char))
    (r : Reader) :
    let y := (x.putPlayer { p with reader := r }).emit
      ((texts.filterMap lineMessage?).map (.message id))
    ∃ t, Tracks seen (if r.ended then y.endReader id else y) t := by
  intro y
  obtain ⟨live, rfl, reading⟩ := h.seated.reading p mem id taken going
  have tracked := h.read mem taken reading texts r
  split
  · rename_i ended
    refine ⟨_, tracked.endReader reading fun q memq shared => ?_⟩
    rcases List.mem_append.1 memq with memq | memq
    · obtain ⟨memq, differs⟩ := List.mem_filter.1 memq
      have same : q.name = p.name := h.seated.apart q memq p mem _ shared taken
      simp [same] at differs
    · rw [List.mem_singleton.1 memq]
      exact ended
  · exact ⟨_, tracked⟩

theorem receive (h : Tracks seen x s) {p : Player} (mem : p ∈ x.players) (bytes : List UInt8) :
    ∃ t, Tracks seen (x.receive p bytes) t := by
  unfold Exchange.receive
  split
  · exact ⟨s, h⟩
  rename_i id taken
  split
  · exact ⟨s, h⟩
  rename_i going
  obtain ⟨texts, found⟩ := p.reader.exists_feed_eq bytes
  have tracked := h.readOn mem taken (by simpa using going) texts (p.reader.feed bytes).2
  rw [← found] at tracked
  exact tracked

theorem finish (h : Tracks seen x s) {p : Player} (mem : p ∈ x.players) :
    ∃ t, Tracks seen (x.finish p) t := by
  unfold Exchange.finish
  split
  · exact ⟨s, h⟩
  rename_i id taken
  split
  · exact ⟨s, h⟩
  rename_i going
  obtain ⟨texts, found⟩ := p.reader.exists_finish_eq
  have tracked := h.readOn mem taken (by simpa using going) texts p.reader.finish.2
  rw [← found] at tracked
  simpa only [p.reader.ended_finish, if_true] using tracked

/-- A player is forgotten. -/
theorem dropPlayer (h : Tracks seen x s) (name : String) : Tracks seen (x.dropPlayer name) s :=
  { h with seated := h.seated.sublist List.filter_sublist }

/-- A player's inbox changes. -/
theorem setInbox (h : Tracks seen x s) {p : Player} (mem : p ∈ x.players) (inbox : List UInt8) :
    Tracks seen (x.putPlayer { p with inbox }) s := by
  refine { h with seated := ?_ }
  refine h.seated.put _ ?_ (h.seated.installed p mem) (h.seated.reading p mem)
    (fun _ given => given) fun _ _ stage => stage
  exact fun q memq differs id own shared => differs (h.seated.apart q memq p mem id shared own)

theorem act (h : Tracks seen x s) (name : String) (action : PlayerAction) :
    ∃ t, Tracks seen (x.act name action).2 t := by
  cases named : x.player? name with
  | none =>
    cases action with
    | connect => exact h.connect name
    | _ => exact ⟨s, by simpa only [Exchange.act, named] using h⟩
  | some p =>
    have mem : p ∈ x.players := List.mem_of_find?_eq_some named
    cases action with
    | connect => exact h.connect name
    | write bytes => simpa only [Exchange.act, named] using h.receive mem bytes
    | halfClose => simpa only [Exchange.act, named] using h.finish mem
    | hangUp =>
      obtain ⟨t, tracked⟩ := h.finish mem
      exact ⟨t, by simpa only [Exchange.act, named] using tracked.dropPlayer name⟩
    | readLine | readToEnd =>
      simp only [Exchange.act, named]
      exact ⟨s, h.setInbox mem _⟩

theorem send (h : Tracks seen x s) {message : Message} {next : Exchange}
    (sent : x.send message = .ok next) : Tracks seen next s := by
  unfold Exchange.send at sent
  split at sent
  · cases sent
  split at sent
  · cases sent
  cases sent
  refine { h with seated := h.seated.map fun p => ?_ }
  split <;> exact ⟨rfl, rfl, rfl⟩

theorem close (h : Tracks seen x s) : ∃ t, Tracks seen x.close t := by
  unfold Exchange.close
  split
  · exact ⟨s, h⟩
  rename_i opened
  have turn : s.acceptor = .testing := by simp [h.acceptor, opened]
  have idle : s.closer = .idle := by simp [h.closer, opened]
  have schedule := schedule_closing turn idle
  have tracked : Tracks seen { x with closed := true, live := none } _ := { h with
    reachable := h.reachable.schedule schedule
    closed := rfl
    acceptor := rfl
    closer := rfl
    live := rfl
    seated := h.seated.carry rfl rfl }
  dsimp only
  split
  · exact ⟨_, tracked⟩
  · rename_i p found
    obtain ⟨id, -, named⟩ := Option.bind_eq_some_iff.1 found
    exact tracked.finish (List.mem_of_find?_eq_some named)

theorem perform (h : Tracks seen x s) (deed : Deed) :
    ∃ t, Tracks (seen ++ (x.perform deed).1) (x.perform deed).2 t := by
  cases deed with
  | act name action => simpa [Exchange.perform] using h.act name action
  | send message =>
    rw [Exchange.perform, List.append_nil]
    cases sent : x.send message with
    | error => exact ⟨s, h⟩
    | ok next => exact ⟨s, h.send sent⟩
  | close => simpa [Exchange.perform] using h.close
  | look count =>
    refine ⟨s, { h with channel := ?_ }⟩
    simp [Exchange.perform, Exchange.takeEvents, h.channel]

theorem performAll (h : Tracks seen x s) (deeds : List Deed) :
    ∃ t, Tracks (seen ++ (x.performAll deeds).1) (x.performAll deeds).2 t := by
  induction deeds generalizing seen x s with
  | nil => exact ⟨s, by simpa [Exchange.performAll] using h⟩
  | cons deed deeds ih =>
    obtain ⟨t, tracked⟩ := h.perform deed
    simpa [Exchange.performAll] using ih tracked

end Tracks

/-- **An exchange is an interleaving.** Whatever is done with an exchange from its start, some
schedule of the acceptor, the readers and closing comes to a state with the same closed flag, the
same live connection and the same identifiers; and the events in its channel are those that were
taken from the exchange and those still waiting there, in this order. -/
theorem exchange_scheduled (reachable : Bool) (deeds : List Deed) :
    let (taken, x) := ({ reachable } : Exchange).performAll deeds
    ∃ s, Reachable s ∧ s.closed = x.closed ∧ s.slot.map Live.id = x.live ∧
      s.installed.map Live.id = (List.range x.taken).map Exchange.connectionId ∧
      s.channel = taken ++ x.events := by
  obtain ⟨s, h⟩ := (Tracks.start reachable).performAll deeds
  exact ⟨s, h.reachable, h.closed, h.live, h.ids, h.channel⟩

/-- The events of an exchange about a connection are the beginning of `connected`, messages,
`disconnected`. -/
theorem exchange_events (reachable : Bool) (deeds : List Deed) (id : String) :
    let (taken, x) := ({ reachable } : Exchange).performAll deeds
    ∃ (peer : String) (said : List Message), eventsOf id (taken ++ x.events) <+:
      .connected id peer :: (said.map (.message id) ++ [.disconnected id]) := by
  obtain ⟨s, h⟩ := (Tracks.start reachable).performAll deeds
  have events := h.reachable.orderly.reported.beginning id
  rwa [h.channel] at events

end TabTools.Link
