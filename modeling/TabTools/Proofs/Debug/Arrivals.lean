import TabTools.Debug.Steps
import TabTools.Proofs.Debug.Inspection

/-!
# Events that arrive at any moment

Events of the tab server are queued while a session reads, carries out a request or reports other
events. What a client sees of them (`playerLines`) are the lines about players among the output.

**Theorem (`player_events_told_in_order`).** However queueing interleaves with the steps of a
session, the lines told so far are those of the oldest events, one for each and in order. Whatever
was queued when a turn began has been told when the turn comes to read, and whatever was queued while
a request was carried out has been told when the next message is read or the session has ended.
Reporting an event makes a handle and uses up a message number, and nothing else changes.

Two invariants carry it. Told, taken and waiting events together are those ever queued
(`Conserved`): a step hands an event on or leaves all where they are, and no other message looks
like a line about players (`playerLine?_reaction`). And events that are due are in the queue only
while the session takes events or will do so before it reads (`Due`).
-/

namespace TabTools.Debug

/-! ## Lines about players -/

/-- How lines about players start. -/
def playerMark : List Char := "player ".toList

/-- The line about a player that a message shows. -/
def Message.playerLine? : Message → Option String
  | .event (.output text _) => if playerMark.isPrefixOf text.toList then some text else none
  | _ => none

/-- The lines about players that were delivered, in order. -/
def playerLines (entries : List Entry) : List String :=
  entries.filterMap fun
    | .sent _ m true => m.playerLine?
    | _ => none

theorem playerLines_append (xs ys : List Entry) :
    playerLines (xs ++ ys) = playerLines xs ++ playerLines ys :=
  List.filterMap_append

theorem playerLines_recorded (seq : Nat) (acts : List Act) :
    playerLines (recorded seq acts) = (messages acts).filterMap Message.playerLine? :=
  filterMap_recorded (fun _ _ => rfl) rfl seq acts

theorem playerMark_line (event : Link.Event) : playerMark <+: event.line.toList := by
  have happend : ∀ start rest : String, playerMark <+: start.toList →
      playerMark <+: (start ++ rest).toList := fun start rest h => by
    rw [String.toList_append]
    exact h.trans (List.prefix_append _ _)
  cases event with
  | connected id peer =>
    have hstart : playerMark <+: "player ".toList := List.prefix_refl _
    exact happend _ _ (happend _ _ (happend _ _ (happend _ _ hstart)))
  | disconnected id =>
    have hstart : playerMark <+: "player disconnected (".toList := by decide +kernel
    exact happend _ _ (happend _ _ hstart)
  | message id m =>
    have hstart : playerMark <+: "player message `".toList := by decide +kernel
    exact happend _ _ (happend _ _ (happend _ _ (happend _ _ (happend _ _ hstart))))

theorem playerLine?_line (event : Link.Event) (handle : Nat) :
    (Message.event (.output event.line handle)).playerLine? = some event.line :=
  if_pos (List.isPrefixOf_iff_prefix.2 (playerMark_line event))

/-- Where the cursor is, is no line about a player. -/
theorem playerLine?_cursor (line handle : Nat) :
    (Message.event (.output s!"line: {line}" handle)).playerLine? = none := by
  have htext : (s!"line: {line}").toList = 'l' :: ("ine: ".toList ++ (toString line).toList) := by
    rw [show s!"line: {line}" = "line: " ++ toString line from rfl, String.toList_append]
    rfl
  rw [Message.playerLine?, htext]
  rfl

namespace Session

variable {s : Session} {files : Files.View} {req : Request} {m : Message}

theorem playerLine?_stopAt {line : Nat} {reason : StopReason} {hit : Option Nat}
    {verified : Option Breakpoint} (h : m ∈ messages (s.stopAt req line reason hit verified)) :
    m.playerLine? = none := by
  rw [messages_stopAt] at h
  simp only [List.cons_append, List.nil_append, List.mem_cons, List.mem_map] at h
  rcases h with rfl | rfl | rfl | ⟨bp, -, rfl⟩
  · exact playerLine?_cursor _ _
  all_goals rfl

theorem playerLine?_resume {direction : Direction} {p : Probe}
    (h : m ∈ messages (s.resume req direction p)) : m.playerLine? = none := by
  generalize s.resume req direction p = acts, s.resume_cases req direction p = resumed at h
  cases resumed with
  | halted _ | rewound _ => exact playerLine?_stopAt h
  | ended _ =>
    simp only [succeed, Session.terminate, messages_write, messages_nil, List.mem_cons,
      List.not_mem_nil, or_false] at h
    rcases h with rfl | rfl <;> rfl

theorem playerLine?_start {args : LaunchArguments} (h : m ∈ messages (s.start req args)) :
    m.playerLine? = none := by
  unfold start at h
  split at h
  · exact playerLine?_stopAt h
  · exact playerLine?_resume h

/-- **Nothing that is done about a request looks like a line about players.** -/
theorem playerLine?_reaction (h : m ∈ messages (s.reaction files req)) :
    m.playerLine? = none := by
  unfold reaction at h
  split at h
  · rename_i acts hplan
    cases plan_cases hplan with
    | answer | setBreakpoints | disconnect => cases List.mem_singleton.1 h; rfl
    | initializeAdapter args =>
      simp only [initializeAdapter, succeed, messages_write, messages_nil, List.mem_cons,
        List.not_mem_nil, or_false] at h
      rcases h with rfl | rfl <;> rfl
    | launch | launchTraced => exact playerLine?_start h
    | resume => exact playerLine?_resume h
    | terminate =>
      rw [succeed, messages_write, List.mem_cons] at h
      rcases h with rfl | h
      · rfl
      · split at h
        · cases List.mem_singleton.1 h; rfl
        · cases h
  · cases List.mem_singleton.1 h; rfl
  · cases h

end Session

namespace Steps

variable {s t : State} {moves : List Move}

/-! ## No event is lost -/

/-- The events that a session has taken and not yet reported. -/
def Stage.underway : Stage → List Link.Event
  | .taking taken _ => taken
  | .reporting left _ => left
  | _ => []

/-- The messages that are still to be written for a request. -/
def Stage.owed : Stage → List Message
  | .handling _ left => messages left
  | _ => []

/-- Every event that was queued has been told, is under way or waits, in this order. -/
structure Conserved (s : State) : Prop where
  events : playerLines s.run.entries ++ (s.stage.underway ++ s.run.queue).map Link.Event.line =
    s.queued.map Link.Event.line
  silent : ∀ m ∈ s.stage.owed, m.playerLine? = none

theorem conserved_start (link : Link) : Conserved (.start link) := ⟨rfl, List.forall_mem_nil _⟩

theorem underway_stage (ahead : Ahead) : ahead.stage.underway = [] := by cases ahead <;> rfl

theorem owed_stage (ahead : Ahead) : ahead.stage.owed = [] := by cases ahead <;> rfl

/-- Writing what shows no line about players. -/
theorem playerLines_perform_silent (run : Run) {act : Act}
    (silent : ∀ m ∈ messages [act], m.playerLine? = none) :
    playerLines (run.perform Faults.none [act]).1.entries = playerLines run.entries := by
  rw [Run.perform_none, Run.performed, playerLines_append, playerLines_recorded,
    List.filterMap_eq_nil_iff.2 silent, List.append_nil]

/-- Reporting an event tells its line. -/
theorem playerLines_perform_report (run : Run) (event : Link.Event) :
    playerLines (run.perform Faults.none [(run.session.sayLine event.line).2]).1.entries =
      playerLines run.entries ++ [event.line] := by
  rw [Run.perform_none, Run.performed, playerLines_append, playerLines_recorded]
  show _ ++ List.filterMap _ [Message.event (.output event.line run.session.handles.next)] = _
  rw [List.filterMap_cons, playerLine?_line]
  rfl

theorem queue_perform (run : Run) (acts : List Act) :
    (run.perform Faults.none acts).1.queue = run.queue := by
  rw [Run.perform_none]
  rfl

/-- **One step** hands events on and loses none. -/
theorem conserved_step {move : Move} (step : Step s move t) (h : Conserved s) : Conserved t := by
  obtain ⟨events, silent⟩ := h
  cases step with
  | queue event =>
    refine ⟨Eq.trans ?_ List.map_append.symm, silent⟩
    rw [← events]
    simp only [List.map_append, List.append_assoc]
  | take turn next =>
    -- The oldest event that waits becomes the latest that is under way.
    rw [turn, next] at events
    refine ⟨?_, List.forall_mem_nil _⟩
    rw [← events]
    simp only [Stage.underway, List.append_assoc, List.cons_append, List.nil_append]
  | allTaken turn empty =>
    rw [turn] at events
    exact ⟨events, List.forall_mem_nil _⟩
  | @report event left ahead turn =>
    rw [turn] at events
    refine ⟨?_, List.forall_mem_nil _⟩
    dsimp only
    rw [playerLines_perform_report, queue_perform, ← events]
    simp only [Stage.underway, List.map_append, List.map_cons, List.append_assoc, List.cons_append,
      List.nil_append]
  | @allReported ahead turn =>
    rw [turn] at events
    refine ⟨?_, ?_⟩
    · rw [underway_stage]
      exact events
    · rw [owed_stage]
      exact List.forall_mem_nil _
  | readNothing cause turn =>
    rw [turn] at events
    exact ⟨events, List.forall_mem_nil _⟩
  | passOver turn other =>
    rw [turn] at events
    refine ⟨?_, List.forall_mem_nil _⟩
    rw [playerLines_append]
    exact (congrArg (· ++ _) (List.append_nil _)).trans events
  | hear files turn asks sound =>
    rw [turn] at events
    refine ⟨?_, fun m hm => Session.playerLine?_reaction hm⟩
    rw [playerLines_append]
    exact (congrArg (· ++ _) (List.append_nil _)).trans events
  | crash files turn asks panics =>
    rw [turn] at events
    refine ⟨?_, List.forall_mem_nil _⟩
    rw [playerLines_append]
    exact (congrArg (· ++ _) (List.append_nil _)).trans events
  | @act req first left turn =>
    rw [turn] at events silent
    have split : messages (first :: left) = messages [first] ++ messages left :=
      messages_append [first] left
    rw [Stage.owed, split] at silent
    refine ⟨?_, fun m hm => silent m (List.mem_append_right _ hm)⟩
    dsimp only
    rw [playerLines_perform_silent _ fun m hm => silent m (List.mem_append_left _ hm),
      queue_perform]
    exact events
  | allDone turn =>
    rw [turn] at events
    exact ⟨events, List.forall_mem_nil _⟩

theorem Reachable.conserved {link : Link} (h : Reachable link s) : Conserved s := by
  obtain ⟨moves, schedule⟩ := h
  exact schedule.invariant conserved_step (conserved_start link)

/-- Only so many lines are missing as events are under way or wait. -/
theorem Conserved.length (h : Conserved s) :
    (playerLines s.run.entries).length + s.stage.underway.length + s.run.queue.length =
      s.queued.length := by
  have := congrArg List.length h.events
  simpa [Nat.add_assoc] using this

/-! ## Events that are due -/

/-- Whether a session will take events before it reads again. -/
def Stage.collects : Stage → Bool
  | .taking _ _ | .handling _ _ => true
  | _ => false

/-- The `n` oldest events are not in the queue, unless the session will still take them. -/
structure Due (n : Nat) (s : State) : Prop where
  queued : n ≤ s.queued.length
  taken : s.stage.collects = false → n + s.run.queue.length ≤ s.queued.length

/-- **One step** leaves no event that is due behind in the queue. -/
theorem due_step {n : Nat} {move : Move} (step : Step s move t) (h : Due n s) : Due n t := by
  obtain ⟨queued, taken⟩ := h
  cases step with
  | queue event =>
    refine ⟨?_, fun passed => ?_⟩
    · simpa using Nat.le_succ_of_le queued
    · have := taken passed
      simp only [List.length_append, List.length_singleton]
      omega
  | allTaken turn empty =>
    -- The queue is empty, so whatever is due has left it.
    exact ⟨queued, fun _ => by simpa [empty] using queued⟩
  | take turn next => exact ⟨queued, nofun⟩
  | report turn =>
    rw [turn] at taken
    refine ⟨queued, fun _ => ?_⟩
    rw [queue_perform]
    exact taken rfl
  | allReported turn =>
    rw [turn] at taken
    exact ⟨queued, fun _ => taken rfl⟩
  | readNothing cause turn =>
    rw [turn] at taken
    exact ⟨queued, fun _ => taken rfl⟩
  | passOver turn other => exact ⟨queued, nofun⟩
  | hear files turn asks sound => exact ⟨queued, nofun⟩
  | crash files turn asks panics =>
    rw [turn] at taken
    exact ⟨queued, fun _ => taken rfl⟩
  | act turn => exact ⟨queued, nofun⟩
  | allDone turn => exact ⟨queued, nofun⟩

/-- Queued events stay on record. -/
theorem Schedule.queued_prefix (schedule : Schedule s moves t) : s.queued <+: t.queued := by
  refine schedule.invariant (P := fun t => s.queued <+: t.queued) ?_ (List.prefix_refl _)
  intro u move v step h
  cases step with
  | queue event => exact h.trans (List.prefix_append _ _)
  | _ => exact h

/-- **What a session had still to take** has been told once it neither takes, carries out nor
reports anything. -/
theorem told_of_collects (conserved : Conserved t) (schedule : Schedule s moves t)
    (collects : s.stage.collects = true) (passed : t.stage.collects = false)
    (told : t.stage.underway = []) :
    s.queued.map Link.Event.line <+: playerLines t.run.entries := by
  have start : Due s.queued.length s :=
    ⟨Nat.le_refl _, fun h => Bool.noConfusion (collects.symm.trans h)⟩
  have due : Due s.queued.length t := schedule.invariant due_step start
  have length := conserved.length
  rw [told, List.length_nil] at length
  have whole : playerLines t.run.entries <+: t.queued.map Link.Event.line := ⟨_, conserved.events⟩
  refine List.prefix_of_prefix_length_le (schedule.queued_prefix.map _) whole ?_
  have := due.taken passed
  rw [List.length_map]
  omega

/-- **Events of the tab server are told once and in order.** In any state that can come about while
events are queued at any moment and no write fails,

* the lines about players that were told are those of the oldest events, one for each, in order;
* if a turn begins, all that is queued by now has been told when a message is about to be read;
* if a request is carried out, all that is queued by now has been told when the next message is
  about to be read or the session has ended;
* reporting an event adds a handle and a message with the next number, and changes nothing else;
* what a session does around its reports takes from the queue at most. -/
theorem player_events_told_in_order {link : Link} {s : State} (reachable : Reachable link s) :
    playerLines s.run.entries <+: s.queued.map Link.Event.line ∧
      (∀ {moves t}, s.stage = .opening → Schedule s moves t → t.stage = .reading →
        s.queued.map Link.Event.line <+: playerLines t.run.entries) ∧
      (∀ {req left moves t}, s.stage = .handling req left → Schedule s moves t →
        (t.stage = .reading ∨ ∃ outcome, t.stage = .ended outcome) →
        s.queued.map Link.Event.line <+: playerLines t.run.entries) ∧
      (∀ {t}, Step s .report t → ∃ event left ahead, s.stage = .reporting (event :: left) ahead ∧
        t.run =
          { s.run with
            session := { s.run.session with
              handles := s.run.session.handles.add Session.outputLabel }
            nextSeq := s.run.nextSeq + 1
            entries := s.run.entries ++
              [.sent s.run.nextSeq (.event (.output event.line s.run.session.handles.next)) true] }) ∧
      ∀ {move t}, move ∈ [.take, .allTaken, .allReported] → Step s move t →
        t.run = { s.run with queue := t.run.queue } := by
  have conserved {moves t} (schedule : Schedule s moves t) : Conserved t :=
    schedule.invariant conserved_step reachable.conserved
  refine ⟨⟨_, reachable.conserved.events⟩, ?_, ?_, ?_, ?_⟩
  · intro moves t opening schedule reads
    exact told_of_collects (conserved schedule) schedule (by rw [opening]; rfl) (by rw [reads]; rfl)
      (by rw [reads]; rfl)
  · intro req left moves t handling schedule passed
    refine told_of_collects (conserved schedule) schedule (by rw [handling]; rfl) ?_ ?_
    all_goals
      rcases passed with stage | ⟨outcome, stage⟩ <;>
        · rw [stage]
          rfl
  · intro t step
    cases step with
    | @report event left ahead turn =>
      refine ⟨event, left, ahead, turn, ?_⟩
      dsimp only
      rw [Run.perform_none]
      rfl
  · intro move t around step
    cases step with
    | take | allTaken | allReported => rfl
    | _ => simp at around

/-- One player is reported at once. Another one comes meanwhile, and the first leaves while a
request to disconnect is carried out: both are reported before the session ends. What comes after is
not. -/
theorem players_told_before_leaving :
    let first : Link.Event := .connected "a" "one"
    let second : Link.Event := .connected "b" "two"
    let third : Link.Event := .disconnected "a"
    let late : Link.Event := .disconnected "b"
    let req : Request := ⟨1, "request", "disconnect", .null⟩
    let message : Json := .obj
      [("command", .str "disconnect"), ("seq", .int 1), ("type", .str "request")]
    let session : Session := { link := .listening, handles := ⟨["args"]⟩ }
    let leaving : Session := { session with phase := .disconnected, link := .closed }
    let s : State :=
      { run :=
          { session
            nextSeq := 2
            entries := [.sent 1 (.event (.output first.line 1000)) true, .received message]
            queue := [second, third] }
        stage := .handling req [.write leaving (.success req.answered .nothing)]
        queued := [first, second, third] }
    Reachable .listening s ∧
      ∃ t, Schedule s [.act, .allDone, .take, .take, .allTaken, .queue late, .report, .report,
          .allReported] t ∧
        t.stage = .ended .disconnected ∧ t.queued = [first, second, third, late] ∧
        playerLines t.run.entries = [first, second, third].map Link.Event.line ∧
        s.queued.map Link.Event.line <+: playerLines t.run.entries := by
  intro first second third late req message session leaving s
  let files : Files.View := { read := fun _ => .error .notFound, canonical := fun _ => none }
  have asks : Run.request? message = some req := by rfl
  have sound : session.plan files req ≠ .error .panic := nofun
  have reachable : Reachable .listening s :=
    ⟨_, .cons (.queue first) <| .cons (.take rfl rfl) <| .cons (.allTaken rfl rfl) <|
      .cons (.queue second) <| .cons (.report rfl) <| .cons (.allReported rfl) <|
      .cons (.hear files rfl asks sound) <| .cons (.queue third) .nil⟩
  have after : Schedule s [.act, .allDone, .take, .take, .allTaken, .queue late, .report, .report,
      .allReported] _ :=
    .cons (.act rfl) <| .cons (.allDone rfl) <| .cons (.take rfl rfl) <| .cons (.take rfl rfl) <|
      .cons (.allTaken rfl rfl) <| .cons (.queue late) <| .cons (.report rfl) <|
      .cons (.report rfl) <| .cons (.allReported rfl) .nil
  obtain ⟨-, -, handled, -⟩ := player_events_told_in_order reachable
  exact ⟨reachable, _, after, rfl, rfl, by decide +kernel, handled rfl after (.inr ⟨_, rfl⟩)⟩

end Steps

end TabTools.Debug
