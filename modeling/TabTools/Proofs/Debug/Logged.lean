import TabTools.Proofs.Debug.Handles
import TabTools.Proofs.Debug.Stream
import TabTools.Proofs.Debug.Turns
import TabTools.Proofs.Wire.Log

/-!
# What a session logs

A session uses its channel entry by entry: it reads what it hears, writes what it sends, and switches
tracing on when it has loaded a program that is to be traced (`Entry.call`).

**Theorem (`traffic_logged`).** Whatever calls are made on a channel that logs to a file, the file
grows by one line for each message that passes while tracing is on. A session never switches tracing
off: all that it reads and writes is logged if tracing was on at first, and else all that comes after
a traced program was loaded, from the response to the launch on.

**Turns** (`Run.serve_takes`). A turn hears one message at most, after the events that wait have been
reported. What a launch does starts with switching tracing on (`Run.handle_traced`), so nothing comes
between hearing the launch and tracing.
-/

namespace TabTools.Debug

open Wire (Channel Traffic Flow)

/-! ## Entries as calls -/

/-- The call that an entry is about. A write that fails gets some bytes through, as many as `lost`
gives for the number of the message. -/
def Entry.call (lost : Nat → Nat) : Entry → Wire.Call
  | .received _ => .read none
  | .traceOn => .setTrace true
  | .sent seq m true => .write (m.toJson seq) none
  | .sent seq m false => .write (m.toJson seq) (some (lost seq))

/-- The message that was read or was to be written. -/
def Entry.passed? : Entry → Option (Flow × Json)
  | .received m => some (.inbound, m)
  | .traceOn => none
  | .sent seq m _ => some (.outbound, m.toJson seq)

/-- **Once tracing is on**, all that a session does is traced. -/
theorem tracedMessages_of_on (entries : List Entry) :
    Wire.tracedMessages true (entries.map Entry.traffic) = entries.filterMap Entry.passed? := by
  have hstays : ∀ entry ∈ entries.map Entry.traffic, entry ≠ .setTrace false := by
    intro entry hmem
    obtain ⟨e, -, rfl⟩ := List.mem_map.1 hmem
    cases e <;> simp [Entry.traffic]
  rw [Wire.tracedMessages_of_on hstays, List.filterMap_map]
  congr 1
  funext e
  cases e <;> rfl

/-- **A channel with the messages ahead** gives them to a session that calls it. -/
theorem callAll_entries (lost : Nat → Nat) {channel : Channel} {entries : List Entry}
    (ahead : heardIn entries <+: (Wire.readAll channel.input).1) :
    (channel.callAll (entries.map (Entry.call lost))).1 = entries.map Entry.traffic := by
  induction entries generalizing channel with
  | nil => rfl
  | cons e entries ih =>
    cases e with
    | traceOn => exact congrArg (Traffic.setTrace true :: ·) (ih ahead)
    | sent seq m delivered =>
      have hinput : (channel.call (Entry.call lost (.sent seq m delivered))).2.input =
          channel.input := by
        cases delivered <;> exact Channel.input_traced _ _ _
      have hrest := ih (hinput.symm ▸ ahead)
      cases delivered <;> exact congrArg (Traffic.message .outbound (m.toJson seq) :: ·) hrest
    | received m =>
      obtain ⟨⟨messages, failure⟩, hall⟩ : ∃ result, Wire.readAll channel.input = result := ⟨_, rfl⟩
      rw [hall] at ahead
      obtain ⟨more, rfl⟩ : m :: heardIn entries <+: messages := ahead
      obtain ⟨rest, hread, hbehind⟩ := Run.readAll_cons hall
      let next := ({ channel with input := rest } : Channel).traced .inbound m
      have hcall : channel.call (.read none) = (some (.message .inbound m), next) := by
        rw [Channel.call, Channel.read, hread]
      have hnext : heardIn entries <+: (Wire.readAll next.input).1 := by
        rw [Channel.input_traced, hbehind]
        exact List.prefix_append _ _
      rw [List.map_cons, Entry.call, Channel.callAll, hcall]
      exact congrArg (Traffic.message .inbound m :: ·) (ih hnext)

/-! ## Turns -/

theorem heardIn_append (xs ys : List Entry) : heardIn (xs ++ ys) = heardIn xs ++ heardIn ys :=
  List.filterMap_append

theorem heardIn_received (message : Json) (entries : List Entry) :
    heardIn (.received message :: entries) = message :: heardIn entries := rfl

/-- The message that a turn brings. -/
def Turn.message? (turn : Turn) : Option Json := turn.inbound.toOption

namespace Run

/-- How a turn takes a message, if it does. -/
inductive Takes (faults : Faults) (run : Run) (turn : Turn) : Run × Outcome → Prop
  /-- A report fails, or the read does. -/
  | deaf {next : Run} {outcome : Outcome} {more : List Entry}
      (cause : (run.drain faults).2 ≠ none ∨ turn.message? = none)
      (entries : next.entries = run.entries ++ more) (deaf : heardIn more = [])
      (ends : outcome ≠ .goOn) : Takes faults run turn (next, outcome)
  | heard {message : Json} {hearing next : Run} {outcome : Outcome} {reports later : List Entry}
      (brings : turn.message? = some message)
      (hears : hearing.entries = run.entries ++ (reports ++ [.received message]))
      (entries : next.entries = hearing.entries ++ later)
      (deaf : heardIn reports = [] ∧ heardIn later = [])
      (handles : ∀ req, request? message = some req →
        (hearing.handle faults turn.files req).1.entries <+: next.entries) :
      Takes faults run turn (next, outcome)

theorem entries_afterwards (run : Run) (faults : Faults) (outcome : Outcome) :
    ∃ last, (serve.afterwards (run.drain faults) outcome).1.entries = run.entries ++ last ∧
      heardIn last = [] := by
  obtain ⟨last, hdrain, hquiet⟩ := run.idles_drain faults
  have hentries := hdrain.entries
  unfold serve.afterwards
  split
  · rename_i heq
    rw [heq] at hentries
    exact ⟨last, hentries, hquiet⟩
  · rename_i heq
    rw [heq] at hentries
    exact ⟨last, hentries, hquiet⟩

/-- **A turn** hears its message or none, and handles the request in it right after. -/
theorem serve_takes (run : Run) (faults : Faults) (turn : Turn) :
    Takes faults run turn (run.serve faults turn) := by
  obtain ⟨reports, hdrain, hdeaf⟩ := run.idles_drain faults
  unfold serve
  split
  · rename_i drained failure heq
    rw [heq] at hdrain
    exact .deaf (.inl (by simp [heq])) hdrain.entries hdeaf (by simp)
  · rename_i drained heq
    rw [heq] at hdrain
    split
    · rename_i cause hread
      exact .deaf (.inr (by simp [Turn.message?, hread, Except.toOption])) hdrain.entries hdeaf
        (by simp)
    · rename_i message hread
      have hbrings : turn.message? = some message := by
        simp [Turn.message?, hread, Except.toOption]
      dsimp only
      generalize hhearing : ({ drained with
        queue := drained.queue ++ turn.arrivals
        entries := drained.entries ++ [.received message] } : Run) = hearing
      have hhears : hearing.entries = run.entries ++ (reports ++ [.received message]) := by
        rw [← hhearing, ← List.append_assoc, ← hdrain.entries]
      split
      · rename_i hreq
        exact .heard hbrings hhears (List.append_nil _).symm ⟨hdeaf, rfl⟩ fun req h => by
          rw [hreq] at h
          cases h
      · rename_i req hreq
        obtain ⟨handled, hhandled, hquiet, -⟩ := entries_handle hearing faults turn.files req
        -- However the handling ends, nothing is heard after it.
        have closes : ∀ {result : Run × Outcome} {last : List Entry},
            result.1.entries = (hearing.handle faults turn.files req).1.entries ++ last →
            heardIn last = [] → Takes faults run turn result := by
          intro result last hresult hlast
          have hlater : result.1.entries = hearing.entries ++ (handled ++ last) := by
            rw [hresult, hhandled, List.append_assoc]
          refine .heard hbrings hhears hlater ⟨hdeaf, ?_⟩ fun req' h => ?_
          · rw [heardIn_append, hquiet, hlast, List.nil_append]
          · rw [hreq] at h
            cases h
            rw [hresult]
            exact List.prefix_append _ _
        split
        · rename_i next hnext
          obtain ⟨last, hlast, hsilent⟩ := next.entries_afterwards faults .goOn
          exact closes (by rw [hlast, hnext]) hsilent
        · rename_i next hnext
          obtain ⟨last, hlast, hsilent⟩ := next.entries_afterwards faults .disconnected
          exact closes (by rw [hlast, hnext]) hsilent
        · exact closes (List.append_nil _).symm rfl

/-- What a run hears are the first of the messages that its turns bring. -/
theorem heardIn_serveAll (faults : Faults) (run : Run) (turns : List Turn) :
    ∃ more, (run.serveAll faults turns).1.entries = run.entries ++ more ∧
      heardIn more <+: turns.filterMap Turn.message? := by
  induction turns generalizing run with
  | nil => exact ⟨[], (List.append_nil _).symm, List.nil_prefix⟩
  | cons turn turns ih =>
    generalize hserve : run.serve faults turn = result
    cases hserve ▸ run.serve_takes faults turn with
    | @deaf next outcome more cause entries deaf ends =>
      rw [serveAll_ended hserve ends]
      exact ⟨more, entries, deaf ▸ List.nil_prefix⟩
    | @heard message hearing next outcome reports later brings hears entries deaf handles =>
      have hfirst : next.entries = run.entries ++ (reports ++ .received message :: later) := by
        rw [entries, hears, List.append_assoc, List.append_assoc, List.singleton_append]
      have hone : heardIn (reports ++ .received message :: later) = [message] := by
        rw [heardIn_append, deaf.1, heardIn_received, deaf.2, List.nil_append]
      rw [List.filterMap_cons_some brings]
      by_cases hgoes : outcome = .goOn
      · subst hgoes
        obtain ⟨rest, hrest, hheard⟩ := ih next
        rw [serveAll_goOn hserve]
        refine ⟨reports ++ .received message :: later ++ rest, ?_, ?_⟩
        · rw [hrest, hfirst, List.append_assoc]
        · rw [heardIn_append, hone]
          exact (List.prefix_append_right_inj [message]).2 hheard
      · rw [serveAll_ended hserve hgoes]
        exact ⟨_, hfirst, hone ▸ List.prefix_append [message] _⟩

/-! ## Launches -/

/-- **A traced launch** switches tracing on before anything else. -/
theorem handle_traced {run : Run} (faults : Faults) {files : Files.View} {req : Request}
    {acts : List Act} (plans : run.session.plan files req = .ok (.traceOn :: acts)) :
    ∃ later, (run.handle faults files req).1.entries = run.entries ++ .traceOn :: later := by
  generalize hresult : run.handle faults files req = result
  cases hresult ▸ handle_cases faults run files req with
  | refused refuses =>
    rw [plans] at refuses
    cases refuses
  | panicked panics =>
    rw [Session.stackTrace_of_panics panics] at plans
    cases plans
  | done plans' _ =>
    rw [plans] at plans'
    cases plans'
    exact ⟨_, rfl⟩
  | @broken before rest after m failure plans' _ _ =>
    rw [plans] at plans'
    cases before with
    | nil => cases plans'
    | cons act before =>
      cases plans'
      rw [fail_run]
      simp only [missed, performed, recorded, List.append_assoc, List.cons_append]
      exact ⟨_, rfl⟩

end Run

/-- A turn that launches a program, to be traced, whose file can be read. -/
def Turn.LaunchesTraced (turn : Turn) : Prop :=
  ∃ args path source, turn.command? = some (.launch args) ∧ args.trace = true ∧
    args.program = some path ∧ Session.load turn.files path = .ok source

namespace Run

theorem serve_launch_traced {run : Run} {faults : Faults} {turn : Turn}
    (launches : turn.LaunchesTraced) (reported : (run.drain faults).2 = none) :
    ∃ message reports later, turn.message? = some message ∧ heardIn reports = [] ∧
      (run.serve faults turn).1.entries =
        run.entries ++ (reports ++ .received message :: .traceOn :: later) := by
  obtain ⟨args, path, source, hcommand, traces, hpath, hload⟩ := launches
  obtain ⟨message, req, hread, hreq, hof⟩ := Turn.request_of_command hcommand
  have hmessage : turn.message? = some message := by simp [Turn.message?, hread, Except.toOption]
  generalize hserve : run.serve faults turn = result
  cases hserve ▸ run.serve_takes faults turn with
  | deaf cause _ _ _ =>
    rw [hmessage] at cause
    rcases cause with hfailed | hnone
    · exact absurd reported hfailed
    · cases hnone
  | @heard _ hearing next outcome reports _ brings hears _ deaf handles =>
    rw [hmessage] at brings
    cases brings
    obtain ⟨acts, hplan⟩ : ∃ acts,
        hearing.session.plan turn.files req = .ok (.traceOn :: acts) := by
      simp only [Session.plan, hof, Session.launch, hpath, hload, traces, if_true]
      exact ⟨_, rfl⟩
    obtain ⟨later, hlater⟩ := handle_traced faults hplan
    obtain ⟨rest, hrest⟩ := handles req hreq
    refine ⟨message, reports, later ++ rest, hmessage, deaf.1, ?_⟩
    rw [← hrest, hlater, hears]
    simp only [List.append_assoc, List.cons_append, List.nil_append]

end Run

/-! ## Logs -/

theorem entries_serveAll_cons (run : Run) (faults : Faults) (turn : Turn) (rest : List Turn) :
    ∃ more, (run.serveAll faults (turn :: rest)).1.entries =
      (run.serve faults turn).1.entries ++ more := by
  generalize hserve : run.serve faults turn = result
  obtain ⟨next, outcome⟩ := result
  by_cases hgoes : outcome = .goOn
  · subst hgoes
    rw [Run.serveAll_goOn hserve]
    obtain ⟨more, hmore, -⟩ := next.heardIn_serveAll faults rest
    exact ⟨more, hmore⟩
  · rw [Run.serveAll_ended hserve hgoes]
    exact ⟨[], (List.append_nil _).symm⟩

/-- **The log agrees with the wire.** Whatever calls are made on a channel that logs to a file, and
whichever of them fail, the file grows by a line for every message that was read or was to be written
while tracing was on, in the order of the calls, and by nothing else. The lines are one to one with
the messages: an arrow to the left and the text of a message that was read, an arrow to the right and
the text of a message that was to be written, which is the text that it has in its frame.

Let a session read its messages from such a channel, whatever writes fail. If tracing is on at first,
all messages of the session are logged. If a program is launched, to be traced, and its file can be
read, all that come after the launch are logged. -/
theorem traffic_logged :
    (∀ (channel : Channel) (file : List Char) (calls : List Wire.Call), channel.log = some file →
      let passed := (channel.callAll calls).1
      let last := (channel.callAll calls).2
      let messages := Wire.tracedMessages channel.trace passed
      last.log = some (file ++ Wire.logText messages) ∧
        (Text.lines (Wire.logText messages) = messages.map fun message =>
          match message with
          | (.inbound, m) => "<- ".toList ++ m.render
          | (.outbound, m) => "-> ".toList ++ m.render) ∧
        (∀ message ∈ messages, '\n' ∉ message.2.render) ∧
        last.output = channel.output ++ calls.flatMap Wire.Call.bytes) ∧
      ∀ (link : Link) (queue : List Link.Event) (faults : Faults) (lost : Nat → Nat)
        (turns : List Turn) (channel : Channel) (file : List Char), channel.log = some file →
        turns.filterMap Turn.message? <+: (Wire.readAll channel.input).1 →
        let start : Run := { Run.start link with queue }
        let entries := (start.serveAll faults turns).1.entries
        let passed := (channel.callAll (entries.map (Entry.call lost))).1
        let last := (channel.callAll (entries.map (Entry.call lost))).2
        passed = entries.map Entry.traffic ∧
          (channel.trace = true →
            last.log = some (file ++ Wire.logText (entries.filterMap Entry.passed?))) ∧
          ∀ (before : List Turn) (launch : Turn) (rest : List Turn) (mid : Run),
            turns = before ++ launch :: rest → start.serveAll faults before = (mid, .goOn) →
            (mid.drain faults).2 = none → launch.LaunchesTraced →
            ∃ message reports later, launch.message? = some message ∧ heardIn reports = [] ∧
              entries = mid.entries ++ (reports ++ Entry.received message :: .traceOn :: later) ∧
              last.log = some (file ++
                Wire.logText (Wire.tracedMessages channel.trace
                  ((mid.entries ++ (reports ++ [Entry.received message])).map Entry.traffic)) ++
                Wire.logText (later.filterMap Entry.passed?)) := by
  refine ⟨?_, ?_⟩
  · intro channel file calls logs passed last messages
    refine ⟨Channel.log_callAll logs calls, Wire.lines_logText messages, fun message _ => ?_,
      (channel.called_callAll calls).output⟩
    exact (Json.plain_render message.2).not_mem (by decide)
  · intro link queue faults lost turns channel file logs ahead start entries passed last
    obtain ⟨more, hentries, hheard⟩ := start.heardIn_serveAll faults turns
    have hmore : entries = more := hentries
    rw [← hmore] at hheard
    have hpassed : passed = entries.map Entry.traffic := callAll_entries lost (hheard.trans ahead)
    have hlog : last.log = some (file ++
        Wire.logText (Wire.tracedMessages channel.trace (entries.map Entry.traffic))) := by
      rw [← hpassed]
      exact Channel.log_callAll logs _
    refine ⟨hpassed, fun htrace => ?_, ?_⟩
    · rw [hlog, htrace, tracedMessages_of_on]
    · intro before launch rest mid hturns hbefore hreported hlaunch
      obtain ⟨message, reports, later, hmessage, hdeaf, hserve⟩ :=
        Run.serve_launch_traced hlaunch hreported
      obtain ⟨after, hafter⟩ := entries_serveAll_cons mid faults launch rest
      have hsplit : entries =
          mid.entries ++ (reports ++ Entry.received message :: .traceOn :: (later ++ after)) := by
        show (start.serveAll faults turns).1.entries = _
        rw [hturns, Run.serveAll_append hbefore, hafter, hserve]
        simp only [List.append_assoc, List.cons_append]
      refine ⟨message, reports, later ++ after, hmessage, hdeaf, hsplit, ?_⟩
      have hsplit' : entries = mid.entries ++ (reports ++ [Entry.received message]) ++
          .traceOn :: (later ++ after) := by
        rw [hsplit]
        simp only [List.append_assoc, List.cons_append, List.nil_append]
      rw [hlog, hsplit', List.map_append, List.map_cons, Entry.traffic,
        Wire.tracedMessages_setTrace, tracedMessages_of_on, Wire.logText_append, List.append_assoc]

/-- The threads are asked for, a program is launched, to be traced, and the threads are asked for
again. Half of the first response is lost. The log gets the last five of the ten entries. -/
theorem traced_from_launch_on :
    let request (command : String) (arguments : Json) : Json := .obj
      [("arguments", arguments), ("command", .str command), ("seq", .int 1),
       ("type", .str "request")]
    let threads := request "threads" .null
    let go := request "launch"
      (.obj [("program", .str "p.tab"), ("stopOnEntry", .bool true), ("trace", .bool true)])
    let files : Files.View :=
      { read := fun _ => .ok (Text.encode "one\ntwo".toList), canonical := fun _ => none }
    let turn (message : Json) : Turn := { inbound := .ok message, files }
    let turns := [turn threads, turn go, turn threads]
    let faults : Faults := fun seq => if seq = 1 then some "lost" else none
    let channel : Channel :=
      { input := [threads, go, threads].flatMap Wire.frame, log := some "# on\n".toList }
    let entries := (Run.serveAll faults { Run.start .absent with queue := [] } turns).1.entries
    let last := (channel.callAll (entries.map (Entry.call fun _ => 40))).2
    entries.length = 10 ∧
      last.log = some ("# on\n".toList ++
        Wire.logText ((entries.drop 5).filterMap Entry.passed?)) := by
  intro request threads go files turn turns faults channel entries last
  have hsendable : ∀ m ∈ [threads, go, threads], Wire.Sendable m := by
    have hthreads : Wire.Sendable threads := ⟨by decide +kernel, by decide +kernel⟩
    have hgo : Wire.Sendable go := ⟨by decide +kernel, by decide +kernel⟩
    simp [hthreads, hgo]
  have hahead : turns.filterMap Turn.message? <+: (Wire.readAll channel.input).1 := by
    rw [Wire.readAll_frames hsendable]
    exact List.prefix_refl _
  have hlaunches : (turn go).LaunchesTraced :=
    ⟨{ program := some "p.tab", stopOnEntry := true, trace := true }, "p.tab", _, rfl, rfl, rfl, rfl⟩
  obtain ⟨-, -, htraced⟩ := traffic_logged.2 .absent [] faults (fun _ => 40) turns channel
    "# on\n".toList rfl hahead
  let mid := (Run.serveAll faults { Run.start .absent with queue := [] } [turn threads]).1
  obtain ⟨message, reports, later, hmessage, hdeaf, hentries, hlog⟩ :=
    htraced [turn threads] (turn go) [turn threads] mid rfl rfl (by decide +kernel) hlaunches
  have hmid : mid.entries.length = 3 := by decide +kernel
  have hdrop : Entry.received go :: .traceOn :: entries.drop 5 =
      reports ++ Entry.received message :: .traceOn :: later :=
    Eq.trans (by rfl) ((congrArg (List.drop 3) hentries).trans (List.drop_left' hmid))
  cases reports with
  | cons first reports =>
    obtain ⟨rfl, -⟩ := List.cons.inj hdrop
    cases hdeaf
  | nil =>
    cases hdrop
    have hsilent : (Wire.tracedMessages false
        ((mid.entries ++ [Entry.received go]).map Entry.traffic)).isEmpty = true := by
      decide +kernel
    rw [List.nil_append, List.isEmpty_iff.1 hsilent, Wire.logText, List.flatMap_nil,
      List.append_nil] at hlog
    exact ⟨by decide +kernel, hlog⟩

end TabTools.Debug
