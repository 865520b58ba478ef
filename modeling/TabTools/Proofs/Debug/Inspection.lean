import Mathlib.Data.List.Forall2
import TabTools.Proofs.Debug.Answers

/-!
# Inspecting a program

Some requests steer a program (`steeringCommands`): they launch it, run it, end it, or say where it
stops. All others only look at it. What a client sees of the steering (`steered`) are the responses
to such requests, the events about the program, and the lines it comes to.

**Theorem (`steering_undisturbed_iff`).** Take two runs without failed writes that are steered alike,
by the same requests over the same files, whatever else is asked and whichever events of the tab
server are reported between. They show the same, up to the numbers of messages and handles, exactly
if as many steering requests come before a crash in one as in the other; so they do if neither
crashes.

The proof compares every run with the run of its steering requests alone (`replay`). What a request
does is decided by the session without its handles and its link (`core`), and that part is changed
by nothing but steering: inspecting makes handles at most (`reaction_inspection`), and so does
reporting. A crash cuts the steering off (`steered_serveAll`), and every request that is cut off
would have shown something (`steered_ne_nil`).
-/

namespace TabTools.Debug

/-! ## Steering -/

/-- The commands that steer a program. -/
def steeringCommands : List String :=
  ["initialize", "launch", "setBreakpoints", "continue", "reverseContinue", "next", "stepBack",
   "terminate", "disconnect"]

/-- How output about the cursor starts. -/
def cursorMark : List Char := "line: ".toList

/-- A message without the handle that comes with a line of output. -/
def Message.core : Message → Message
  | .event (.output text _) => .event (.output text 0)
  | m => m

/-- Whether a message shows something of the steering. -/
def Message.steers : Message → Bool
  | .event (.output text _) => cursorMark.isPrefixOf text.toList
  | .event _ => true
  | .success request _ => request.command ∈ steeringCommands
  | .failure request _ => request.command ∈ steeringCommands

/-- What a message shows of the steering. -/
def Message.steered? (m : Message) : Option Message := if m.steers then some m.core else none

/-- What the delivered messages among entries show of the steering, in order. -/
def steered (entries : List Entry) : List Message :=
  entries.filterMap fun
    | .sent _ m true => m.steered?
    | _ => none

/-- The steering requests that turns bring until the session ends, each with the files there are. -/
def steering : List Turn → List (Request × Files.View)
  | [] => []
  | turn :: rest =>
    match turn.inbound with
    | .error _ => []
    | .ok message =>
      match Run.request? message with
      | none => steering rest
      | some req =>
        if req.command = "disconnect" then [(req, turn.files)]
        else if req.command ∈ steeringCommands then (req, turn.files) :: steering rest
        else steering rest

/-- The same request, over files that are the same where the request looks at them. -/
structure SteersAlike (a b : Request × Files.View) : Prop where
  request : a.1 = b.1
  read : ∀ path ∈ a.1.paths, a.2.read path = b.2.read path
  canonical : ∀ path ∈ a.1.paths, a.2.canonical path = b.2.canonical path

/-! ## The core of a session -/

namespace Session

/-- The part of a session that steering depends on. -/
def core (s : Session) : Session := { s with handles := {}, link := .absent }

@[simp] theorem core_core (s : Session) : s.core.core = s.core := rfl

@[simp] theorem core_handles (s : Session) (handles : Handles) :
    ({ s with handles } : Session).core = s.core := rfl

end Session

/-- An act as far as it concerns the steering. -/
def Act.core : Act → Act
  | .traceOn => .traceOn
  | .write after m => .write after.core m.core

/-- An obstacle as far as it concerns the steering. -/
def Obstacle.core : Obstacle → Obstacle
  | .refused after why => .refused after.core why
  | .panic => .panic

theorem finalSession_core (s : Session) (acts : List Act) :
    (finalSession s acts).core = finalSession s.core (acts.map Act.core) := by
  induction acts generalizing s with
  | nil => rfl
  | cons act acts ih =>
    cases act with
    | traceOn => exact ih s
    | write after m => exact ih after

theorem Message.steered?_core (m : Message) : m.core.steered? = m.steered? := by
  cases m with
  | event e => cases e <;> rfl
  | success | failure => rfl

/-- What acts show of the steering is what their cores show. -/
theorem steered_core (acts : List Act) :
    (messages (acts.map Act.core)).filterMap Message.steered? =
      (messages acts).filterMap Message.steered? := by
  induction acts with
  | nil => rfl
  | cons act acts ih =>
    cases act with
    | traceOn => exact ih
    | write after m =>
      rw [List.map_cons, Act.core, messages_write, messages_write, List.filterMap_cons,
        List.filterMap_cons, Message.steered?_core, ih]

namespace Session

theorem probe_core (s : Session) (p : Probe) (line : Nat) : s.core.probe p line = s.probe p line :=
  rfl

theorem scan_core (s : Session) (direction : Direction) (p : Probe) :
    s.core.scan direction p = s.scan direction p := by
  have hfirst : ∀ lines, s.core.firstStop p lines = s.firstStop p lines := by
    intro lines
    induction lines with
    | nil => rfl
    | cons line rest ih => rw [firstStop, firstStop, probe_core, ih]
  exact hfirst _

theorem stopAt_core (s : Session) (req : Request) (line : Nat) (reason : StopReason)
    (hit : Option Nat) (verified : Option Breakpoint) :
    (s.core.stopAt req line reason hit verified).map Act.core =
      (s.stopAt req line reason hit verified).map Act.core := by
  cases verified <;> rfl

theorem resume_core (s : Session) (req : Request) (direction : Direction) (p : Probe) :
    (s.core.resume req direction p).map Act.core = (s.resume req direction p).map Act.core := by
  have hscan : s.core.running.scan direction p = s.running.scan direction p := by
    rw [← scan_core s.core.running, ← scan_core s.running]
    rfl
  unfold resume
  dsimp only
  rw [show ({ s.core with phase := .running } : Session) = s.core.running from rfl,
    show ({ s with phase := .running } : Session) = s.running from rfl, hscan]
  cases s.running.scan direction p with
  | some stop => exact stopAt_core (s.reached stop.table) _ _ _ _ _
  | none =>
    cases direction with
    | forward => rfl
    | backward => exact stopAt_core s.running _ _ _ _ _

/-- The cores of the acts of a plan, or of what keeps it from being one. -/
def cores (plan : Except Obstacle (List Act)) : Except Obstacle (List Act) :=
  (plan.map (List.map Act.core)).mapError Obstacle.core

theorem launch_core (s : Session) (files : Files.View) (req : Request) (args : LaunchArguments) :
    cores (s.core.launch files req args) = cores (s.launch files req args) := by
  unfold launch
  split
  · rfl
  · rename_i path _
    split
    · rfl
    · rename_i source _
      have hstart : ((s.core.loaded (files.sourcePath path) source).start req args).map Act.core =
          ((s.loaded (files.sourcePath path) source).start req args).map Act.core := by
        unfold start
        split
        · exact stopAt_core (s.loaded (files.sourcePath path) source) _ _ _ _ _
        · exact resume_core (s.loaded (files.sourcePath path) source) _ _ _
      cases htrace : args.trace with
      | false => exact congrArg Except.ok hstart
      | true => exact congrArg (fun acts => Except.ok (Act.traceOn :: acts)) hstart

theorem setBreakpoints_core (s : Session) (files : Files.View) (req : Request)
    (args : SetBreakpointsArguments) :
    cores (s.core.setBreakpoints files req args) = cores (s.setBreakpoints files req args) := by
  unfold setBreakpoints
  split
  · rfl
  · split <;> rfl

theorem step_core (s : Session) (req : Request) (direction : Direction) (p : Probe) :
    cores (s.core.step req direction p) = cores (s.step req direction p) := by
  unfold step
  rw [show s.core.isLive = s.isLive from rfl, show s.core.phase = s.phase from rfl]
  split
  · exact congrArg Except.ok (resume_core s req direction p)
  · split <;> rfl

/-- **What steering does depends on the core only.** -/
theorem plan_core (s : Session) (files : Files.View) {req : Request}
    (h : req.command ∈ steeringCommands) :
    cores (s.core.plan files req) = cores (s.plan files req) := by
  unfold plan
  split
  · rfl
  · rename_i command hof
    rw [Command.ofRequest_name hof] at h
    cases command with
    | initializeAdapter args => rfl
    | launch args => exact launch_core s files req args
    | setBreakpoints args => exact setBreakpoints_core s files req args
    | continueForward | continueBackward | stepForward | stepBackward => exact step_core s req _ _
    | terminate =>
      dsimp only
      rw [show s.core.isLive = s.isLive from rfl]
      split <;> rfl
    | disconnect => rfl
    | _ => simp [steeringCommands, Command.name] at h

theorem reaction_core (s : Session) (files : Files.View) {req : Request}
    (h : req.command ∈ steeringCommands) :
    (s.core.reaction files req).map Act.core = (s.reaction files req).map Act.core := by
  have hplan := plan_core s files h
  unfold reaction
  cases hs : s.plan files req with
  | ok acts =>
    cases hcore : s.core.plan files req with
    | ok acts' =>
      rw [hs, hcore] at hplan
      exact Except.ok.inj hplan
    | error obstacle =>
      rw [hs, hcore] at hplan
      cases hplan
  | error obstacle =>
    cases hcore : s.core.plan files req with
    | ok acts =>
      rw [hs, hcore] at hplan
      cases hplan
    | error obstacle' =>
      rw [hs, hcore] at hplan
      cases hindered_of_plan hs with
      | refused why =>
        cases hindered_of_plan hcore with
        | refused why' => cases hplan; rfl
        | panicked => cases hplan
      | panicked =>
        cases hindered_of_plan hcore with
        | refused => cases hplan
        | panicked => rfl

/-- **Inspecting is answering**: nothing else is written, and at most handles are made. -/
theorem plan_inspection {s : Session} {files : Files.View} {req : Request} {acts : List Act}
    (h : req.command ∉ steeringCommands) (hplan : s.plan files req = .ok acts) :
    ∃ handles body, acts = [({ s with handles }).succeed req body] := by
  unfold plan at hplan
  split at hplan
  · cases hplan
  · rename_i command hof
    rw [Command.ofRequest_name hof] at h
    cases command with
    | configurationDone | threads | evaluate => cases hplan; exact ⟨s.handles, _, rfl⟩
    | scopes args => cases hplan; exact ⟨_, _, rfl⟩
    | stackTrace args =>
      have hplan : s.stackTrace req args = .ok acts := hplan
      generalize s.stackTrace req args = result, s.stackTrace_cases req args = traced at hplan
      cases traced with
      | refused | panicked => cases hplan
      | told => cases hplan; exact ⟨s.handles, _, rfl⟩
    | «variables» args =>
      cases hplan
      unfold listVariables
      split
      · exact ⟨s.handles, _, rfl⟩
      · exact ⟨_, _, rfl⟩
    | _ => simp [steeringCommands, Command.name] at h

/-- What is done about a request that does not steer shows nothing of the steering, and keeps the
core. -/
theorem reaction_inspection (s : Session) (files : Files.View) {req : Request}
    (h : req.command ∉ steeringCommands) :
    (messages (s.reaction files req)).filterMap Message.steered? = [] ∧
      (finalSession s (s.reaction files req)).core = s.core := by
  unfold reaction
  cases hplan : s.plan files req with
  | error obstacle =>
    cases hindered_of_plan hplan with
    | refused why => exact ⟨by simp [Message.steered?, Message.steers, Request.answered, h], rfl⟩
    | panicked panics => exact ⟨rfl, rfl⟩
  | ok acts =>
    obtain ⟨handles, body, rfl⟩ := plan_inspection h hplan
    exact ⟨by simp [succeed, Message.steered?, Message.steers, Request.answered, h], rfl⟩

/-! ## Files -/

/-- A request looks at no other files than its own. -/
theorem reaction_alike (s : Session) {req : Request} {files files' : Files.View}
    (hread : ∀ path ∈ req.paths, files.read path = files'.read path)
    (hcanonical : ∀ path ∈ req.paths, files.canonical path = files'.canonical path) :
    s.reaction files req = s.reaction files' req := by
  have hload : ∀ path ∈ req.paths, load files path = load files' path := fun path hpath => by
    simp only [load, Files.View.readText, hread path hpath]
  have hsource : ∀ path ∈ req.paths, files.sourcePath path = files'.sourcePath path :=
    fun path hpath => by simp only [Files.View.sourcePath, hcanonical path hpath]
  have hplan : s.plan files req = s.plan files' req := by
    unfold plan
    cases hof : Command.ofRequest req with
    | error e => rfl
    | ok command =>
      cases command with
      | launch args =>
        dsimp only [launch]
        cases hpath : args.program with
        | none => rfl
        | some path =>
          have hmem : path ∈ req.paths := by simp [Request.paths, hof, hpath]
          dsimp only
          rw [hload path hmem, hsource path hmem]
      | setBreakpoints args =>
        dsimp only [setBreakpoints]
        cases hpath : args.source.path with
        | none => rfl
        | some path =>
          have hmem : path ∈ req.paths := by simp [Request.paths, hof, hpath]
          dsimp only
          rw [hload path hmem, hsource path hmem]
      | _ => rfl
  rw [reaction, reaction, hplan]

end Session

/-! ## Runs of steering alone -/

/-- What steering requests show when nothing else is asked. -/
def replay : Session → List (Request × Files.View) → List Message
  | _, [] => []
  | s, (req, files) :: rest =>
    (messages (s.reaction files req)).filterMap Message.steered? ++
      replay (finalSession s (s.reaction files req)).core rest

theorem replay_alike (s : Session) {asked asked' : List (Request × Files.View)}
    (h : List.Forall₂ SteersAlike asked asked') : replay s asked = replay s asked' := by
  induction h generalizing s with
  | nil => rfl
  | @cons a b rest rest' halike _ ih =>
    obtain ⟨req, files⟩ := a
    obtain ⟨req', files'⟩ := b
    obtain ⟨rfl, hread, hcanonical⟩ := halike
    rw [replay, replay, s.reaction_alike hread hcanonical, ih]

/-! ## Reports -/

theorem head?_line (event : Link.Event) : event.line.toList.head? = some 'p' := by
  have happend : ∀ start rest : String, start.toList.head? = some 'p' →
      (start ++ rest).toList.head? = some 'p' := by
    intro start rest h
    rw [String.toList_append, List.head?_append, h]
    rfl
  cases event with
  | connected id peer =>
    have hstart : "player ".toList.head? = some 'p' := by decide +kernel
    exact happend _ _ (happend _ _ (happend _ _ (happend _ _ hstart)))
  | disconnected id =>
    have hstart : "player disconnected (".toList.head? = some 'p' := by decide +kernel
    exact happend _ _ (happend _ _ hstart)
  | message id m =>
    have hstart : "player message `".toList.head? = some 'p' := by decide +kernel
    exact happend _ _ (happend _ _ (happend _ _ (happend _ _ (happend _ _ hstart))))

/-- No event of the tab server looks like a line of the program. -/
theorem steered?_line (event : Link.Event) (handle : Nat) :
    (Message.event (.output event.line handle)).steered? = none := by
  obtain ⟨rest, hrest⟩ : ∃ rest, event.line.toList = 'p' :: rest := by
    have hhead := head?_line event
    cases hline : event.line.toList with
    | nil => rw [hline] at hhead; cases hhead
    | cons c rest =>
      rw [hline] at hhead
      cases hhead
      exact ⟨rest, rfl⟩
  have hmark : cursorMark.isPrefixOf ('p' :: rest) = false := rfl
  rw [Message.steered?, Message.steers, hrest, hmark]
  rfl

/-- **Reporting** shows nothing of the steering. -/
theorem steered_reportActs (s : Session) (events : List Link.Event) :
    (messages (Run.reportActs s events)).filterMap Message.steered? = [] := by
  induction events generalizing s with
  | nil => rfl
  | cons event rest ih =>
    have hrest := ih (s.sayLine event.line).1
    show (Message.event (.output event.line s.handles.next) ::
      messages (Run.reportActs (s.sayLine event.line).1 rest)).filterMap Message.steered? = []
    rw [List.filterMap_cons, steered?_line, hrest]

/-! ## Runs -/

namespace Run

theorem steered_append (xs ys : List Entry) : steered (xs ++ ys) = steered xs ++ steered ys :=
  List.filterMap_append

theorem steered_performed (run : Run) (acts : List Act) :
    steered (run.performed acts).entries =
      steered run.entries ++ (messages acts).filterMap Message.steered? :=
  filterMap_performed (fun _ _ => rfl) rfl run acts

theorem steered_drained (run : Run) : steered run.drained.entries = steered run.entries := by
  rw [drained, steered_performed, steered_reportActs, List.append_nil]

theorem core_drained (run : Run) : run.drained.session.core = run.session.core := by
  obtain ⟨handles, hsession⟩ := run.session_drained
  rw [hsession, Session.core_handles]

theorem steered_heard (run : Run) (turn : Turn) (message : Json) :
    steered (run.heard turn message).entries = steered run.entries := by
  rw [heard, steered_append, steered_drained]
  exact List.append_nil _

theorem core_heard (run : Run) (turn : Turn) (message : Json) :
    (run.heard turn message).session.core = run.session.core := run.core_drained

/-- What a run shows of the steering, and the core it leaves. -/
structure Shows (run next : Run) (shown : List Message) (core : Session) : Prop where
  steered : steered next.entries = steered run.entries ++ shown
  core : next.session.core = core

/-- **A turn with a request** shows what the request does to the core. -/
theorem shows_request (run : Run) (turn : Turn) (message : Json) (req : Request) :
    Shows run
      ((run.heard turn message).performed
        ((run.heard turn message).session.reaction turn.files req)).drained
      (if req.command ∈ steeringCommands then
        (messages (run.session.core.reaction turn.files req)).filterMap Message.steered? else [])
      (if req.command ∈ steeringCommands then
        (finalSession run.session.core (run.session.core.reaction turn.files req)).core
        else run.session.core) := by
  have hcore := run.core_heard turn message
  constructor
  · rw [steered_drained, steered_performed, steered_heard]
    split
    · rename_i h
      rw [← hcore, ← steered_core, ← steered_core (Session.reaction _ _ _),
        Session.reaction_core _ _ h]
    · rename_i h
      rw [(Session.reaction_inspection _ _ h).1]
  · rw [core_drained]
    split
    · rename_i h
      rw [← hcore]
      simp only [performed, finalSession_core, Session.reaction_core _ _ h, Session.core_core]
    · rename_i h
      rw [← hcore]
      exact (Session.reaction_inspection _ _ h).2

/-- **A run shows what its steering alone would show.** -/
theorem steered_serveAll (run : Run) (turns : List Turn) :
    steered (serveAll Faults.none run turns).1.entries =
      steered run.entries ++
        replay run.session.core (steering (beforeCrash run.session.program turns)) := by
  induction turns generalizing run with
  | nil => exact (List.append_nil _).symm
  | cons turn rest ih =>
    cases hcrash : turn.crashes run.session.program with
    | true =>
      obtain ⟨message, -, hserve⟩ := serve_crash hcrash
      rw [serveAll_ended hserve (by simp), beforeCrash, if_pos hcrash, steered_heard]
      exact (List.append_nil _).symm
    | false =>
      rw [beforeCrash, hcrash]
      cases hread : turn.inbound with
      | error cause =>
        rw [serveAll_ended (serve_none_error run hread) (by simp)]
        simp only [Bool.false_eq_true, if_false, steering, hread, replay, List.append_nil]
        exact run.steered_drained
      | ok message =>
        cases hreq : request? message with
        | none =>
          have hserve := serve_none_other run hread hreq
          rw [serveAll_goOn hserve, ih, steered_heard, core_heard, program_serve hcrash hserve]
          simp only [Bool.false_eq_true, if_false, steering, hread, hreq]
        | some req =>
          obtain ⟨hsteered, hcore⟩ := run.shows_request turn message req
          have hserve := serve_none_request run hread hreq (not_panics hread hreq hcrash)
          by_cases hlast : req.command = "disconnect"
          · have hsteers : req.command ∈ steeringCommands := by rw [hlast]; decide
            rw [outcomeOf, if_pos hlast] at hserve
            rw [serveAll_ended hserve (by simp), hsteered, if_pos hsteers]
            simp only [Bool.false_eq_true, if_false, steering, hread, hreq, if_pos hlast, replay,
              List.append_nil]
          · rw [outcomeOf, if_neg hlast] at hserve
            rw [serveAll_goOn hserve, ih, hsteered, hcore, program_serve hcrash hserve]
            by_cases hsteers : req.command ∈ steeringCommands
            · simp only [Bool.false_eq_true, if_false, steering, hread, hreq, if_neg hlast,
                if_pos hsteers, replay, List.append_assoc]
            · simp only [Bool.false_eq_true, if_false, steering, hread, hreq, if_neg hlast,
                if_neg hsteers, List.append_nil]

end Run

/-! ## Steering that a crash cuts off -/

/-- What is done before a crash is the beginning of what there was to do. -/
theorem steering_beforeCrash_isPrefix (program : Option Files.Path) (turns : List Turn) :
    steering (beforeCrash program turns) <+: steering turns := by
  induction turns generalizing program with
  | nil => exact List.prefix_refl _
  | cons turn rest ih =>
    have hrest := ih (turn.launches?.or program)
    rw [beforeCrash]
    split
    · exact List.nil_prefix
    · simp only [steering]
      split
      · exact List.prefix_refl _
      · split
        · exact hrest
        · split
          · exact List.prefix_refl _
          · split
            · exact List.prefix_cons_inj _ |>.2 hrest
            · exact hrest

/-- Without a crash, all is done. -/
theorem steering_beforeCrash {program : Option Files.Path} {turns : List Turn}
    (h : ¬ Crashing program turns) : steering (beforeCrash program turns) = steering turns := by
  induction turns generalizing program with
  | nil => rfl
  | cons turn rest ih =>
    rw [crashing_cons, not_or, not_and] at h
    obtain ⟨hcrash, hrest⟩ := h
    rw [beforeCrash, if_neg hcrash]
    cases hread : turn.inbound with
    | error cause => simp only [steering, hread]
    | ok message =>
      cases hreq : Run.request? message with
      | none =>
        have hgoes : turn.goesOn = true := by
          simp [Turn.goesOn, hread, Run.command?_silent hread hreq]
        simp only [steering, hread, hreq, ih (hrest hgoes)]
      | some req =>
        by_cases hlast : req.command = "disconnect"
        · simp only [steering, hread, hreq, if_pos hlast]
        · have hgoes := (Run.goesOn_iff hread hreq).2 hlast
          simp only [steering, hread, hreq, if_neg hlast, ih (hrest hgoes)]

theorem command_of_mem_steering {turns : List Turn} {asked : Request × Files.View}
    (h : asked ∈ steering turns) : asked.1.command ∈ steeringCommands := by
  induction turns with
  | nil => cases h
  | cons turn rest ih =>
    simp only [steering] at h
    split at h
    · cases h
    · split at h
      · exact ih h
      · split at h
        · rename_i hlast
          rw [List.mem_singleton.1 h]
          show _ ∈ steeringCommands
          rw [hlast]
          decide
        · split at h
          · rename_i hsteers
            rcases List.mem_cons.1 h with rfl | h
            · exact hsteers
            · exact ih h
          · exact ih h

/-- **A request that steers shows something**: its response at least. -/
theorem Session.steered_ne_nil (s : Session) (files : Files.View) {req : Request}
    (h : req.command ∈ steeringCommands) :
    (messages (s.reaction files req)).filterMap Message.steered? ≠ [] := by
  have hsound : ¬ s.Panics req := by
    rintro ⟨args, program, decodes, -⟩
    rw [Command.ofRequest_name decodes] at h
    simp [steeringCommands, Command.name] at h
  have hanswer : req.answered ∈ (messages (s.reaction files req)).filterMap Message.answered? := by
    rw [answered_reaction hsound]
    exact List.mem_singleton.2 rfl
  obtain ⟨m, hm, hanswers⟩ := List.mem_filterMap.1 hanswer
  have hsteers : m.steered? = some m.core := by
    cases m with
    | event e => cases hanswers
    | success request body => cases hanswers; simp [Message.steered?, Message.steers, h,
        Request.answered]
    | failure request reason => cases hanswers; simp [Message.steered?, Message.steers, h,
        Request.answered]
  exact List.ne_nil_of_mem (List.mem_filterMap.2 ⟨m, hm, hsteers⟩)

/-- To replay more shows more. -/
theorem replay_isPrefix (s : Session) {asked more : List (Request × Files.View)}
    (h : asked <+: more) : replay s asked <+: replay s more := by
  obtain ⟨rest, rfl⟩ := h
  induction asked generalizing s with
  | nil => exact List.nil_prefix
  | cons first asked ih =>
    obtain ⟨req, files⟩ := first
    exact (List.prefix_append_right_inj _).2 (ih _)

theorem length_replay_lt (s : Session) {asked more : List (Request × Files.View)}
    (hsteers : ∀ a ∈ more, a.1.command ∈ steeringCommands) (h : asked <+: more)
    (hlength : asked.length < more.length) :
    (replay s asked).length < (replay s more).length := by
  obtain ⟨rest, rfl⟩ := h
  induction asked generalizing s with
  | nil =>
    cases rest with
    | nil => simp at hlength
    | cons first rest =>
      obtain ⟨req, files⟩ := first
      have hfirst := s.steered_ne_nil files (hsteers _ (.head _))
      have hpos := List.length_pos_of_ne_nil hfirst
      rw [List.nil_append, replay, replay, List.length_append]
      exact Nat.lt_of_lt_of_le hpos (Nat.le_add_right _ _)
  | cons first asked ih =>
    obtain ⟨req, files⟩ := first
    have hrest := ih (finalSession s (s.reaction files req)).core
      (fun a ha => hsteers a (List.mem_cons_of_mem _ ha)) (Nat.lt_of_succ_lt_succ hlength)
    simp only [List.cons_append, replay, List.length_append]
    omega

/-- Of two beginnings of what there is to do, one shows the beginning of what the other shows, and
they show the same exactly if they are equally long. -/
theorem replay_beginnings (s : Session) {asked asked' more : List (Request × Files.View)}
    (hsteers : ∀ a ∈ more, a.1.command ∈ steeringCommands) (h : asked <+: more)
    (h' : asked' <+: more) :
    (replay s asked <+: replay s asked' ∨ replay s asked' <+: replay s asked) ∧
      (replay s asked = replay s asked' ↔ asked.length = asked'.length) := by
  refine ⟨(List.prefix_or_prefix_of_prefix h h').imp (replay_isPrefix s) (replay_isPrefix s),
    fun hsame => ?_, fun hlength => ?_⟩
  · have hlengths := congrArg List.length hsame
    rcases Nat.lt_trichotomy asked.length asked'.length with hless | heq | hless
    · have hbeginnings := List.prefix_of_prefix_length_le h h' (Nat.le_of_lt hless)
      have := length_replay_lt s (fun a ha => hsteers a (h'.subset ha)) hbeginnings hless
      omega
    · exact heq
    · have hbeginnings := List.prefix_of_prefix_length_le h' h (Nat.le_of_lt hless)
      have := length_replay_lt s (fun a ha => hsteers a (h.subset ha)) hbeginnings hless
      omega
  · rw [(List.prefix_of_prefix_length_le h h' (Nat.le_of_eq hlength)).eq_of_length hlength]

/-- The beginning of a list that is alike to another one is alike to a beginning of that. -/
theorem alike_beginning {asked' more more' : List (Request × Files.View)}
    (same : List.Forall₂ SteersAlike more more') (h : asked' <+: more') :
    ∃ asked, asked <+: more ∧ List.Forall₂ SteersAlike asked asked' := by
  have hsame := List.forall₂_take asked'.length same
  rw [← List.prefix_iff_eq_take.1 h] at hsame
  exact ⟨more.take asked'.length, List.take_prefix _ _, hsame⟩

/-- **When inspection does not disturb execution.** Take two runs of fresh sessions in which no write
fails, each with any messages, files and events of the tab server. Let the steering requests they are
asked be the same, and let each of them find the same files where it looks. Then what is shown of the
steering, the responses to these requests and the events about the program, up to the numbers of
messages and the handles of lines of output, is the same in the same order if no run crashes. In any
case one shows the beginning of what the other shows, and they show the same exactly if as many of
these requests come before a crash. -/
theorem steering_undisturbed_iff (link link' : Link) (queue queue' : List Link.Event)
    (turns turns' : List Turn)
    (same : List.Forall₂ SteersAlike (steering turns) (steering turns')) :
    let shown := steered (Run.serveAll Faults.none { Run.start link with queue } turns).1.entries
    let shown' :=
      steered (Run.serveAll Faults.none { Run.start link' with queue := queue' } turns').1.entries
    (¬ Crashing none turns → ¬ Crashing none turns' → shown = shown') ∧
      (shown <+: shown' ∨ shown' <+: shown) ∧
      (shown = shown' ↔
        (steering (beforeCrash none turns)).length =
          (steering (beforeCrash none turns')).length) := by
  intro shown shown'
  let start := (Run.start link).session.core
  have hshown : shown = replay start (steering (beforeCrash none turns)) :=
    Run.steered_serveAll _ _
  have hshown' : shown' = replay start (steering (beforeCrash none turns')) :=
    Run.steered_serveAll _ _
  -- What the second run comes to, as a beginning of what the first one is asked.
  obtain ⟨asked, hasked, halike⟩ :=
    alike_beginning same (steering_beforeCrash_isPrefix none turns')
  obtain ⟨hbeginnings, hiff⟩ := replay_beginnings start (fun _ => command_of_mem_steering)
    (steering_beforeCrash_isPrefix none turns) hasked
  rw [replay_alike start halike, ← hshown, ← hshown'] at hbeginnings hiff
  rw [halike.length_eq] at hiff
  refine ⟨fun h h' => ?_, hbeginnings, hiff⟩
  rw [hshown, hshown', steering_beforeCrash h, steering_beforeCrash h']
  exact replay_alike start same

/-- A program is launched and continued, once by a client that does nothing else and once by one
that also asks for threads, a stack trace, variables and an unknown command, while a player
connects. -/
theorem steering_of_watched_program :
    let message (command : String) (seq : Int) (arguments : Json) : Json := .obj
      [("arguments", arguments), ("command", .str command), ("seq", .int seq),
       ("type", .str "request")]
    let files : Files.View :=
      { read := fun _ => .ok (Text.encode "one\nexception".toList), canonical := fun _ => none }
    let turn (message : Json) : Turn := { inbound := .ok message, files }
    let launch := turn (message "launch" 1
      (.obj [("program", .str "p.tab"), ("stopOnEntry", .bool true)]))
    let continues := turn (message "continue" 2 .null)
    let turns := [launch, continues]
    let turns' :=
      [{ turn (message "threads" 7 .null) with arrivals := [.connected "c" "player"] }, launch,
       turn (message "stackTrace" 11 (.obj [("levels", .int 1)])),
       turn (message "scopes" 8 (.obj [("frameId", .int 0)])),
       turn (message "variables" 9 (.obj [("variablesReference", .int 1002)])),
       turn (message "jump" 10 .null), turn (.str "request"), continues]
    List.Forall₂ SteersAlike (steering turns) (steering turns') ∧
      steered (Run.serveAll Faults.none (Run.start .absent) turns).1.entries =
        steered (Run.serveAll Faults.none (Run.start .listening) turns').1.entries ∧
      (steered (Run.serveAll Faults.none (Run.start .absent) turns).1.entries).length = 6 := by
  intro message files turn launch continues turns turns'
  have same : List.Forall₂ SteersAlike (steering turns) (steering turns') :=
    .cons ⟨rfl, fun _ _ => rfl, fun _ _ => rfl⟩ (.cons ⟨rfl, fun _ _ => rfl, fun _ _ => rfl⟩ .nil)
  obtain ⟨-, -, hiff⟩ := steering_undisturbed_iff .absent .listening [] [] turns turns' same
  exact ⟨same, hiff.2 (by decide +kernel), by decide +kernel⟩

/-- A program is launched and continued. When a stack trace is asked for in between, and the path of
the program has no text, the request to continue is not answered. -/
theorem steering_cut_off :
    let message (command : String) (seq : Int) (arguments : Json) : Json := .obj
      [("arguments", arguments), ("command", .str command), ("seq", .int seq),
       ("type", .str "request")]
    let turn (message : Json) : Turn := { inbound := .ok message, files := straying }
    let launch := turn (message "launch" 1
      (.obj [("program", .str "/tmp/l/p.tab"), ("stopOnEntry", .bool true)]))
    let continues := turn (message "continue" 3 .null)
    let turns := [launch, continues]
    let turns' := [launch, turn (message "stackTrace" 2 .null), continues]
    steering turns = steering turns' ∧
      (steered (Run.serveAll Faults.none (Run.start .absent) turns).1.entries).length = 5 ∧
      (steered (Run.serveAll Faults.none (Run.start .absent) turns').1.entries).length = 3 := by
  exact ⟨rfl, by decide +kernel, by decide +kernel⟩

end TabTools.Debug
