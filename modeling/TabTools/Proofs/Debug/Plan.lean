import TabTools.Debug.Run

/-!
# The shape of plans

**Cases** (`plan_cases`). There are eight kinds of plans. Every later fact about plans is proved kind
by kind, never by looking into `Session.plan` again.

**Obstacles** (`hindered_of_plan`, `plan_eq_panic_iff`). A request without a plan is refused, which
leaves the session as it is, or crashes the program. It crashes exactly if a stack trace is asked for
and the path of the launched program has no text.

**One answer** (`messages_plan`). A plan writes some events, then one successful response to its own
request, then some more events; the events after the response all say that the program stopped, that
it ended, or that a breakpoint became verified.

**Endings** (`write_mem_stopAt`, `finalSession_stopAt`). Where a program comes to a line, the session
passes through two states only: on the line and still running, then stopped there.
-/

namespace TabTools.Debug

/-! ## Messages of a plan -/

/-- The request that a message answers. -/
def Message.answered? : Message → Option Answered
  | .event _ => none
  | .success request _ => some request
  | .failure request _ => some request

/-- The breakpoints that a response shows. -/
def Body.shown : Body → List Breakpoint
  | .breakpoints list => list
  | _ => []

/-- The breakpoints that a message shows: those just set, or the one that became verified. -/
def Message.shown : Message → List Breakpoint
  | .success _ body => body.shown
  | .event (.breakpointChanged bp) => [bp]
  | _ => []

/-- The message that an act writes. -/
def Act.message? : Act → Option Message
  | .traceOn => none
  | .write _ message => some message

/-- The messages that acts write, in order. -/
def messages (acts : List Act) : List Message := acts.filterMap Act.message?

@[simp] theorem messages_nil : messages [] = [] := rfl

@[simp] theorem messages_traceOn (acts : List Act) : messages (.traceOn :: acts) = messages acts :=
  rfl

@[simp] theorem messages_write (after : Session) (m : Message) (acts : List Act) :
    messages (.write after m :: acts) = m :: messages acts := rfl

@[simp] theorem messages_append (xs ys : List Act) :
    messages (xs ++ ys) = messages xs ++ messages ys :=
  List.filterMap_append

theorem finalSession_append (s : Session) (xs ys : List Act) :
    finalSession s (xs ++ ys) = finalSession (finalSession s xs) ys := by
  induction xs generalizing s with
  | nil => rfl
  | cons act xs ih =>
    cases act with
    | traceOn => exact ih s
    | write after m => exact ih after

/-- What holds of a session and of all that acts pass through holds at their end. -/
theorem finalSession_induction {P : Session → Prop} {s : Session} {acts : List Act} (h : P s)
    (hacts : ∀ after m, .write after m ∈ acts → P after) : P (finalSession s acts) := by
  induction acts generalizing s with
  | nil => exact h
  | cons act acts ih =>
    have hrest : ∀ after m, .write after m ∈ acts → P after := fun after m hmem =>
      hacts after m (List.mem_cons_of_mem _ hmem)
    cases act with
    | traceOn => exact ih h hrest
    | write after m => exact ih (hacts after m (.head _)) hrest

/-- Events that come after the response to their request. -/
def Event.isVerdict : Event → Bool
  | .stopped _ _ => true
  | .terminated => true
  | .breakpointChanged _ => true
  | _ => false

namespace Session

/-! ## Coming to a line -/

/-- The session that stands on a line and has said so. -/
def standing (s : Session) (line : Nat) : Session :=
  { s with cursor := .onLine line, handles := s.handles.add outputLabel }

theorem stopAt_eq (s : Session) (req : Request) (line : Nat) (reason : StopReason)
    (hit : Option Nat) (verified : Option Breakpoint) :
    s.stopAt req line reason hit verified =
      .write (s.standing line) (.event (.output s!"line: {line}" s.handles.next)) ::
        .write (s.standing line) (.success req.answered .nothing) ::
          (s.standing line).stop reason hit verified := rfl

theorem messages_stop (s : Session) (reason : StopReason) (hit : Option Nat)
    (verified : Option Breakpoint) :
    messages (s.stop reason hit verified) =
      (.stopped reason hit :: verified.toList.map .breakpointChanged : List Event).map .event := by
  cases verified <;> rfl

theorem messages_stopAt (s : Session) (req : Request) (line : Nat) (reason : StopReason)
    (hit : Option Nat) (verified : Option Breakpoint) :
    messages (s.stopAt req line reason hit verified) =
      [.event (.output s!"line: {line}" s.handles.next), .success req.answered .nothing] ++
        .event (.stopped reason hit) ::
          verified.toList.map fun bp => .event (.breakpointChanged bp) := by
  cases verified <;> rfl

theorem write_mem_stopAt {s after : Session} {req : Request} {line : Nat} {reason : StopReason}
    {hit : Option Nat} {verified : Option Breakpoint} {m : Message}
    (h : .write after m ∈ s.stopAt req line reason hit verified) :
    after = s.standing line ∨ after = { s.standing line with phase := .stopped reason } := by
  cases verified <;> simp only [stopAt_eq, stop, Option.toList, List.map_nil, List.map_cons,
    List.mem_cons, Act.write.injEq, List.not_mem_nil, or_false] at h
  · rcases h with ⟨rfl, -⟩ | ⟨rfl, -⟩ | ⟨rfl, -⟩ <;> simp
  · rcases h with ⟨rfl, -⟩ | ⟨rfl, -⟩ | ⟨rfl, -⟩ | ⟨rfl, -⟩ <;> simp

@[simp] theorem finalSession_stopAt (s t : Session) (req : Request) (line : Nat)
    (reason : StopReason) (hit : Option Nat) (verified : Option Breakpoint) :
    finalSession t (s.stopAt req line reason hit verified) =
      { s.standing line with phase := .stopped reason } := by
  cases verified <;> rfl

/-! ## Running on -/

def running (s : Session) : Session := { s with phase := .running }

/-- The running session once a scan has changed the breakpoint table. -/
def reached (s : Session) (table : BreakpointTable) : Session :=
  { s.running with breakpoints := table }

/-- The ways in which running on can go. -/
inductive Resumed (s : Session) (req : Request) : Direction → Probe → List Act → Prop
  | halted {direction : Direction} {p : Probe} {stop : Stop}
      (scans : s.running.scan direction p = some stop) :
      Resumed s req direction p
        ((s.reached stop.table).stopAt req stop.line stop.halt.reason stop.halt.hitId
          stop.halt.verified)
  | ended {p : Probe} (scans : s.running.scan .forward p = none) :
      Resumed s req .forward p [s.running.succeed req .nothing, s.running.terminate]
  | rewound {p : Probe} (scans : s.running.scan .backward p = none) :
      Resumed s req .backward p (s.running.stopAt req 0 .entry none none)

theorem resume_cases (s : Session) (req : Request) (direction : Direction) (p : Probe) :
    Resumed s req direction p (s.resume req direction p) := by
  unfold resume
  dsimp only
  split
  · rename_i stop hscan
    exact .halted hscan
  · rename_i hscan
    cases direction with
    | forward => exact .ended hscan
    | backward => exact .rewound hscan

/-! ## Stack traces -/

theorem frameWindow_le (total : Nat) (start levels : Option Nat) :
    (frameWindow total start levels).2 ≤ total := by
  unfold frameWindow
  split
  · exact Nat.le_refl total
  · exact Nat.le_refl total
  · exact Nat.min_le_right _ _

theorem lt_total_of_mem_window {total i : Nat} {start levels : Option Nat}
    (h : i ∈ List.range' (frameWindow total start levels).1
      ((frameWindow total start levels).2 - (frameWindow total start levels).1)) : i < total := by
  have hlast := frameWindow_le total start levels
  have hi := List.mem_range'_1.1 h
  omega

/-- The frame of word `i` of the traced line. -/
def frameOf (s : Session) (program : Files.Path) (path : String) (i : Nat) : Frame :=
  { id := i
    name := String.ofList (s.traceWords.getD i []) ++ "(" ++ toString i ++ ")"
    fileName := (Files.fileName? program).bind Files.Name.text?
    path
    line := s.base.toClient s.traceLine }

theorem frame?_eq_some {s : Session} {i : Nat} (h : i < s.traceWords.length)
    (program : Files.Path) (path : String) :
    s.frame? program path i = some (s.frameOf program path i) := by
  simp [frame?, frameOf, List.getElem?_eq_getElem h]

/-- The frames that a stack trace shows. -/
def shownFrames (s : Session) (program : Files.Path) (path : String)
    (args : StackTraceArguments) : List Frame :=
  let window := frameWindow s.traceWords.length args.startFrame args.levels
  (List.range' window.1 (window.2 - window.1)).map (s.frameOf program path)

/-- **No window goes beyond the words**: every word that is looked at is there. -/
theorem mapM_frame? (s : Session) (program : Files.Path) (path : String)
    (args : StackTraceArguments) :
    let window := frameWindow s.traceWords.length args.startFrame args.levels
    (List.range' window.1 (window.2 - window.1)).mapM (s.frame? program path) =
      some (s.shownFrames program path args) := by
  intro window
  rw [shownFrames]
  have hall : ∀ i ∈ List.range' window.1 (window.2 - window.1),
      s.frame? program path i = some (s.frameOf program path i) := fun i hi =>
    frame?_eq_some (lt_total_of_mem_window hi) program path
  generalize List.range' window.1 (window.2 - window.1) = numbers at hall
  induction numbers with
  | nil => rfl
  | cons i rest ih =>
    have hrest := ih fun j hj => hall j (List.mem_cons_of_mem i hj)
    rw [List.mapM_cons, hall i (.head rest), hrest]
    rfl

/-- What a request for a stack trace comes to. -/
inductive StackTraced (s : Session) (req : Request) (args : StackTraceArguments) :
    Except Obstacle (List Act) → Prop
  | refused (absent : s.program = none) : StackTraced s req args (s.refuse .notLaunched)
  | panicked {program : Files.Path} (launched : s.program = some program)
      (noText : program.text? = none) : StackTraced s req args (.error .panic)
  | told {program : Files.Path} {path : String} (launched : s.program = some program)
      (text : program.text? = some path) :
      StackTraced s req args
        (.ok [s.succeed req (.stackTrace (s.shownFrames program path args) s.traceWords.length)])

theorem stackTrace_cases (s : Session) (req : Request) (args : StackTraceArguments) :
    StackTraced s req args (s.stackTrace req args) := by
  unfold stackTrace
  split
  · rename_i absent
    exact .refused absent
  · rename_i program launched
    split
    · rename_i noText
      exact .panicked launched noText
    · rename_i path text
      dsimp only
      have hframes := s.mapM_frame? program path args
      dsimp only at hframes
      rw [hframes]
      exact .told launched text

/-! ## Kinds of plans -/

/-- The session right after a program was loaded. -/
def loaded (s : Session) (program : Files.Path) (source : Source) : Session :=
  { s with program := some program, source, cursor := {}, phase := .running }

/-- What is done with a program that was just loaded. -/
def start (s : Session) (req : Request) (args : LaunchArguments) : List Act :=
  if args.stopOnEntry then s.stopAt req 0 .entry none none else s.resume req .forward .events

/-- The kinds of plans that requests have. -/
inductive Planned (s : Session) (files : Files.View) (req : Request) : List Act → Prop
  /-- The answer tells something, but nothing of breakpoints; at most new handles are made for it. -/
  | answer (handles : Handles) (body : Body) (plain : body.shown = []) :
      Planned s files req [({ s with handles }).succeed req body]
  | setBreakpoints (key : SourceKey) (source : Source) (lines : List Int) :
      Planned s files req
        [({ s with breakpoints := (s.breakpoints.set key source lines s.base).2 }).succeed req
          (.breakpoints (s.breakpoints.set key source lines s.base).1)]
  | initializeAdapter (args : InitializeArguments) :
      Planned s files req (s.initializeAdapter req args)
  | launch (args : LaunchArguments) {path : String} {source : Source}
      (path_eq : args.program = some path) (loads : load files path = .ok source) :
      Planned s files req ((s.loaded (files.sourcePath path) source).start req args)
  | launchTraced (args : LaunchArguments) {path : String} {source : Source}
      (path_eq : args.program = some path) (loads : load files path = .ok source) :
      Planned s files req (.traceOn :: (s.loaded (files.sourcePath path) source).start req args)
  | resume (direction : Direction) (p : Probe) (live : s.isLive = true) :
      Planned s files req (s.resume req direction p)
  | terminate :
      Planned s files req (s.succeed req .nothing :: if s.isLive then [s.terminate] else [])
  | disconnect (link : Link) :
      Planned s files req [({ s with phase := .disconnected, link }).succeed req .nothing]

variable {s : Session} {files : Files.View} {req : Request} {acts : List Act}

theorem launch_cases {args : LaunchArguments} (h : s.launch files req args = .ok acts) :
    Planned s files req acts := by
  unfold launch at h
  split at h
  · cases h
  · rename_i path hpath
    split at h
    · cases h
    · rename_i source hsource
      cases h
      cases htrace : args.trace with
      | false => exact .launch args hpath hsource
      | true => exact .launchTraced args hpath hsource

theorem setBreakpoints_cases {args : SetBreakpointsArguments}
    (h : s.setBreakpoints files req args = .ok acts) : Planned s files req acts := by
  unfold setBreakpoints at h
  split at h
  · cases h
  · split at h
    · cases h
    · cases h
      exact .setBreakpoints _ _ _

theorem planned_of_stackTrace {args : StackTraceArguments} (h : s.stackTrace req args = .ok acts) :
    Planned s files req acts := by
  generalize s.stackTrace req args = result, s.stackTrace_cases req args = traced at h
  cases traced with
  | refused | panicked => cases h
  | told => cases h; exact .answer s.handles _ rfl

theorem listVariables_cases (args : VariablesArguments) :
    Planned s files req (s.listVariables req args) := by
  unfold listVariables
  split
  · exact .answer s.handles _ rfl
  · exact .answer _ _ rfl

theorem step_cases {direction : Direction} {p : Probe} (h : s.step req direction p = .ok acts) :
    Planned s files req acts := by
  unfold step at h
  split at h
  · rename_i hlive
    cases h
    exact .resume direction p hlive
  · split at h <;> cases h

/-- **Every plan is of one of the kinds.** -/
theorem plan_cases (h : s.plan files req = .ok acts) : Planned s files req acts := by
  unfold plan at h
  split at h
  · cases h
  · rename_i command _
    cases command with
    | initializeAdapter args => cases h; exact .initializeAdapter args
    | launch args => exact launch_cases h
    | setBreakpoints args => exact setBreakpoints_cases h
    | configurationDone | threads => cases h; exact .answer s.handles _ rfl
    | stackTrace args => exact planned_of_stackTrace h
    | scopes args => cases h; exact .answer _ _ rfl
    | «variables» args => cases h; exact listVariables_cases args
    | continueForward | continueBackward | stepForward | stepBackward => exact step_cases h
    | evaluate args => cases h; exact .answer s.handles _ rfl
    | terminate => cases h; exact .terminate
    | disconnect => cases h; exact .disconnect _

/-! ## Obstacles -/

/-- Carrying out the request crashes the program: it asks for a stack trace, and the path of the
launched program has no text. -/
def Panics (s : Session) (req : Request) : Prop :=
  ∃ args program, Command.ofRequest req = .ok (.stackTrace args) ∧ s.program = some program ∧
    program.text? = none

/-- What keeps a request from having a plan: a refusal, which leaves the session as it is, or a
crash. -/
inductive Hindered (s : Session) (req : Request) : Obstacle → Prop
  | refused (why : Refusal) : Hindered s req (.refused s why)
  | panicked (panics : s.Panics req) : Hindered s req .panic

variable {obstacle : Obstacle}

theorem hindered_of_refuse {why : Refusal} (h : s.refuse why = .error obstacle) :
    Hindered s req obstacle := by
  cases h
  exact .refused why

theorem hindered_of_launch {args : LaunchArguments} (h : s.launch files req args = .error obstacle) :
    Hindered s req obstacle := by
  unfold launch at h
  split at h
  · exact hindered_of_refuse h
  · split at h
    · exact hindered_of_refuse h
    · cases h

theorem hindered_of_setBreakpoints {args : SetBreakpointsArguments}
    (h : s.setBreakpoints files req args = .error obstacle) : Hindered s req obstacle := by
  unfold setBreakpoints at h
  split at h
  · exact hindered_of_refuse h
  · split at h
    · exact hindered_of_refuse h
    · cases h

theorem hindered_of_step {direction : Direction} {p : Probe}
    (h : s.step req direction p = .error obstacle) : Hindered s req obstacle := by
  unfold step at h
  split at h
  · cases h
  · split at h
    · exact hindered_of_refuse h
    · exact hindered_of_refuse h

theorem hindered_of_stackTrace {args : StackTraceArguments}
    (decodes : Command.ofRequest req = .ok (.stackTrace args))
    (h : s.stackTrace req args = .error obstacle) : Hindered s req obstacle := by
  generalize s.stackTrace req args = result, s.stackTrace_cases req args = traced at h
  cases traced with
  | refused => exact hindered_of_refuse h
  | panicked launched noText => cases h; exact .panicked ⟨args, _, decodes, launched, noText⟩
  | told => cases h

/-- **No request is hindered but by a refusal or a crash**, and no refusal changes the session. -/
theorem hindered_of_plan (h : s.plan files req = .error obstacle) : Hindered s req obstacle := by
  unfold plan at h
  split at h
  · exact hindered_of_refuse h
  · rename_i command decodes
    cases command with
    | launch args => exact hindered_of_launch h
    | setBreakpoints args => exact hindered_of_setBreakpoints h
    | stackTrace args => exact hindered_of_stackTrace decodes h
    | continueForward | continueBackward | stepForward | stepBackward => exact hindered_of_step h
    | _ => cases h

/-- A refusal leaves the session as it is. -/
theorem refused_session {after : Session} {why : Refusal}
    (h : s.plan files req = .error (.refused after why)) : after = s := by
  cases hindered_of_plan h
  rfl

theorem stackTrace_of_panics (h : s.Panics req) : s.plan files req = .error .panic := by
  obtain ⟨args, program, decodes, launched, noText⟩ := h
  simp only [plan, decodes, stackTrace, launched, noText]

/-- **The program crashes** only over a stack trace, and exactly if the path of the launched program
has no text. -/
theorem plan_eq_panic_iff : s.plan files req = .error .panic ↔ s.Panics req := by
  refine ⟨fun h => ?_, stackTrace_of_panics⟩
  cases hindered_of_plan h with
  | panicked panics => exact panics

/-- What is made of a crash depends on the program alone. -/
theorem panics_congr {t : Session} (h : t.program = s.program) : t.Panics req ↔ s.Panics req := by
  simp only [Panics, h]

/-- No other command crashes. -/
theorem not_panics_of_command {command : Command} (decodes : Command.ofRequest req = .ok command)
    (other : ∀ args, command ≠ .stackTrace args) : ¬ s.Panics req := by
  rintro ⟨args, program, decodes', -⟩
  rw [decodes] at decodes'
  cases decodes'
  exact other args rfl

/-! ## One answer -/

/-- Events, one successful response to the request, and events that need no answer first. -/
def OneAnswer (req : Request) (list : List Message) : Prop :=
  ∃ (early late : List Event) (body : Body),
    list = early.map .event ++ .success req.answered body :: late.map .event ∧
      ∀ e ∈ late, e.isVerdict

theorem oneAnswer_stopAt (s : Session) (req : Request) (line : Nat) (reason : StopReason)
    (hit : Option Nat) (verified : Option Breakpoint) :
    OneAnswer req (messages (s.stopAt req line reason hit verified)) := by
  refine ⟨[.output s!"line: {line}" s.handles.next],
    .stopped reason hit :: verified.toList.map .breakpointChanged, .nothing, ?_, ?_⟩
  · rw [stopAt_eq, messages_write, messages_write, messages_stop]
    rfl
  · intro e he
    rcases List.mem_cons.1 he with rfl | he
    · rfl
    · obtain ⟨bp, -, rfl⟩ := List.mem_map.1 he
      rfl

theorem oneAnswer_resume (s : Session) (req : Request) (direction : Direction) (p : Probe) :
    OneAnswer req (messages (s.resume req direction p)) := by
  generalize hacts : s.resume req direction p = acts
  cases hacts ▸ resume_cases s req direction p with
  | halted _ => exact oneAnswer_stopAt _ _ _ _ _ _
  | ended _ => exact ⟨[], [.terminated], .nothing, rfl, by simp [Event.isVerdict]⟩
  | rewound _ => exact oneAnswer_stopAt _ _ _ _ _ _

theorem oneAnswer_start (s : Session) (req : Request) (args : LaunchArguments) :
    OneAnswer req (messages (s.start req args)) := by
  unfold start
  split
  · exact oneAnswer_stopAt _ _ _ _ _ _
  · exact oneAnswer_resume _ _ _ _

/-- **A plan answers its request exactly once.** -/
theorem messages_plan (h : s.plan files req = .ok acts) : OneAnswer req (messages acts) := by
  cases plan_cases h with
  | answer handles body => exact ⟨[], [], body, rfl, by simp⟩
  | setBreakpoints key source lines => exact ⟨[], [], _, rfl, by simp⟩
  | initializeAdapter args => exact ⟨[.initialized], [], .capabilities, rfl, by simp⟩
  | launch args _ _ => exact oneAnswer_start _ _ _
  | launchTraced args _ _ => exact oneAnswer_start _ _ _
  | resume direction p _ => exact oneAnswer_resume _ _ _ _
  | terminate =>
    split
    · exact ⟨[], [.terminated], .nothing, rfl, by simp [Event.isVerdict]⟩
    · exact ⟨[], [], .nothing, rfl, by simp⟩
  | disconnect link => exact ⟨[], [], .nothing, rfl, by simp⟩

end Session

end TabTools.Debug
