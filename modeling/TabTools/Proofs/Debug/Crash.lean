import TabTools.Proofs.Debug.Run

/-!
# Sessions that crash

A program may be known under a path that has no text, since links lead anywhere. To ask for a stack
trace then crashes the program that serves the session.

**Theorem (`panicked_iff`).** While no write fails, a session crashes exactly if a stack trace is
asked for while the program that was launched last has a path without a text (`Crashing`), and the
session has not ended by then.

The proof follows the turns. What they say of the launched program is what the session has
(`program_reaction`): only launching changes it. So a turn crashes, goes on or ends the session by
what it brings and the program there is (`serve_crash`, `serve_goesOn`, `serve_ends`).
-/

namespace TabTools.Debug

/-! ## What turns bring -/

/-- The path under which a command launches a program, if it does. -/
def Command.launches? (files : Files.View) : Command → Option Files.Path
  | .launch args => args.program.bind fun path =>
    (Session.load files path).toOption.map fun _ => files.sourcePath path
  | _ => none

namespace Turn

/-- The path under which a turn launches a program, if it does. -/
def launches? (turn : Turn) : Option Files.Path := turn.command?.bind (·.launches? turn.files)

/-- Whether a turn asks for a stack trace. -/
def asksTrace (turn : Turn) : Bool :=
  match turn.command? with
  | some (.stackTrace _) => true
  | _ => false

/-- Whether a turn neither brings a request to disconnect nor fails to bring a message. -/
def goesOn (turn : Turn) : Bool :=
  match turn.inbound, turn.command? with
  | .error _, _ => false
  | .ok _, some .disconnect => false
  | .ok _, _ => true

/-- Whether a turn crashes a session that has this program: it asks for a stack trace, and the path
of the program has no text. -/
def crashes (turn : Turn) (program : Option Files.Path) : Bool :=
  turn.asksTrace && program.any fun path => path.text?.isNone

end Turn

/-- The program of a session after some turns, if it has `program` before them. -/
def programAfter (program : Option Files.Path) (turns : List Turn) : Option Files.Path :=
  (turns.filterMap Turn.launches?).getLast?.or program

/-- One of the turns crashes a session that has `program` before them, and does not end by then. -/
def Crashing (program : Option Files.Path) (turns : List Turn) : Prop :=
  ∃ before turn after, turns = before ++ turn :: after ∧ (∀ t ∈ before, t.goesOn = true) ∧
    turn.crashes (programAfter program before) = true

/-- The turns before the first one that crashes a session that has `program` before them. -/
def beforeCrash : Option Files.Path → List Turn → List Turn
  | _, [] => []
  | program, turn :: rest =>
    if turn.crashes program then [] else turn :: beforeCrash (turn.launches?.or program) rest

/-- Every file is there, under a path through a directory whose name is the byte 255. -/
def straying : Files.View where
  read _ := .ok (Text.encode "lda #1".toList)
  canonical _ := some ⟨Text.encode "/tmp/".toList ++ 255 :: Text.encode "/p.tab".toList⟩

theorem programAfter_cons (program : Option Files.Path) (turn : Turn) (turns : List Turn) :
    programAfter program (turn :: turns) = programAfter (turn.launches?.or program) turns := by
  unfold programAfter
  cases hturn : turn.launches? with
  | none => rw [List.filterMap_cons_none hturn, Option.none_or]
  | some path =>
    rw [List.filterMap_cons_some hturn, List.getLast?_cons, Option.some_or]
    cases (turns.filterMap Turn.launches?).getLast? <;> rfl

theorem not_crashing_nil (program : Option Files.Path) : ¬ Crashing program [] := by
  rintro ⟨before, turn, after, hturns, -⟩
  simp at hturns

theorem crashing_cons {program : Option Files.Path} {turn : Turn} {rest : List Turn} :
    Crashing program (turn :: rest) ↔
      turn.crashes program = true ∨
        turn.goesOn = true ∧ Crashing (turn.launches?.or program) rest := by
  constructor
  · rintro ⟨before, last, after, hturns, hbefore, hlast⟩
    cases before with
    | nil =>
      cases hturns
      exact .inl hlast
    | cons first before =>
      cases hturns
      rw [programAfter_cons] at hlast
      exact .inr ⟨hbefore _ (.head _), before, last, after, rfl,
        fun t ht => hbefore t (List.mem_cons_of_mem _ ht), hlast⟩
  · rintro (hcrash | ⟨hgoes, before, last, after, rfl, hbefore, hlast⟩)
    · exact ⟨[], turn, rest, rfl, List.forall_mem_nil _, hcrash⟩
    · rw [← programAfter_cons] at hlast
      exact ⟨turn :: before, last, after, rfl, List.forall_mem_cons.2 ⟨hgoes, hbefore⟩, hlast⟩

/-! ## The program of a session -/

namespace Session

variable (s t : Session) (files : Files.View) (req : Request)

theorem program_stopAt (line : Nat) (reason : StopReason) (hit : Option Nat)
    (verified : Option Breakpoint) :
    (finalSession t (s.stopAt req line reason hit verified)).program = s.program := by
  rw [finalSession_stopAt]
  rfl

theorem program_resume (direction : Direction) (p : Probe) :
    (finalSession t (s.resume req direction p)).program = s.program := by
  generalize s.resume req direction p = acts, s.resume_cases req direction p = resumed
  cases resumed with
  | halted | rewound => exact program_stopAt _ _ _ _ _ _ _
  | ended => rfl

theorem program_start (args : LaunchArguments) :
    (finalSession t (s.start req args)).program = s.program := by
  unfold start
  split
  · exact program_stopAt _ _ _ _ _ _ _
  · exact program_resume _ _ _ _ _

theorem launches?_launch (args : LaunchArguments) {path : String} (h : args.program = some path) :
    (Command.launch args).launches? files =
      (load files path).toOption.map fun _ => files.sourcePath path := by
  simp only [Command.launches?, h, Option.bind_some]

variable {s files req} {acts : List Act}

theorem program_launch {args : LaunchArguments} (h : s.launch files req args = .ok acts) :
    (Command.launch args).launches? files = (finalSession s acts).program ∧
      (finalSession s acts).program.isSome := by
  unfold launch at h
  split at h
  · cases h
  · rename_i path hpath
    split at h
    · cases h
    · rename_i source hload
      cases h
      have hstart := program_start (s.loaded (files.sourcePath path) source) s req args
      have hprogram : (finalSession s
          (if args.trace then .traceOn :: (s.loaded (files.sourcePath path) source).start req args
            else (s.loaded (files.sourcePath path) source).start req args)).program =
          some (files.sourcePath path) := by
        cases args.trace <;> exact hstart
      refine ⟨?_, Option.isSome_iff_exists.2 ⟨_, hprogram⟩⟩
      rw [launches?_launch files args hpath, hload]
      exact hprogram.symm

theorem launches?_of_refused {args : LaunchArguments} {obstacle : Obstacle}
    (h : s.launch files req args = .error obstacle) :
    (Command.launch args).launches? files = none := by
  unfold launch at h
  split at h
  · rename_i habsent
    simp only [Command.launches?, habsent, Option.bind_none]
  · rename_i path hpath
    split at h
    · rename_i hload
      rw [launches?_launch files args hpath, hload]
      rfl
    · cases h

theorem program_step {direction : Direction} {p : Probe} (h : s.step req direction p = .ok acts) :
    (finalSession s acts).program = s.program := by
  unfold step at h
  split at h
  · cases h
    exact program_resume _ _ _ _ _
  · split at h <;> cases h

theorem program_setBreakpoints {args : SetBreakpointsArguments}
    (h : s.setBreakpoints files req args = .ok acts) :
    (finalSession s acts).program = s.program := by
  unfold setBreakpoints at h
  split at h
  · cases h
  · split at h <;> cases h
    rfl

theorem program_stackTrace {args : StackTraceArguments} (h : s.stackTrace req args = .ok acts) :
    (finalSession s acts).program = s.program := by
  generalize s.stackTrace req args = result, s.stackTrace_cases req args = traced at h
  cases traced with
  | refused | panicked => cases h
  | told => cases h; rfl

/-- **A plan leaves the program that it launches**, or the one there was. -/
theorem program_plan {command : Command} (decodes : Command.ofRequest req = .ok command)
    (h : s.plan files req = .ok acts) :
    (finalSession s acts).program = (command.launches? files).or s.program := by
  simp only [plan, decodes] at h
  cases command with
  | launch args =>
    obtain ⟨hlaunches, hsome⟩ := program_launch h
    rw [hlaunches, Option.or_of_isSome hsome]
  | setBreakpoints args => exact program_setBreakpoints h
  | stackTrace args => exact program_stackTrace h
  | continueForward => exact program_step h
  | continueBackward => exact program_step h
  | stepForward => exact program_step h
  | stepBackward => exact program_step h
  | «variables» args =>
    cases h
    unfold listVariables
    split <;> rfl
  | terminate =>
    cases h
    show (finalSession s (_ :: if s.isLive = true then _ else _)).program = _
    cases s.isLive <;> rfl
  | initializeAdapter | configurationDone | threads | scopes | evaluate | disconnect =>
    cases h
    rfl

/-- The program after all that is done about a request. -/
theorem program_reaction {command : Command} (decodes : Command.ofRequest req = .ok command) :
    (finalSession s (s.reaction files req)).program = (command.launches? files).or s.program := by
  unfold reaction
  cases hplan : s.plan files req with
  | ok acts => exact program_plan decodes hplan
  | error obstacle =>
    -- Only launching could have changed the program, and it was refused.
    have hnone : command.launches? files = none := by
      cases command with
      | launch args =>
        simp only [plan, decodes] at hplan
        exact launches?_of_refused hplan
      | _ => rfl
    rw [hnone, Option.none_or]
    cases hindered_of_plan hplan with
    | refused | panicked => rfl

theorem program_undecoded {e : CommandError} (decodes : Command.ofRequest req = .error e) :
    (finalSession s (s.reaction files req)).program = s.program := by
  simp only [reaction, plan, decodes, refuse, finalSession]

end Session

namespace Run

variable {run : Run} {turn : Turn} {message : Json} {req : Request}

theorem command?_eq (hread : turn.inbound = .ok message) (hreq : request? message = some req) :
    turn.command? = (Command.ofRequest req).toOption := by
  simp only [Turn.command?, hread, hreq, Option.bind_some]

theorem command?_silent (hread : turn.inbound = .ok message) (hreq : request? message = none) :
    turn.command? = none := by
  simp only [Turn.command?, hread, hreq, Option.bind_none]

/-- Whether a turn crashes is told by its request and the program. -/
theorem crashes_iff (hread : turn.inbound = .ok message) (hreq : request? message = some req)
    (s : Session) : turn.crashes s.program = true ↔ s.Panics req := by
  have hcommand := command?_eq hread hreq
  unfold Turn.crashes Turn.asksTrace Session.Panics
  rw [hcommand]
  cases Command.ofRequest req with
  | error e => simp [Except.toOption]
  | ok command =>
    cases command with
    | stackTrace args => cases s.program <;> simp [Except.toOption, Option.isNone_iff_eq_none]
    | _ => simp [Except.toOption]

theorem not_panics {s : Session} (hread : turn.inbound = .ok message)
    (hreq : request? message = some req) (h : turn.crashes s.program = false) : ¬ s.Panics req :=
  fun panics => Bool.noConfusion (h.symm.trans ((crashes_iff hread hreq s).2 panics))

theorem request_of_crashes {program : Option Files.Path} (h : turn.crashes program = true) :
    ∃ message req, turn.inbound = .ok message ∧ request? message = some req := by
  unfold Turn.crashes Turn.asksTrace at h
  cases hcommand : turn.command? with
  | none => rw [hcommand] at h; cases h
  | some command =>
    obtain ⟨message, req, hread, hreq, -⟩ := Turn.request_of_command hcommand
    exact ⟨message, req, hread, hreq⟩

/-- **A turn that crashes** ends the session. -/
theorem serve_crash (h : turn.crashes run.session.program = true) :
    ∃ message, turn.inbound = .ok message ∧
      run.serve Faults.none turn = (run.heard turn message, .panicked) := by
  obtain ⟨message, req, hread, hreq⟩ := request_of_crashes h
  exact ⟨message, hread,
    serve_none_panic run hread hreq ((crashes_iff hread hreq run.session).1 h)⟩

theorem program_heard (run : Run) (turn : Turn) (message : Json) :
    (run.heard turn message).session.program = run.session.program := by
  obtain ⟨handles, hsession⟩ := run.session_drained
  rw [heard, hsession]

theorem program_drained (run : Run) : run.drained.session.program = run.session.program := by
  obtain ⟨handles, hsession⟩ := run.session_drained
  rw [hsession]

theorem goesOn_iff (hread : turn.inbound = .ok message) (hreq : request? message = some req) :
    turn.goesOn = true ↔ req.command ≠ "disconnect" := by
  have hcommand := command?_eq hread hreq
  unfold Turn.goesOn
  rw [hread, hcommand]
  cases decodes : Command.ofRequest req with
  | error e =>
    have hother : req.command ≠ "disconnect" := fun h => by
      rw [Command.ofRequest_disconnect h] at decodes
      cases decodes
    simp [Except.toOption, hother]
  | ok command =>
    rw [Command.ofRequest_name decodes]
    cases command <;> simp [Except.toOption, Command.name]

/-- **A turn that goes on** leaves the program that it launches, or the one there was. -/
theorem serve_goesOn (hgoes : turn.goesOn = true) (h : turn.crashes run.session.program = false) :
    ∃ next, run.serve Faults.none turn = (next, .goOn) ∧
      next.session.program = turn.launches?.or run.session.program := by
  cases hread : turn.inbound with
  | error cause => simp [Turn.goesOn, hread] at hgoes
  | ok message =>
    cases hreq : request? message with
    | none =>
      refine ⟨_, serve_none_other run hread hreq, ?_⟩
      rw [program_heard, Turn.launches?, command?_silent hread hreq]
      rfl
    | some req =>
      have hsound := not_panics hread hreq h
      have hserve := serve_none_request run hread hreq hsound
      rw [outcomeOf, if_neg ((goesOn_iff hread hreq).1 hgoes)] at hserve
      refine ⟨_, hserve, ?_⟩
      rw [program_drained, Turn.launches?, command?_eq hread hreq]
      cases decodes : Command.ofRequest req with
      | error e =>
        exact (Session.program_undecoded decodes).trans (program_heard run turn message)
      | ok command =>
        refine (Session.program_reaction decodes).trans ?_
        rw [program_heard]
        rfl

/-- **A turn that does not go on** ends the session without a crash. -/
theorem serve_ends (hends : turn.goesOn = false) (h : turn.crashes run.session.program = false) :
    ∃ next outcome, run.serve Faults.none turn = (next, outcome) ∧ outcome ≠ .goOn ∧
      outcome ≠ .panicked := by
  cases hread : turn.inbound with
  | error cause => exact ⟨_, _, serve_none_error run hread, by simp, by simp⟩
  | ok message =>
    cases hreq : request? message with
    | none => simp [Turn.goesOn, hread, command?_silent hread hreq] at hends
    | some req =>
      have hsound := not_panics hread hreq h
      have hlast : req.command = "disconnect" := Classical.byContradiction fun hother => by
        rw [(goesOn_iff hread hreq).2 hother] at hends
        cases hends
      exact ⟨_, _, serve_none_request run hread hreq hsound, by simp [outcomeOf, hlast],
        by simp [outcomeOf, hlast]⟩

theorem program_serve {next : Run} (h : turn.crashes run.session.program = false)
    (hserve : run.serve Faults.none turn = (next, .goOn)) :
    next.session.program = turn.launches?.or run.session.program := by
  cases hgoes : turn.goesOn with
  | true =>
    obtain ⟨next', hserve', hprogram⟩ := serve_goesOn hgoes h
    cases hserve.symm.trans hserve'
    exact hprogram
  | false =>
    obtain ⟨_, _, hserve', hended, -⟩ := serve_ends hgoes h
    cases hserve.symm.trans hserve'
    exact absurd rfl hended

/-- **When a session crashes.** -/
theorem panicked_iff (run : Run) (turns : List Turn) :
    (serveAll Faults.none run turns).2 = .panicked ↔ Crashing run.session.program turns := by
  induction turns generalizing run with
  | nil => exact iff_of_false nofun (not_crashing_nil _)
  | cons turn rest ih =>
    rw [crashing_cons]
    cases hcrash : turn.crashes run.session.program with
    | true =>
      obtain ⟨message, -, hserve⟩ := serve_crash hcrash
      rw [serveAll_ended hserve (by simp)]
      exact iff_of_true rfl (.inl rfl)
    | false =>
      cases hgoes : turn.goesOn with
      | true =>
        obtain ⟨next, hserve, hprogram⟩ := serve_goesOn hgoes hcrash
        rw [serveAll_goOn hserve, ih, hprogram]
        simp
      | false =>
        obtain ⟨next, outcome, hserve, hended, hother⟩ := serve_ends hgoes hcrash
        rw [serveAll_ended hserve hended]
        simp [hother]

end Run

end TabTools.Debug
