import TabTools.Proofs.Debug.Answers

/-!
# Refused requests

**Causes** (`plan_eq_refused_iff`). A session refuses a request for one of eight causes (`Refuses`):
the command is unknown or its arguments do not decode, an argument that it needs is absent, a file
cannot be read, or there is no program for it to run or to trace.

**Atomicity** (`refused_leaves_session`). A request that is answered with a failure although no
write failed was refused for one of these causes. Nothing but the number of the next message has
changed then, whatever the session was doing, and the failure is all that was written.
-/

namespace TabTools.Debug

/-- The file that a command needs. -/
def Command.file? : Command → Option String
  | .launch args => args.program
  | .setBreakpoints args => args.source.path
  | _ => none

/-- Whether a command lets the program run on. -/
def Command.runsOn : Command → Bool
  | .continueForward | .continueBackward | .stepForward | .stepBackward => true
  | _ => false

namespace Session

/-- The causes for which a session refuses a request. -/
inductive Refuses (s : Session) (files : Files.View) (req : Request) : Refusal → Prop
  | undecodable {mismatch : Mismatch}
      (decodes : Command.ofRequest req = .error (.arguments mismatch)) :
      Refuses s files req (.badArguments mismatch)
  | unknown {name : String} (decodes : Command.ofRequest req = .error (.unknown name)) :
      Refuses s files req (.unknownCommand name)
  | noProgram {args : LaunchArguments} (decodes : Command.ofRequest req = .ok (.launch args))
      (absent : args.program = none) :
      Refuses s files req (.missingArgument "launch" "program")
  | noSource {args : SetBreakpointsArguments}
      (decodes : Command.ofRequest req = .ok (.setBreakpoints args))
      (absent : args.source.path = none) :
      Refuses s files req (.missingArgument "setBreakpoints" "source.path")
  | unreadable {command : Command} {path : String} {cause : Files.FileError}
      (decodes : Command.ofRequest req = .ok command) (needs : command.file? = some path)
      (reads : files.readText path = .error cause) :
      Refuses s files req (.unreadable path cause)
  | terminated {command : Command} (decodes : Command.ofRequest req = .ok command)
      (runs : command.runsOn = true) (ended : s.phase = .terminated) :
      Refuses s files req .terminated
  | notLaunched {command : Command} (decodes : Command.ofRequest req = .ok command)
      (runs : command.runsOn = true) (idle : s.isLive = false) (going : s.phase ≠ .terminated) :
      Refuses s files req .notLaunched
  | noTrace {args : StackTraceArguments} (decodes : Command.ofRequest req = .ok (.stackTrace args))
      (absent : s.program = none) :
      Refuses s files req .notLaunched

variable {s after : Session} {files : Files.View} {req : Request} {refusal : Refusal}

theorem load_eq_error_iff {path : String} :
    load files path = .error refusal ↔
      ∃ cause, files.readText path = .error cause ∧ refusal = .unreadable path cause := by
  unfold load
  cases files.readText path with
  | ok text => simp
  | error cause => simp [eq_comm]

theorem refuses_of_launch {args : LaunchArguments}
    (decodes : Command.ofRequest req = .ok (.launch args))
    (h : s.launch files req args = .error (.refused after refusal)) :
    Refuses s files req refusal := by
  unfold launch at h
  split at h
  · rename_i habsent
    cases h
    exact .noProgram decodes habsent
  · rename_i path hpath
    split at h
    · rename_i hload
      cases h
      obtain ⟨cause, hread, rfl⟩ := load_eq_error_iff.1 hload
      exact .unreadable decodes hpath hread
    · cases h

theorem refuses_of_setBreakpoints {args : SetBreakpointsArguments}
    (decodes : Command.ofRequest req = .ok (.setBreakpoints args))
    (h : s.setBreakpoints files req args = .error (.refused after refusal)) :
    Refuses s files req refusal := by
  unfold setBreakpoints at h
  split at h
  · rename_i habsent
    cases h
    exact .noSource decodes habsent
  · rename_i path hpath
    split at h
    · rename_i hload
      cases h
      obtain ⟨cause, hread, rfl⟩ := load_eq_error_iff.1 hload
      exact .unreadable decodes hpath hread
    · cases h

theorem refuses_of_step {command : Command} {direction : Direction} {p : Probe}
    (decodes : Command.ofRequest req = .ok command) (runs : command.runsOn = true)
    (h : s.step req direction p = .error (.refused after refusal)) :
    Refuses s files req refusal := by
  unfold step at h
  split at h
  · cases h
  · rename_i hlive
    split at h
    · rename_i hended
      cases h
      exact .terminated decodes runs hended
    · rename_i hgoing
      cases h
      exact .notLaunched decodes runs (by simpa using hlive) hgoing

/-- **A refused request has a cause.** -/
theorem refuses_of_plan (h : s.plan files req = .error (.refused after refusal)) :
    Refuses s files req refusal := by
  unfold plan at h
  split at h
  · rename_i e decodes
    cases h
    cases e with
    | arguments mismatch => exact .undecodable decodes
    | unknown name => exact .unknown decodes
  · rename_i command decodes
    cases command with
    | launch args => exact refuses_of_launch decodes h
    | setBreakpoints args => exact refuses_of_setBreakpoints decodes h
    | stackTrace args =>
      have h : s.stackTrace req args = .error (.refused after refusal) := h
      generalize s.stackTrace req args = result, s.stackTrace_cases req args = traced at h
      cases traced with
      | refused absent => cases h; exact .noTrace decodes absent
      | panicked | told => cases h
    | continueForward | continueBackward | stepForward | stepBackward =>
      exact refuses_of_step decodes rfl h
    | _ => cases h

theorem step_of_runsOn (s : Session) (files : Files.View) {command : Command}
    (decodes : Command.ofRequest req = .ok command) (runs : command.runsOn = true) :
    ∃ direction p, s.plan files req = s.step req direction p := by
  unfold plan
  rw [decodes]
  cases command with
  | continueForward | continueBackward | stepForward | stepBackward => exact ⟨_, _, rfl⟩
  | _ => cases runs

theorem Refuses.plan_eq (h : Refuses s files req refusal) :
    s.plan files req = .error (.refused s refusal) := by
  cases h with
  | undecodable decodes => simp only [plan, decodes, CommandError.refusal, refuse]
  | unknown decodes => simp only [plan, decodes, CommandError.refusal, refuse]
  | noProgram decodes absent => simp only [plan, decodes, launch, absent, refuse]
  | noSource decodes absent => simp only [plan, decodes, setBreakpoints, absent, refuse]
  | @unreadable command path cause decodes needs reads =>
    have hload : load files path = .error (.unreadable path cause) :=
      load_eq_error_iff.2 ⟨cause, reads, rfl⟩
    cases command with
    | launch args =>
      simp only [plan, decodes, launch, show args.program = some path from needs, hload,
        refuse]
    | setBreakpoints args =>
      simp only [plan, decodes, setBreakpoints, show args.source.path = some path from needs, hload,
        refuse]
    | _ => cases needs
  | terminated decodes runs ended =>
    obtain ⟨direction, p, hplan⟩ := step_of_runsOn s files decodes runs
    have hlive : s.isLive = false := by simp [isLive, ended]
    simp only [hplan, step, hlive, ended, Bool.false_eq_true, if_false, if_true, refuse]
  | notLaunched decodes runs idle going =>
    obtain ⟨direction, p, hplan⟩ := step_of_runsOn s files decodes runs
    simp only [hplan, step, idle, going, Bool.false_eq_true, if_false, refuse]
  | noTrace decodes absent => simp only [plan, decodes, stackTrace, absent, refuse]

/-- **The causes of refusals are exactly these**, and each leaves the session as it is. -/
theorem plan_eq_refused_iff :
    s.plan files req = .error (.refused after refusal) ↔ Refuses s files req refusal ∧ after = s := by
  constructor
  · exact fun h => ⟨refuses_of_plan h, refused_session h⟩
  · rintro ⟨h, rfl⟩
    exact h.plan_eq

/-- A request that is refused does not crash the program. -/
theorem Refuses.not_panics (h : Refuses s files req refusal) : ¬ s.Panics req := by
  intro panics
  cases h.plan_eq.symm.trans (stackTrace_of_panics panics)

end Session

namespace Run

/-- The run after a request was refused and the refusal delivered. -/
def refused (run : Run) (req : Request) (refusal : Refusal) : Run :=
  { run with
    nextSeq := run.nextSeq + 1
    entries := run.entries ++ [.sent run.nextSeq (.failure req.answered refusal.message) true] }

theorem performed_refusal {run : Run} {files : Files.View} {req : Request} {refusal : Refusal}
    (h : run.session.plan files req = .error (.refused run.session refusal)) :
    run.performed (run.session.reaction files req) = run.refused req refusal := by
  rw [Session.reaction, h]
  rfl

/-- A plan that is carried out answers with no failure. -/
theorem no_failure_of_plan {s : Session} {files : Files.View} {req : Request} {acts : List Act}
    (h : s.plan files req = .ok acts) (seq : Nat) :
    ∀ v ∈ responses (recorded seq acts), v.get? "success" = some (.bool true) := by
  obtain ⟨early, late, body, hmessages, -⟩ := Session.messages_plan h
  have haccepted : (messages acts).filterMap Message.accepted? = [true] := by
    rw [hmessages, List.filterMap_append, List.filterMap_cons, filterMap_events fun _ => rfl,
      filterMap_events fun _ => rfl]
    rfl
  intro v hv
  have hmem := List.mem_map_of_mem (f := (·.get? "success")) hv
  rw [success_recorded, haccepted] at hmem
  exact List.mem_singleton.1 hmem

end Run

/-- **Failures are atomic.** In any state of the session, over any files and for any well-formed
request that is handled without a failing write: the request is answered with a failure exactly when
the session refuses it for some cause. The failure is then all that was written, tracing was not
switched, and all of the session is as it was, the number of the next message apart. -/
theorem refused_leaves_session (run : Run) (faults : Faults) (files : Files.View) (req : Request)
    (delivered : ∀ seq m, .sent seq m false ∉
      (run.handle faults files req).1.entries.drop run.entries.length) :
    ((∃ v ∈ responses ((run.handle faults files req).1.entries.drop run.entries.length),
        v.get? "success" = some (.bool false)) ↔
      ∃ refusal, run.session.Refuses files req refusal) ∧
    ∀ refusal, run.session.Refuses files req refusal →
      run.handle faults files req =
        ({ run with
            nextSeq := run.nextSeq + 1
            entries := run.entries ++
              [.sent run.nextSeq (.failure req.answered refusal.message) true] }, .goOn) := by
  have hentries : (run.handle faults files req).1 =
      run.performed (run.session.reaction files req) := by
    rw [Run.run_handle_of_delivered delivered]
  have hrefused : ∀ refusal, run.session.Refuses files req refusal →
      run.handle faults files req = (run.refused req refusal, .goOn) := by
    intro refusal hrefuses
    have hplan := Session.plan_eq_refused_iff.2 ⟨hrefuses, rfl⟩
    have hstays : req.command ≠ "disconnect" := by
      intro hlast
      obtain ⟨acts, hacts⟩ := run.session.plan_disconnect files hlast
      rw [hplan] at hacts
      cases hacts
    rw [Run.handle_of_delivered delivered, Run.handle_none hrefuses.not_panics,
      Run.performed_refusal hplan, Run.outcomeOf, if_neg hstays]
  refine ⟨⟨?_, ?_⟩, hrefused⟩
  · rintro ⟨v, hv, hfailure⟩
    cases hplan : run.session.plan files req with
    | ok acts =>
      rw [hentries, Session.reaction, hplan] at hv
      simp only [Run.performed, List.drop_left] at hv
      rw [Run.no_failure_of_plan hplan _ v hv] at hfailure
      cases hfailure
    | error obstacle =>
      cases Session.hindered_of_plan hplan with
      | refused why => exact ⟨why, (Session.plan_eq_refused_iff.1 hplan).1⟩
      | panicked panics =>
        -- A crash answers nothing.
        rw [hentries, Session.reaction, hplan, Run.performed_nil, List.drop_length] at hv
        cases hv
  · rintro ⟨refusal, hrefuses⟩
    rw [hrefused refusal hrefuses, Run.refused, List.drop_left, Run.responses_failure]
    exact ⟨_, List.mem_singleton.2 rfl, toJson_success rfl _⟩

/-- A program that stopped at a breakpoint is launched again after its file was removed. -/
theorem relaunch_of_removed_file :
    let files : Files.View := { read := fun _ => .error .notFound, canonical := fun _ => none }
    let req : Request := ⟨9, "request", "launch", .obj [("program", .str "p.tab")]⟩
    let run : Run :=
      { session :=
          { phase := .stopped .breakpoint
            program := some "p.tab"
            source := .ofText "start\nend".toList
            cursor := .onLine 1
            breakpoints := ⟨1001, [(Files.components "p.tab", [⟨1000, true, 2⟩])]⟩ }
        nextSeq := 8 }
    (∃ v ∈ responses ((run.handle Faults.none files req).1.entries.drop run.entries.length),
        v.get? "success" = some (.bool false)) ∧
      run.handle Faults.none files req =
        ({ run with
            nextSeq := 9
            entries := [.sent 8 (.failure req.answered
              (Refusal.unreadable "p.tab" .notFound).message) true] }, .goOn) := by
  intro files req run
  have hdecodes : Command.ofRequest req = .ok (.launch { program := some "p.tab" }) := rfl
  have hrefuses : run.session.Refuses files req (.unreadable "p.tab" .notFound) :=
    .unreadable hdecodes rfl rfl
  obtain ⟨hanswered, hrefused⟩ :=
    refused_leaves_session run Faults.none files req (run.delivered_none files req)
  exact ⟨hanswered.2 ⟨_, hrefuses⟩, hrefused _ hrefuses⟩

end TabTools.Debug
