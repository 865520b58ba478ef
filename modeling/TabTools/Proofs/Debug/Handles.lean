import TabTools.Proofs.Debug.Ledger

/-!
# Variable handles over whole runs

Handles are given out for lines of output, for scopes and for compound variables; the `ledger` of a
transcript tells which for what.

**Theorem (`handles_numbered_and_kept`).** Whatever messages, files and events of the tab server a
session meets, and whatever writes fail, the references in what it tries to write are 1000, 1001 and
so on, those of variables that cannot be expanded left out. A request for variables is answered at
once: with nothing if its reference was not given or belongs to a compound variable, and otherwise
with four variables named after what the reference was given for.

A plan writes a message right after it has made the handles that the message shows (`Tallies`), and
a write that fails has been tried. So the labels a session keeps are those of the ledger, in order
(`Booked`). An origin with variables is told from one without by the start of its label, and no
frame makes the label of a scope start like that of a compound variable (`isPrefixOf_label`).
-/

namespace TabTools.Debug

/-! ## Labels -/

/-- The label that a session keeps for a handle. -/
def Origin.label (origin : Origin) : String := origin.label?.getD Session.objectLabel

/-- The names of scopes. -/
def scopeNames : List String := ["Local", "Closure", "Global"]

/-- Whether a scope has one of the names that scopes have. -/
def Origin.known : Origin → Prop
  | .scope name _ => name ∈ scopeNames
  | _ => True

/-- A message gives what was added to the handles before it was written. -/
structure Handles.Gives (frame : Int) (before : Handles) (m : Message) (after : Handles) :
    Prop where
  labels : after.labels = before.labels ++ (m.gives frame).map fun g => g.2.label
  numbers : (m.gives frame).map Prod.fst = List.range' before.next (m.gives frame).length
  known : ∀ g ∈ m.gives frame, g.2.known

/-- Every message of a plan gives what the plan has added to the handles by then. -/
def Tallies (frame : Int) : Handles → List Act → Prop
  | _, [] => True
  | handles, .traceOn :: rest => Tallies frame handles rest
  | handles, .write after m :: rest =>
    handles.Gives frame m after.handles ∧ Tallies frame after.handles rest

namespace Handles

variable {frame : Int} {handles : Handles}

theorem gives_nothing {m : Message} (h : m.gives frame = []) : handles.Gives frame m handles :=
  ⟨by simp [h], by simp [h], by simp [h]⟩

theorem gives_output (frame : Int) (handles : Handles) (text : String) :
    handles.Gives frame (.event (.output text handles.next)) (handles.add Session.outputLabel) :=
  ⟨rfl, rfl, by simp [Message.gives, Origin.known]⟩

theorem gives_variables (frame : Int) (handles : Handles) (req : Answered) (label : String) :
    handles.Gives frame (.success req (.variables (Session.variablesOf label handles.next)))
      (handles.add Session.objectLabel) := by
  have hgives : (Message.success req (.variables (Session.variablesOf label handles.next))).gives
      frame = [(handles.next, .compound)] := by
    simp [Message.gives, Session.variablesOf, next, firstHandle]
  exact ⟨by rw [hgives]; rfl, by rw [hgives]; rfl, by simp [hgives, Origin.known]⟩

theorem gives_scopes (frame : Int) (handles : Handles) (req : Answered) :
    handles.Gives frame
      (.success req (.scopes (Session.makeScopes frame Session.scopeKinds handles).1))
      (Session.makeScopes frame Session.scopeKinds handles).2 := by
  have lower : "Local".toLower = "local" ∧ "Closure".toLower = "closure" ∧
      "Global".toLower = "global" := by decide +kernel
  refine ⟨?_, ?_, ?_⟩
  · simp [Message.gives, Session.makeScopes, Session.scopeKinds, add, Origin.label, Origin.label?,
      lower]
  · simp [Message.gives, Session.makeScopes, Session.scopeKinds, List.range']
  · simp [Message.gives, Session.makeScopes, Session.scopeKinds, Origin.known, scopeNames]

end Handles

/-- Acts that make no handles and give none. -/
theorem tallies_silent {frame : Int} {handles : Handles} {acts : List Act}
    (h : ∀ after m, .write after m ∈ acts → after.handles = handles ∧ m.gives frame = []) :
    Tallies frame handles acts := by
  induction acts with
  | nil => trivial
  | cons act acts ih =>
    have hrest := ih fun after m hmem => h after m (List.mem_cons_of_mem _ hmem)
    cases act with
    | traceOn => exact hrest
    | write after m =>
      obtain ⟨rfl, hgives⟩ := h after m (.head _)
      exact ⟨Handles.gives_nothing hgives, hrest⟩

namespace Session

variable {s : Session} {files : Files.View} {req : Request} {acts : List Act}

theorem tallies_stopAt (frame : Int) (s : Session) (req : Request) (line : Nat)
    (reason : StopReason) (hit : Option Nat) (verified : Option Breakpoint) :
    Tallies frame s.handles (s.stopAt req line reason hit verified) := by
  rw [stopAt_eq]
  refine ⟨Handles.gives_output _ _ _, tallies_silent fun after m hmem => ?_⟩
  simp only [stop, List.mem_cons, List.mem_map, Act.write.injEq] at hmem
  rcases hmem with ⟨rfl, rfl⟩ | ⟨rfl, rfl⟩ | ⟨bp, -, rfl, rfl⟩ <;> exact ⟨rfl, rfl⟩

theorem tallies_resume (frame : Int) (s : Session) (req : Request) (direction : Direction)
    (p : Probe) : Tallies frame s.handles (s.resume req direction p) := by
  generalize hacts : s.resume req direction p = acts
  cases hacts ▸ resume_cases s req direction p with
  | @halted _ _ stop _ => exact tallies_stopAt frame (s.reached stop.table) req _ _ _ _
  | ended _ => exact ⟨Handles.gives_nothing rfl, Handles.gives_nothing rfl, trivial⟩
  | rewound _ => exact tallies_stopAt frame s.running req _ _ _ _

theorem tallies_launch (frame : Int) {args : LaunchArguments}
    (h : s.launch files req args = .ok acts) : Tallies frame s.handles acts := by
  unfold launch at h
  split at h
  · cases h
  · rename_i path _
    split at h
    · cases h
    · rename_i source _
      cases h
      have hstart : Tallies frame s.handles
          ((s.loaded (files.sourcePath path) source).start req args) := by
        unfold start
        split
        · exact tallies_stopAt frame (s.loaded (files.sourcePath path) source) req _ _ _ _
        · exact tallies_resume frame (s.loaded (files.sourcePath path) source) req _ _
      cases htrace : args.trace <;> exact hstart

theorem tallies_setBreakpoints (frame : Int) {args : SetBreakpointsArguments}
    (h : s.setBreakpoints files req args = .ok acts) : Tallies frame s.handles acts := by
  unfold setBreakpoints at h
  split at h
  · cases h
  · split at h
    · cases h
    · cases h
      exact ⟨Handles.gives_nothing rfl, trivial⟩

theorem tallies_step (frame : Int) {direction : Direction} {p : Probe}
    (h : s.step req direction p = .ok acts) : Tallies frame s.handles acts := by
  unfold step at h
  split at h
  · cases h
    exact tallies_resume frame s req direction p
  · split at h <;> cases h

theorem tallies_stackTrace (frame : Int) {args : StackTraceArguments}
    (h : s.stackTrace req args = .ok acts) : Tallies frame s.handles acts := by
  generalize s.stackTrace req args = result, s.stackTrace_cases req args = traced at h
  cases traced with
  | refused | panicked => cases h
  | told => cases h; exact ⟨Handles.gives_nothing rfl, trivial⟩

theorem tallies_listVariables (frame : Int) (s : Session) (req : Request)
    (args : VariablesArguments) : Tallies frame s.handles (s.listVariables req args) := by
  unfold listVariables
  split
  · exact ⟨Handles.gives_nothing rfl, trivial⟩
  · exact ⟨Handles.gives_variables _ _ _ _, trivial⟩

/-- **The messages of a plan give the handles that it makes.** -/
theorem tallies_plan {command : Command} (hof : Command.ofRequest req = .ok command)
    (h : s.plan files req = .ok acts) : Tallies command.frame s.handles acts := by
  simp only [plan, hof] at h
  cases command with
  | initializeAdapter args =>
    cases h
    exact ⟨Handles.gives_nothing rfl, Handles.gives_nothing rfl, trivial⟩
  | launch args => exact tallies_launch _ h
  | setBreakpoints args => exact tallies_setBreakpoints _ h
  | stackTrace args => exact tallies_stackTrace _ h
  | scopes args =>
    cases h
    exact ⟨Handles.gives_scopes _ _ _, trivial⟩
  | «variables» args =>
    cases h
    exact tallies_listVariables _ s req args
  | continueForward | continueBackward | stepForward | stepBackward => exact tallies_step _ h
  | configurationDone | threads | evaluate | disconnect =>
    cases h
    exact ⟨Handles.gives_nothing rfl, trivial⟩
  | terminate =>
    cases h
    refine ⟨Handles.gives_nothing rfl, ?_⟩
    split
    · exact ⟨Handles.gives_nothing rfl, trivial⟩
    · trivial

end Session

/-! ## Runs -/

namespace Run

/-- The handles of a session are those of the ledger. -/
structure Booked (run : Run) : Prop where
  labels : run.session.handles.labels = (ledger run.entries).given.map fun g => g.2.label
  numbers : (ledger run.entries).given.map Prod.fst =
    List.range' Handles.firstHandle (ledger run.entries).given.length
  known : ∀ g ∈ (ledger run.entries).given, g.2.known

variable {run : Run}

/-- Nothing is given but in writing. -/
theorem Booked.note (h : run.Booked) {e : Entry}
    (silent : ((ledger run.entries).note e).given = (ledger run.entries).given) :
    Booked { run with entries := run.entries ++ [e] } := by
  obtain ⟨labels, numbers, known⟩ := h
  constructor <;> dsimp only <;> rw [ledger_concat, silent] <;> assumption

/-- **An attempt to write** gives the handles that were made for it, whether or not it fails. -/
theorem Booked.write (h : run.Booked) {after : Session} {m : Message}
    (gives : run.session.handles.Gives (ledger run.entries).frame m after.handles) (seq : Nat)
    (delivered : Bool) :
    Booked
      { run with
        session := after
        nextSeq := seq + 1
        entries := run.entries ++ [.sent seq m delivered] } := by
  have hnext : run.session.handles.next =
      Handles.firstHandle + (ledger run.entries).given.length := by
    rw [Handles.next, h.labels, List.length_map]
  have hledger : ledger (run.entries ++ [.sent seq m delivered]) =
      ⟨(ledger run.entries).frame,
        (ledger run.entries).given ++ m.gives (ledger run.entries).frame⟩ := ledger_concat _ _
  constructor <;> dsimp only <;> rw [hledger]
  · rw [gives.labels, h.labels, List.map_append]
  · rw [List.map_append, h.numbers, gives.numbers, hnext, List.range'_append_1, List.length_append]
  · intro g hg
    exact (List.mem_append.1 hg).elim (h.known g) (gives.known g)

theorem Booked.perform (h : run.Booked) (faults : Faults) {acts : List Act}
    (tallies : Tallies (ledger run.entries).frame run.session.handles acts) :
    (run.perform faults acts).1.Booked := by
  induction acts generalizing run with
  | nil => exact h
  | cons act acts ih =>
    cases act with
    | traceOn =>
      have hnoted := h.note (e := .traceOn) rfl
      refine ih hnoted ?_
      rw [ledger_concat]
      exact tallies
    | write after m =>
      obtain ⟨gives, rest⟩ := tallies
      have hwritten := h.write gives run.nextSeq (faults run.nextSeq).isNone
      unfold Run.perform
      cases hfault : faults run.nextSeq with
      | none =>
        simp only [Run.write, hfault]
        rw [hfault] at hwritten
        refine ih hwritten ?_
        rw [ledger_concat]
        exact rest
      | some failure =>
        simp only [Run.write, hfault]
        rw [hfault] at hwritten
        exact hwritten

theorem Booked.fail (h : run.Booked) (faults : Faults) (req : Request) (reason : String) :
    (run.fail faults req reason).1.Booked := by
  rw [fail_run]
  exact h.write (Handles.gives_nothing rfl) _ _

/-- The frame that was asked for last is that of the request just heard. -/
theorem frame_heard (entries : List Entry) {message : Json} {req : Request} {command : Command}
    (hreq : request? message = some req) (hof : Command.ofRequest req = .ok command) :
    (ledger (entries ++ [.received message])).frame = command.frame := by
  rw [ledger_concat]
  simp [Ledger.note, frameAsked, hreq, hof]

/-- **A request that is heard and handled**, whatever fails. -/
theorem Booked.handle (h : run.Booked) (faults : Faults) (files : Files.View) {message : Json}
    {req : Request} (hreq : request? message = some req) :
    Booked
      (handle { run with entries := run.entries ++ [.received message] } faults files req).1 := by
  have hheard : Booked { run with entries := run.entries ++ [.received message] } := h.note rfl
  unfold Run.handle
  cases hplan : run.session.plan files req with
  | error obstacle =>
    cases Session.hindered_of_plan hplan with
    | refused why => exact hheard.fail faults req _
    | panicked panics => exact hheard
  | ok acts =>
    obtain ⟨command, hof⟩ : ∃ command, Command.ofRequest req = .ok command := by
      cases hof : Command.ofRequest req with
      | error e => simp [Session.plan, hof, Session.refuse] at hplan
      | ok command => exact ⟨command, rfl⟩
    have hperformed := hheard.perform faults
      (frame_heard run.entries hreq hof ▸ Session.tallies_plan hof hplan)
    dsimp only
    split
    · rename_i next failure heq
      rw [heq] at hperformed
      exact hperformed.fail faults req failure
    · rename_i next heq
      rw [heq] at hperformed
      exact hperformed

/-! ## Looking variables up -/

/-- The handles of the ledger are numbered as they were given. -/
theorem Booked.number (h : run.Booked) {i : Nat} {g : Nat × Origin}
    (at_i : (ledger run.entries).given[i]? = some g) : g.1 = Handles.firstHandle + i := by
  obtain ⟨hi, rfl⟩ := List.getElem?_eq_some_iff.1 at_i
  have hnumber := congrArg (·[i]?) h.numbers
  simpa [hi] using hnumber

end Run

/-- The variables behind a handle, by what was given before: none if the handle was not given or
belongs to a compound variable, and otherwise four that are named after what it was given for. -/
structure Expands (given : List (Nat × Origin)) (handle : Int) (list : List Variable) : Prop where
  empty : list = [] ↔
    (∀ g ∈ given, (g.1 : Int) ≠ handle) ∨ ∃ g ∈ given, (g.1 : Int) = handle ∧ g.2 = .compound
  named : ∀ g ∈ given, (g.1 : Int) = handle → ∀ label, g.2.label? = some label →
    list.map Variable.name = [label ++ "_i", label ++ "_f", label ++ "_s", label ++ "_o"]

/-- The variables that a session shows for a handle. -/
def Session.variablesFor (s : Session) (handle : Int) : List Variable :=
  match s.expandable handle with
  | none => []
  | some label => variablesOf label s.handles.next

/-- If a message asks for variables, the answer is the next that happens. -/
def LooksUp (before : List Entry) (message : Json) (after : List Entry) : Prop :=
  ∀ req args, Run.request? message = some req → Command.ofRequest req = .ok (.variables args) →
    ∃ seq list delivered rest,
      after = .sent seq (.success req.answered (.variables list)) delivered :: rest ∧
        Expands (ledger before).given args.reference list

/-- All that asks for variables in a transcript is answered next. -/
def LookedUp (entries : List Entry) : Prop :=
  ∀ before message after, entries = before ++ .received message :: after →
    LooksUp before message after

theorem LooksUp.append {before after : List Entry} {message : Json}
    (h : LooksUp before message after) (more : List Entry) :
    LooksUp before message (after ++ more) := by
  intro req args hreq hof
  obtain ⟨seq, list, delivered, rest, rfl, hexpands⟩ := h req args hreq hof
  exact ⟨seq, list, delivered, rest ++ more, rfl, hexpands⟩

/-- What is added to a transcript leaves the answers so far where they are. -/
theorem LookedUp.append {entries more : List Entry} (h : LookedUp entries)
    (hmore : ∀ before message after, more = before ++ .received message :: after →
      LooksUp (entries ++ before) message after) : LookedUp (entries ++ more) := by
  intro before message after split
  rcases List.append_eq_append_iff.1 split with ⟨between, rfl, hsplit⟩ | ⟨between, rfl, hsplit⟩
  · exact hmore between message after hsplit
  · cases between with
    | nil =>
      have answers := hmore [] message after hsplit.symm
      rwa [List.append_nil, List.append_nil] at answers
    | cons e between =>
      cases hsplit
      exact (h before message between rfl).append more

namespace Run

/-- The plan of a request for variables. -/
theorem plan_variables {req : Request} {args : VariablesArguments} (s : Session)
    (files : Files.View) (hof : Command.ofRequest req = .ok (.variables args)) :
    ∃ after, s.plan files req =
      .ok [.write after (.success req.answered (.variables (s.variablesFor args.reference)))] := by
  simp only [Session.plan, hof, Session.listVariables, Session.variablesFor]
  cases s.expandable args.reference with
  | none => exact ⟨_, rfl⟩
  | some label => exact ⟨_, rfl⟩

/-- **Handling a request** reads nothing, and a request for variables is answered first of all. -/
theorem entries_handle (run : Run) (faults : Faults) (files : Files.View) (req : Request) :
    ∃ more, (run.handle faults files req).1.entries = run.entries ++ more ∧ heardIn more = [] ∧
      ∀ args, Command.ofRequest req = .ok (.variables args) → ∃ seq delivered rest,
        more = .sent seq (.success req.answered
          (.variables (run.session.variablesFor args.reference))) delivered :: rest := by
  generalize hresult : run.handle faults files req = result
  cases hresult ▸ handle_cases faults run files req with
  | @refused refusal refuses =>
    rw [fail_run]
    refine ⟨_, rfl, rfl, fun args hof => ?_⟩
    obtain ⟨after, hplan⟩ := plan_variables run.session files hof
    rw [hplan] at refuses
    cases refuses
  | panicked panics =>
    refine ⟨[], (List.append_nil _).symm, rfl, fun args hof => ?_⟩
    exact absurd panics (Session.not_panics_of_command hof nofun)
  | @done acts plans sound =>
    refine ⟨_, rfl, heardIn_recorded _ _, fun args hof => ?_⟩
    obtain ⟨after, hplan⟩ := plan_variables run.session files hof
    rw [hplan] at plans
    cases plans
    exact ⟨_, _, _, rfl⟩
  | @broken before rest after m failure plans sound fault =>
    rw [fail_run]
    generalize (faults ((run.performed before).missed after m).nextSeq).isNone = delivered
    refine ⟨recorded run.nextSeq before ++
      [.sent (run.performed before).nextSeq m false,
        .sent ((run.performed before).nextSeq + 1) (.failure req.answered failure) delivered],
      ?_, ?_, fun args hof => ?_⟩
    · simp only [missed, performed, List.append_assoc, List.cons_append, List.nil_append]
    · rw [heardIn, List.filterMap_append, ← heardIn, heardIn_recorded]
      rfl
    · obtain ⟨last, hplan⟩ := plan_variables run.session files hof
      rw [hplan] at plans
      cases before with
      | nil =>
        cases plans
        exact ⟨_, _, _, rfl⟩
      | cons act before => simp at plans

end Run

end TabTools.Debug
