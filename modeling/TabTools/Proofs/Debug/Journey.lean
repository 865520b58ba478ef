import TabTools.Proofs.Debug.Crash
import TabTools.Proofs.Debug.Breakpoint

/-!
# Journeys

**Visits** (`Visit`). What a client sees of a program: where it stops and why, and that it ends.

**Journeys** (`Run.journey`, `Run.Leads`). All visits of a list of turns, while every write succeeds.
What one turn shows is what its request shows (`serve_shows`), and journeys are put together turn by
turn.

**Bystanders** (`Turn.Bystands`). Most requests neither move the program nor touch the breakpoints of
its source. Nothing is seen of them, and a program does not notice them (`serve_bystander`).
-/

namespace TabTools.Debug

/-! ## Visits -/

/-- What is seen of a program. -/
inductive Visit where
  /-- It has stopped with the cursor on this line. -/
  | stop (line : Option Nat) (reason : StopReason)
  /-- It has ended. -/
  | finish
deriving DecidableEq, Repr

/-- What a message shows of the program while the cursor is on a line. -/
def Message.visit? (line : Option Nat) : Message → Option Visit
  | .event (.stopped reason _) => some (.stop line reason)
  | .event .terminated => some .finish
  | _ => none

def Entry.visit? (line : Option Nat) : Entry → Option Visit
  | .sent _ m true => m.visit? line
  | _ => none

namespace Run

/-- What the messages delivered in a turn show. -/
def visits (before after : Run) : List Visit :=
  (after.entries.drop before.entries.length).filterMap (Entry.visit? after.session.cursor.line)

/-- What acts show when all of them are performed. -/
def shown (s : Session) (acts : List Act) : List Visit :=
  (messages acts).filterMap (Message.visit? (finalSession s acts).cursor.line)

theorem filterMap_visit?_recorded (line : Option Nat) (seq : Nat) (acts : List Act) :
    (recorded seq acts).filterMap (Entry.visit? line) =
      (messages acts).filterMap (Message.visit? line) :=
  filterMap_recorded (fun _ _ => rfl) rfl seq acts

theorem filterMap_visit?_reports (line : Option Nat) (seq : Nat) (s : Session)
    (events : List Link.Event) :
    (recorded seq (reportActs s events)).filterMap (Entry.visit? line) = [] := by
  rw [filterMap_visit?_recorded, filterMap_reportActs (fun _ _ => rfl)]

theorem visits_heard (run : Run) (turn : Turn) (message : Json) :
    run.visits (run.heard turn message) = [] := by
  have hentries : (run.heard turn message).entries =
      run.entries ++ (recorded run.nextSeq (reportActs run.session run.queue) ++
        [.received message]) := by
    simp [drained, performed, heard]
  rw [visits, hentries, List.drop_left, List.filterMap_append, filterMap_visit?_reports]
  rfl

theorem visits_performed (run : Run) (turn : Turn) (message : Json) (acts : List Act) :
    run.visits ((run.heard turn message).performed acts).drained =
      shown (run.heard turn message).session acts := by
  -- Reports move no cursor and show nothing.
  obtain ⟨handles, hsession⟩ := session_drained ((run.heard turn message).performed acts)
  have hentries : ((run.heard turn message).performed acts).drained.entries =
      run.entries ++ (recorded run.nextSeq (reportActs run.session run.queue) ++
        .received message :: (recorded (run.heard turn message).nextSeq acts ++
          recorded ((run.heard turn message).performed acts).nextSeq
            (reportActs ((run.heard turn message).performed acts).session
              ((run.heard turn message).performed acts).queue))) := by
    simp [drained, performed, heard]
  rw [visits, hsession, hentries, List.drop_left, List.filterMap_append, filterMap_visit?_reports,
    List.nil_append, List.filterMap_cons, List.filterMap_append, filterMap_visit?_reports,
    List.append_nil, filterMap_visit?_recorded]
  rfl

/-! ## Turns with a request -/

variable {run : Run} {turn : Turn}

/-- **A turn** shows what its request shows, and leaves a session that differs in handles only from
the one that the request leaves. -/
theorem serve_shows_request {message : Json} {req : Request} (hread : turn.inbound = .ok message)
    (hreq : request? message = some req) (hstays : Command.ofRequest req ≠ .ok .disconnect)
    (sound : ¬ run.session.Panics req) {P : Session → Prop}
    (hP : ∀ s handles, P s → P { s with handles }) {seen : List Visit}
    (h : ∀ handles,
      P (finalSession { run.session with handles }
        (({ run.session with handles }).reaction turn.files req)) ∧
      shown { run.session with handles }
        (({ run.session with handles }).reaction turn.files req) = seen) :
    ∃ next, run.serve Faults.none turn = (next, .goOn) ∧ P next.session ∧ run.visits next = seen := by
  have hserve := serve_none_request run hread hreq sound
  have hgoes : outcomeOf req = .goOn := if_neg fun hlast => hstays (Command.ofRequest_disconnect hlast)
  rw [hgoes] at hserve
  obtain ⟨before, hbefore⟩ := session_drained run
  have hheard : (run.heard turn message).session = { run.session with handles := before } := hbefore
  obtain ⟨hfinal, hshown⟩ := h before
  rw [← hheard] at hfinal hshown
  refine ⟨_, hserve, ?_, (visits_performed run turn message _).trans hshown⟩
  obtain ⟨after, hafter⟩ := session_drained ((run.heard turn message).performed
    ((run.heard turn message).session.reaction turn.files req))
  rw [hafter]
  exact hP _ _ hfinal

theorem serve_shows {command : Command} (hcommand : turn.command? = some command)
    (hstays : command ≠ .disconnect) (hother : ∀ args, command ≠ .stackTrace args)
    {P : Session → Prop} (hP : ∀ s handles, P s → P { s with handles }) {seen : List Visit}
    (h : ∀ handles req, Command.ofRequest req = .ok command →
      P (finalSession { run.session with handles }
        (({ run.session with handles }).reaction turn.files req)) ∧
      shown { run.session with handles }
        (({ run.session with handles }).reaction turn.files req) = seen) :
    ∃ next, run.serve Faults.none turn = (next, .goOn) ∧ P next.session ∧ run.visits next = seen := by
  obtain ⟨message, req, hread, hreq, hof⟩ := Turn.request_of_command hcommand
  refine serve_shows_request hread hreq ?_ (Session.not_panics_of_command hof hother) hP
    fun handles => h handles req hof
  rw [hof]
  exact fun heq => hstays (Except.ok.inj heq)

/-! ## Journeys -/

/-- What is seen in a list of turns until the session ends, while every write succeeds. -/
def journey : Run → List Turn → List Visit
  | _, [] => []
  | run, turn :: rest =>
    match run.serve Faults.none turn with
    | (next, .goOn) => run.visits next ++ journey next rest
    | (next, _) => run.visits next

/-- Turns that lead from one run to another, and what is seen on the way. -/
inductive Leads : Run → List Turn → Run → List Visit → Prop
  | nil (run : Run) : Leads run [] run []
  | cons {run next last : Run} {turn : Turn} {turns : List Turn} {seen : List Visit}
      (serves : run.serve Faults.none turn = (next, .goOn)) (rest : Leads next turns last seen) :
      Leads run (turn :: turns) last (run.visits next ++ seen)

theorem Leads.single {next : Run} {seen : List Visit}
    (hserve : run.serve Faults.none turn = (next, .goOn)) (hseen : run.visits next = seen) :
    Leads run [turn] next seen := by
  have h := Leads.cons hserve (.nil next)
  rwa [hseen, List.append_nil] at h

theorem Leads.trans {next last : Run} {turns more : List Turn} {seen later : List Visit}
    (h : Leads run turns next seen) (hmore : Leads next more last later) :
    Leads run (turns ++ more) last (seen ++ later) := by
  induction h with
  | nil => exact hmore
  | cons serves _ ih =>
    rw [List.append_assoc]
    exact .cons serves (ih hmore)

theorem Leads.journey_eq {last : Run} {turns : List Turn} {seen : List Visit}
    (h : Leads run turns last seen) : run.journey turns = seen := by
  induction h with
  | nil => rfl
  | cons serves _ ih => simp only [journey, serves, ih]

theorem Leads.serveAll_eq {last : Run} {turns : List Turn} {seen : List Visit}
    (h : Leads run turns last seen) : serveAll Faults.none run turns = (last, .goOn) := by
  induction h with
  | nil => rfl
  | cons serves _ ih => rw [serveAll_goOn serves, ih]

end Run

/-! ## Bystanders -/

/-- Commands that neither move a program nor touch the breakpoints of its source. -/
def Command.Bystands (key : SourceKey) (files : Files.View) : Command → Prop
  | .configurationDone | .threads | .stackTrace _ | .scopes _ | .variables _ | .evaluate _ => True
  | .setBreakpoints args => ∀ path, args.source.path = some path →
      Files.components (files.sourcePath path) ≠ key
  | _ => False

/-- Turns that bring no command at all or such a command, and crash no session that has `program`. -/
structure Turn.Bystands (key : SourceKey) (program : Option Files.Path) (turn : Turn) : Prop where
  commands : ∃ message, turn.inbound = .ok message ∧ ∀ req, Run.request? message = some req →
    ∀ command, Command.ofRequest req = .ok command → command.Bystands key turn.files
  survived : turn.crashes program = false

/-- Sessions that are the same to a program of this source. -/
structure Session.Alike (key : SourceKey) (s t : Session) : Prop where
  phase : t.phase = s.phase
  program : t.program = s.program
  source : t.source = s.source
  cursor : t.cursor = s.cursor
  base : t.base = s.base
  breakpoints : t.breakpoints.get key = s.breakpoints.get key

namespace Session

theorem Alike.of_handles {key : SourceKey} (s : Session) (handles : Handles) :
    s.Alike key { s with handles } :=
  ⟨rfl, rfl, rfl, rfl, rfl, rfl⟩

theorem Alike.trans {key : SourceKey} {s t u : Session} (h : s.Alike key t) (h' : t.Alike key u) :
    s.Alike key u where
  phase := h'.phase.trans h.phase
  program := h'.program.trans h.program
  source := h'.source.trans h.source
  cursor := h'.cursor.trans h.cursor
  base := h'.base.trans h.base
  breakpoints := h'.breakpoints.trans h.breakpoints

/-- What a bystander does. -/
theorem reaction_bystander {key : SourceKey} {files : Files.View} {req : Request}
    (h : ∀ command, Command.ofRequest req = .ok command → command.Bystands key files) {s : Session}
    (sound : ¬ s.Panics req) :
    ∃ after m, s.reaction files req = [.write after m] ∧ s.Alike key after ∧
      ∀ line, m.visit? line = none := by
  have halike : ∀ handles, s.Alike key { s with handles } := Alike.of_handles s
  unfold reaction plan
  cases hof : Command.ofRequest req with
  | error e => exact ⟨_, _, rfl, halike s.handles, fun _ => rfl⟩
  | ok command =>
    have hbystands := h command hof
    cases command with
    | configurationDone | threads | scopes | evaluate =>
      exact ⟨_, _, rfl, halike _, fun _ => rfl⟩
    | stackTrace args =>
      dsimp only
      generalize s.stackTrace req args = result, s.stackTrace_cases req args = traced
      cases traced with
      | refused => exact ⟨_, _, rfl, halike s.handles, fun _ => rfl⟩
      | panicked launched noText => exact absurd ⟨args, _, hof, launched, noText⟩ sound
      | told => exact ⟨_, _, rfl, halike s.handles, fun _ => rfl⟩
    | «variables» args =>
      dsimp only
      unfold listVariables
      split
      · exact ⟨_, _, rfl, halike s.handles, fun _ => rfl⟩
      · exact ⟨_, _, rfl, halike _, fun _ => rfl⟩
    | setBreakpoints args =>
      dsimp only
      unfold setBreakpoints
      cases hpath : args.source.path with
      | none => exact ⟨_, _, rfl, halike s.handles, fun _ => rfl⟩
      | some path =>
        dsimp only
        cases load files path with
        | error refusal => exact ⟨_, _, rfl, halike s.handles, fun _ => rfl⟩
        | ok source =>
          refine ⟨_, _, rfl, ⟨rfl, rfl, rfl, rfl, rfl, ?_⟩, fun _ => rfl⟩
          exact BreakpointTable.get_set_of_ne _ (hbystands path hpath).symm _ _ _
    | _ => exact hbystands.elim

end Session

namespace Run

variable {turn : Turn} {key : SourceKey}

theorem serve_bystander (run : Run) (h : turn.Bystands key run.session.program) :
    ∃ next, run.serve Faults.none turn = (next, .goOn) ∧ run.session.Alike key next.session ∧
      run.visits next = [] := by
  obtain ⟨⟨message, hread, hbystands⟩, hsurvived⟩ := h
  cases hreq : request? message with
  | none =>
    obtain ⟨handles, hsession⟩ := session_drained run
    refine ⟨_, serve_none_other run hread hreq, ?_, visits_heard _ _ _⟩
    show run.session.Alike key run.drained.session
    rw [hsession]
    exact .of_handles run.session handles
  | some req =>
    have hcommand := hbystands req hreq
    have hsound := not_panics hread hreq hsurvived
    refine serve_shows_request hread hreq (fun hlast => hcommand _ hlast) hsound ?_ ?_
    · intro s handles halike
      exact halike.trans (.of_handles s handles)
    · intro handles
      obtain ⟨after, m, hreaction, halike, hvisit⟩ :=
        Session.reaction_bystander hcommand (s := { run.session with handles }) hsound
      rw [hreaction]
      exact ⟨(Session.Alike.of_handles run.session handles).trans halike, by simp [shown, hvisit]⟩

theorem leads_bystanders (run : Run) {turns : List Turn}
    (h : ∀ turn ∈ turns, turn.Bystands key run.session.program) :
    ∃ next, Leads run turns next [] ∧ run.session.Alike key next.session := by
  induction turns generalizing run with
  | nil => exact ⟨run, .nil run, .of_handles run.session run.session.handles⟩
  | cons turn rest ih =>
    obtain ⟨next, hserve, halike, hvisits⟩ := serve_bystander run (h turn (.head _))
    obtain ⟨last, hleads, hlast⟩ := ih next fun turn hmem => by
      rw [halike.program]
      exact h turn (List.mem_cons_of_mem _ hmem)
    exact ⟨last, (Leads.single hserve hvisits).trans hleads, halike.trans hlast⟩

end Run

end TabTools.Debug
