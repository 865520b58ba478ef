import TabTools.Proofs.Debug.Journey
import TabTools.Proofs.Debug.Scan

/-!
# Layouts of programs

**Layouts** (`Layout`). The source of a program, the client lines of its breakpoints and the way of
counting lines decide where a continue halts (`Layout.halts`). Hits change the breakpoints, but not
their layout (`Fits`).

**Steps and runs.** Continuing goes to the nearest halting line beyond the cursor (`serve_continue`).
So turns that continue visit the halting lines one by one, forwards to the end of the program
(`leads_forward`) and backwards to its first line (`leads_backward`), whatever bystanders come between.
-/

namespace TabTools.Debug

/-- All that decides where a continue halts. -/
structure Layout where
  program : Files.Path
  source : Source
  base : LineBase
  /-- The client lines of the breakpoints. -/
  marks : List Int

/-- The command to continue in a direction. -/
def Command.continueIn : Direction → Command
  | .forward => .continueForward
  | .backward => .continueBackward

/-- Whether a turn brings the command to continue in a direction. -/
def Turn.continues (direction : Direction) (turn : Turn) : Bool :=
  match turn.command? with
  | some .continueForward => direction = .forward
  | some .continueBackward => direction = .backward
  | _ => false

theorem Turn.command_of_continues {direction : Direction} {turn : Turn}
    (h : turn.continues direction = true) :
    turn.command? = some (Command.continueIn direction) := by
  unfold continues at h
  split at h
  · rename_i heq
    rw [heq, of_decide_eq_true h]
    rfl
  · rename_i heq
    rw [heq, of_decide_eq_true h]
    rfl
  · cases h

theorem Turn.Bystands.continues_eq_false {key : SourceKey} {program : Option Files.Path} {turn : Turn}
    (h : turn.Bystands key program) (direction : Direction) : turn.continues direction = false := by
  obtain ⟨message, hread, hbystands⟩ := h.commands
  rw [Bool.eq_false_iff]
  intro hcontinues
  obtain ⟨message', req, hread', hreq, hof⟩ := request_of_command (command_of_continues hcontinues)
  obtain rfl : message = message' := Except.ok.inj (hread.symm.trans hread')
  have hcommand := hbystands req hreq _ hof
  cases direction <;> exact hcommand

namespace Layout

/-- The key of the source of the program. -/
def key (l : Layout) : SourceKey := Files.components l.program

def marked (l : Layout) (line : Nat) : Bool := l.marks.contains (l.base.toClient line)

/-- Whether a continue halts at a line. -/
def halts (l : Layout) (line : Nat) : Bool :=
  (l.source.get? line).any fun text => l.marked line || Text.mentions exceptionMarker text

/-- Why it halts there. -/
def reason (l : Layout) (line : Nat) : StopReason :=
  if l.marked line then .breakpoint else .exception

/-- The lines where it halts, from the first to the last. -/
def stops (l : Layout) : List Nat := (List.range l.source.length).filter l.halts

/-- The lines where it halts beyond the cursor, nearest first. -/
def beyond (l : Layout) (s : Session) (direction : Direction) : List Nat :=
  (s.cursor.candidates direction l.source.length).filter l.halts

/-- A session with the breakpoints of this layout. -/
structure Prepared (l : Layout) (s : Session) : Prop where
  base : s.base = l.base
  marks : BreakpointTable.marks (s.breakpoints.get l.key) = l.marks

/-- A session with a program of this layout. -/
structure Fits (l : Layout) (s : Session) : Prop extends l.Prepared s where
  source : s.source = l.source
  program : s.program = some l.program

/-- A session whose program has ended. -/
structure Ended (l : Layout) (s : Session) : Prop where
  program : s.program = some l.program
  phase : s.phase = .terminated

/-- A session whose program has stopped at a line. -/
structure Stopped (l : Layout) (line : Nat) (s : Session) : Prop extends l.Fits s where
  live : s.isLive = true
  cursor : s.cursor = .onLine line

variable {l : Layout} {s : Session}

theorem Prepared.alike {t : Session} (h : l.Prepared s) (halike : s.Alike l.key t) :
    l.Prepared t where
  base := halike.base.trans h.base
  marks := by rw [halike.breakpoints, h.marks]

theorem Fits.alike {t : Session} (h : l.Fits s) (halike : s.Alike l.key t) : l.Fits t where
  toPrepared := h.toPrepared.alike halike
  source := halike.source.trans h.source
  program := halike.program.trans h.program

theorem Fits.handles (h : l.Fits s) (handles : Handles) : l.Fits { s with handles } :=
  h.alike (.of_handles s handles)

theorem Stopped.alike {line : Nat} {t : Session} (h : l.Stopped line s)
    (halike : s.Alike l.key t) : l.Stopped line t := by
  refine ⟨h.toFits.alike halike, ?_, halike.cursor.trans h.cursor⟩
  rw [Session.isLive, halike.phase]
  exact h.live

theorem Stopped.handles {line : Nat} (h : l.Stopped line s) (handles : Handles) :
    l.Stopped line { s with handles } :=
  h.alike (.of_handles s handles)

theorem beyond_alike {t : Session} (h : s.Alike l.key t) (direction : Direction) :
    l.beyond t direction = l.beyond s direction := by
  rw [beyond, beyond, h.cursor]

theorem Fits.running (h : l.Fits s) : l.Fits s.running :=
  ⟨⟨h.base, h.marks⟩, h.source, h.program⟩

/-! ## Probing -/

theorem Fits.hitAt (h : l.Fits s) (line : Nat) :
    s.hitAt line = s.breakpoints.hit l.key (l.base.toClient line) := by
  rw [Session.hitAt, h.program, h.base]
  rfl

/-- A line of the program halts a continue as the layout says, and no mark moves. -/
theorem Fits.probe_some (h : l.Fits s) {line : Nat} {halt : Halt} {table : BreakpointTable}
    (hprobe : s.probe .events line = some (halt, table)) :
    halt.reason = l.reason line ∧ BreakpointTable.marks (table.get l.key) = l.marks := by
  cases Session.probe_cases hprobe with
  | breakpoint _ hits =>
    rw [h.hitAt] at hits
    obtain ⟨hmarked, hmarks⟩ := BreakpointTable.hit_some hits
    rw [h.marks] at hmarked hmarks
    exact ⟨by simp [Halt.reason, reason, marked, hmarked], hmarks⟩
  | exception _ misses _ =>
    rw [h.hitAt] at misses
    have hmarked := BreakpointTable.hit_none misses
    rw [h.marks] at hmarked
    exact ⟨by simp [Halt.reason, reason, marked, hmarked], h.marks⟩

theorem Fits.haltsAt (h : l.Fits s) : s.haltsAt .events = l.halts := by
  funext line
  unfold Session.haltsAt Session.probe halts
  rw [h.source, h.hitAt]
  cases l.source.get? line with
  | none => rfl
  | some text =>
    cases hhit : s.breakpoints.hit l.key (l.base.toClient line) with
    | some found =>
      have hmarked := (BreakpointTable.hit_some hhit).1
      rw [h.marks] at hmarked
      simp [marked, hmarked]
    | none =>
      have hmarked := BreakpointTable.hit_none hhit
      rw [h.marks] at hmarked
      by_cases hmentions : Text.mentions exceptionMarker text = true <;>
        simp [marked, hmarked, hmentions]

/-! ## Running on -/

theorem Fits.scan_nil (h : l.Fits s) {direction : Direction} (hbeyond : l.beyond s direction = []) :
    s.scan direction .events = none := by
  apply Session.firstStop_of_filter_nil
  rw [h.haltsAt, h.source]
  exact hbeyond

theorem Fits.scan_cons (h : l.Fits s) {direction : Direction} {line : Nat} {more : List Nat}
    (hbeyond : l.beyond s direction = line :: more) :
    ∃ halt table, s.scan direction .events = some ⟨line, halt, table⟩ ∧
      halt.reason = l.reason line ∧ BreakpointTable.marks (table.get l.key) = l.marks := by
  rw [beyond, ← h.haltsAt, ← h.source] at hbeyond
  obtain ⟨halt, table, hprobe, hscan⟩ := Session.firstStop_of_filter_cons hbeyond
  exact ⟨halt, table, hscan, h.probe_some hprobe⟩

theorem shown_stopAt (s t : Session) (req : Request) (line : Nat) (reason : StopReason)
    (hit : Option Nat) (verified : Option Breakpoint) :
    Run.shown t (s.stopAt req line reason hit verified) = [.stop (some line) reason] := by
  cases verified <;> rfl

/-- **Running on to a halting line.** -/
theorem Fits.resume_cons (h : l.Fits s) {direction : Direction} {line : Nat} {more : List Nat}
    (hbeyond : l.beyond s direction = line :: more) (t : Session) (req : Request) :
    l.Stopped line (finalSession t (s.resume req direction .events)) ∧
      Run.shown t (s.resume req direction .events) = [.stop (some line) (l.reason line)] := by
  obtain ⟨halt, table, hscan, hreason, hmarks⟩ := h.running.scan_cons hbeyond
  generalize hacts : s.resume req direction .events = acts
  cases hacts ▸ Session.resume_cases s req direction .events with
  | halted scans =>
    rw [hscan] at scans
    cases scans
    rw [Session.finalSession_stopAt, shown_stopAt, hreason]
    exact ⟨⟨⟨⟨h.base, hmarks⟩, h.source, h.program⟩, rfl, rfl⟩, rfl⟩
  | ended scans => rw [hscan] at scans; cases scans
  | rewound scans => rw [hscan] at scans; cases scans

/-- **Running off the end.** -/
theorem Fits.resume_forward_nil (h : l.Fits s) (hbeyond : l.beyond s .forward = []) (t : Session)
    (req : Request) :
    l.Ended (finalSession t (s.resume req .forward .events)) ∧
      Run.shown t (s.resume req .forward .events) = [.finish] := by
  have hscan := h.running.scan_nil hbeyond
  generalize hacts : s.resume req .forward .events = acts
  cases hacts ▸ Session.resume_cases s req .forward .events with
  | halted scans => rw [hscan] at scans; cases scans
  | ended _ => exact ⟨⟨h.program, rfl⟩, rfl⟩

/-- **Running off the start.** -/
theorem Fits.resume_backward_nil (h : l.Fits s) (hbeyond : l.beyond s .backward = []) (t : Session)
    (req : Request) :
    l.Stopped 0 (finalSession t (s.resume req .backward .events)) ∧
      Run.shown t (s.resume req .backward .events) = [.stop (some 0) .entry] := by
  have hscan := h.running.scan_nil hbeyond
  generalize hacts : s.resume req .backward .events = acts
  cases hacts ▸ Session.resume_cases s req .backward .events with
  | halted scans => rw [hscan] at scans; cases scans
  | rewound _ =>
    rw [Session.finalSession_stopAt, shown_stopAt]
    exact ⟨⟨⟨⟨h.base, h.marks⟩, h.source, h.program⟩, rfl, rfl⟩, rfl⟩

/-! ## Turns that continue -/

theorem continueIn_stays (direction : Direction) : Command.continueIn direction ≠ .disconnect := by
  cases direction <;> simp [Command.continueIn]

theorem continueIn_ne_stackTrace (direction : Direction) (args : StackTraceArguments) :
    Command.continueIn direction ≠ .stackTrace args := by
  cases direction <;> simp [Command.continueIn]

theorem reaction_continue (direction : Direction) {req : Request} (files : Files.View)
    (hreq : Command.ofRequest req = .ok (.continueIn direction)) (hlive : s.isLive = true) :
    s.reaction files req = s.resume req direction .events := by
  cases direction <;>
    simp [Session.reaction, Session.plan, hreq, Command.continueIn, Session.step, hlive]

theorem reaction_ended (direction : Direction) {req : Request} (files : Files.View)
    (hreq : Command.ofRequest req = .ok (.continueIn direction)) (hphase : s.phase = .terminated) :
    s.reaction files req = [.write s (.failure req.answered Refusal.terminated.message)] := by
  have hlive : s.isLive = false := by rw [Session.isLive, hphase]
  cases direction <;>
    simp [Session.reaction, Session.plan, hreq, Command.continueIn, Session.step, Session.refuse,
      hlive, hphase]

variable {run : Run} {turn : Turn} {turns : List Turn}

/-- What is seen of a stop at a line. -/
def visit (l : Layout) (line : Nat) : Visit := .stop (some line) (l.reason line)

/-- A turn that continues a program under way runs it on. -/
theorem serve_resume (direction : Direction) (h : l.Fits run.session)
    (hlive : run.session.isLive = true) (hturn : turn.continues direction = true)
    {P : Session → Prop} (hP : ∀ s handles, P s → P { s with handles }) {seen : List Visit}
    (hresume : ∀ s t req, l.Fits s → l.beyond s direction = l.beyond run.session direction →
      P (finalSession t (s.resume req direction .events)) ∧
        Run.shown t (s.resume req direction .events) = seen) :
    ∃ next, run.serve Faults.none turn = (next, .goOn) ∧ P next.session ∧ run.visits next = seen := by
  refine Run.serve_shows (Turn.command_of_continues hturn) (continueIn_stays direction)
    (continueIn_ne_stackTrace direction) hP ?_
  intro handles req hreq
  rw [reaction_continue (s := { run.session with handles }) direction turn.files hreq hlive]
  exact hresume _ _ req (h.handles handles) rfl

theorem serve_continue (direction : Direction) (h : l.Fits run.session)
    (hlive : run.session.isLive = true) (hturn : turn.continues direction = true)
    {line : Nat} {more : List Nat} (hbeyond : l.beyond run.session direction = line :: more) :
    ∃ next, run.serve Faults.none turn = (next, .goOn) ∧ l.Stopped line next.session ∧
      run.visits next = [l.visit line] := by
  refine serve_resume direction h hlive hturn (fun s handles h => h.handles handles) ?_
  intro s t req hfits hsame
  exact hfits.resume_cons (hsame.trans hbeyond) t req

theorem serve_finish (h : l.Fits run.session) (hlive : run.session.isLive = true)
    (hturn : turn.continues .forward = true) (hbeyond : l.beyond run.session .forward = []) :
    ∃ next, run.serve Faults.none turn = (next, .goOn) ∧ l.Ended next.session ∧
      run.visits next = [.finish] := by
  refine serve_resume .forward h hlive hturn (P := l.Ended) (fun s handles h => ⟨h.1, h.2⟩) ?_
  intro s t req hfits hsame
  exact hfits.resume_forward_nil (hsame.trans hbeyond) t req

theorem serve_rewind (h : l.Fits run.session) (hlive : run.session.isLive = true)
    (hturn : turn.continues .backward = true) (hbeyond : l.beyond run.session .backward = []) :
    ∃ next, run.serve Faults.none turn = (next, .goOn) ∧ l.Stopped 0 next.session ∧
      run.visits next = [.stop (some 0) .entry] := by
  refine serve_resume .backward h hlive hturn (fun s handles h => h.handles handles) ?_
  intro s t req hfits hsame
  exact hfits.resume_backward_nil (hsame.trans hbeyond) t req

theorem serve_ended (h : l.Ended run.session) (hturn : turn.continues .forward = true) :
    ∃ next, run.serve Faults.none turn = (next, .goOn) ∧ l.Ended next.session ∧
      run.visits next = [] := by
  refine Run.serve_shows (P := l.Ended) (Turn.command_of_continues hturn)
    (continueIn_stays .forward) (continueIn_ne_stackTrace .forward)
    (fun s handles h => ⟨h.1, h.2⟩) ?_
  intro handles req hreq
  rw [reaction_ended (s := { run.session with handles }) .forward turn.files hreq h.phase]
  exact ⟨⟨h.program, h.phase⟩, rfl⟩

/-! ## Runs of continues -/

/-- Turns that continue in one direction, with bystanders between them. -/
def Continuing (l : Layout) (direction : Direction) (turns : List Turn) : Prop :=
  ∀ turn ∈ turns, turn.continues direction = true ∨ turn.Bystands l.key (some l.program)

theorem Continuing.head {direction : Direction} (h : l.Continuing direction (turn :: turns)) :
    turn.continues direction = true ∨ turn.Bystands l.key (some l.program) := h turn (.head _)

theorem Continuing.tail {direction : Direction} (h : l.Continuing direction (turn :: turns)) :
    l.Continuing direction turns := fun turn hmem => h turn (List.mem_cons_of_mem _ hmem)

/-- After the end nothing is seen any more. -/
theorem leads_ended (h : l.Ended run.session) (hturns : l.Continuing .forward turns) :
    ∃ last, Run.Leads run turns last [] := by
  induction turns generalizing run with
  | nil => exact ⟨run, .nil run⟩
  | cons turn rest ih =>
    obtain ⟨next, hserve, hnext, hvisits⟩ : ∃ next, run.serve Faults.none turn = (next, .goOn) ∧
        l.Ended next.session ∧ run.visits next = [] := by
      rcases hturns.head with hcontinues | hbystands
      · exact serve_ended h hcontinues
      · rw [← h.program] at hbystands
        obtain ⟨next, hserve, halike, hvisits⟩ := Run.serve_bystander run hbystands
        exact ⟨next, hserve, ⟨halike.program.trans h.program, halike.phase.trans h.phase⟩, hvisits⟩
    obtain ⟨last, hleads⟩ := ih hnext hturns.tail
    exact ⟨last, (Run.Leads.single hserve hvisits).trans hleads⟩

theorem Stopped.beyond_next {line : Nat} {direction : Direction} {more : List Nat} {t : Session}
    (h : l.Stopped line t) (hbeyond : l.beyond s direction = line :: more) :
    l.beyond t direction = more := by
  rw [beyond, h.cursor]
  exact (Cursor.candidates_onLine hbeyond).2

/-- **Continuing forwards** visits the halting lines ahead, nearest first, and then ends. As long as
it does not end, it stays on halting lines. -/
theorem leads_forward {line : Nat} (h : l.Stopped line run.session) (hhalts : l.halts line = true)
    (hturns : l.Continuing .forward turns) :
    ∃ last, Run.Leads run turns last
        (((l.beyond run.session .forward).map l.visit ++ [Visit.finish]).take
          (turns.countP (Turn.continues .forward))) ∧
      (turns.countP (Turn.continues .forward) ≤ (l.beyond run.session .forward).length →
        ∃ line, l.halts line = true ∧ l.Stopped line last.session ∧
          l.beyond last.session .forward =
            (l.beyond run.session .forward).drop (turns.countP (Turn.continues .forward))) := by
  induction turns generalizing run line with
  | nil => exact ⟨run, .nil run, fun _ => ⟨line, hhalts, h, rfl⟩⟩
  | cons turn rest ih =>
    rcases hturns.head with hcontinues | hbystands
    · rw [List.countP_cons_of_pos hcontinues]
      cases hbeyond : l.beyond run.session .forward with
      | nil =>
        obtain ⟨next, hserve, hnext, hvisits⟩ := serve_finish h.toFits h.live hcontinues hbeyond
        obtain ⟨last, hleads⟩ := leads_ended hnext hturns.tail
        refine ⟨last, ?_, fun hfew => absurd hfew (Nat.not_succ_le_zero _)⟩
        rw [List.map_nil, List.nil_append, List.take_succ_cons, List.take_nil]
        exact (Run.Leads.single hserve hvisits).trans hleads
      | cons nearest more =>
        obtain ⟨next, hserve, hnext, hvisits⟩ :=
          serve_continue .forward h.toFits h.live hcontinues hbeyond
        have hnearest : l.halts nearest = true := by
          have hmem : nearest ∈ l.beyond run.session .forward := by rw [hbeyond]; exact .head _
          exact (List.mem_filter.1 hmem).2
        obtain ⟨last, hleads, hlast⟩ := ih hnext hnearest hturns.tail
        rw [hnext.beyond_next hbeyond] at hleads hlast
        refine ⟨last, (Run.Leads.single hserve hvisits).trans hleads, fun hfew => ?_⟩
        exact hlast (Nat.le_of_succ_le_succ hfew)
    · have hskips : ¬ turn.continues .forward = true := by simp [hbystands.continues_eq_false]
      rw [← h.program] at hbystands
      obtain ⟨next, hserve, halike, hvisits⟩ := Run.serve_bystander run hbystands
      obtain ⟨last, hleads, hlast⟩ := ih (h.alike halike) hhalts hturns.tail
      rw [List.countP_cons_of_neg hskips, ← beyond_alike halike]
      exact ⟨last, (Run.Leads.single hserve hvisits).trans hleads, hlast⟩

/-- **Continuing backwards** visits the halting lines behind, nearest first, and then the first line
of the program. -/
theorem leads_backward {line : Nat} (h : l.Stopped line run.session)
    (hturns : l.Continuing .backward turns) {n : Nat}
    (hn : turns.countP (Turn.continues .backward) ≤ n) :
    ∃ last, Run.Leads run turns last
      (((l.beyond run.session .backward).map l.visit ++
        List.replicate n (Visit.stop (some 0) .entry)).take
          (turns.countP (Turn.continues .backward))) := by
  induction turns generalizing run line n with
  | nil => exact ⟨run, .nil run⟩
  | cons turn rest ih =>
    rcases hturns.head with hcontinues | hbystands
    · rw [List.countP_cons_of_pos hcontinues] at hn ⊢
      cases hbeyond : l.beyond run.session .backward with
      | nil =>
        obtain ⟨next, hserve, hnext, hvisits⟩ := serve_rewind h.toFits h.live hcontinues hbeyond
        have hnone : l.beyond next.session .backward = [] := by
          rw [beyond, hnext.cursor]
          simp [Cursor.candidates, Cursor.onLine]
        obtain ⟨n, rfl⟩ : ∃ m, n = m + 1 := ⟨n - 1, by omega⟩
        obtain ⟨last, hleads⟩ := ih hnext hturns.tail (n := n) (by omega)
        rw [hnone] at hleads
        exact ⟨last, (Run.Leads.single hserve hvisits).trans hleads⟩
      | cons nearest more =>
        obtain ⟨next, hserve, hnext, hvisits⟩ :=
          serve_continue .backward h.toFits h.live hcontinues hbeyond
        obtain ⟨last, hleads⟩ := ih hnext hturns.tail (n := n) (by omega)
        rw [hnext.beyond_next hbeyond] at hleads
        exact ⟨last, (Run.Leads.single hserve hvisits).trans hleads⟩
    · have hskips : ¬ turn.continues .backward = true := by simp [hbystands.continues_eq_false]
      rw [List.countP_cons_of_neg hskips] at hn ⊢
      rw [← h.program] at hbystands
      obtain ⟨next, hserve, halike, hvisits⟩ := Run.serve_bystander run hbystands
      obtain ⟨last, hleads⟩ := ih (h.alike halike) hturns.tail hn
      rw [← beyond_alike halike]
      exact ⟨last, (Run.Leads.single hserve hvisits).trans hleads⟩

end Layout

end TabTools.Debug
