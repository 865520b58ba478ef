import TabTools.Proofs.Debug.Run
import TabTools.Proofs.Debug.Scan

/-!
# The session invariant

Phase, cursor, source and program of a session are changed at different moments, and a write may fail
between any two of them. What ties them together (`Session.Inv`) holds all the same, in every session
that a request passes through on the way (`inv_of_plan`) and so after every turn, whatever fails.

While no write has failed, requests are also carried out to their end, and then no program is left
running between two of them (`settled_of_plan`).
-/

namespace TabTools.Debug

/-- What a line must be for a program to stop there for a reason. -/
def Explains (source : Source) (line : Nat) : StopReason → Prop
  | .entry => line = 0
  | .step => ∃ text, source.get? line = some text ∧ ∃ c ∈ text, Text.isBlank c = false
  | .breakpoint => line < source.length
  | .exception => ∃ text, source.get? line = some text ∧ exceptionMarker <:+: text

/-- What holds of a session at all times. -/
structure Session.Inv (s : Session) : Prop where
  /-- The cursor is on a line of the source, or on the first line, if it is set. -/
  cursor : ∀ line, s.cursor.line = some line → line < s.source.length ∨ line = 0
  /-- A program that runs, has stopped or has ended was launched. -/
  launched : s.phase = .running ∨ (∃ reason, s.phase = .stopped reason) ∨ s.phase = .terminated →
    s.program.isSome
  /-- Nothing is there before the first launch. -/
  fresh : s.phase = .uninitialized ∨ s.phase = .initialized →
    s.program = none ∧ s.source = .empty ∧ s.cursor.line = none
  /-- A program stands where it has stopped. -/
  stopped : ∀ reason, s.phase = .stopped reason →
    ∃ line, s.cursor.line = some line ∧ Explains s.source line reason

theorem explains_entry (source : Source) : Explains source 0 .entry := rfl

theorem Explains.cursor {source : Source} {line : Nat} {reason : StopReason}
    (h : Explains source line reason) : line < source.length ∨ line = 0 := by
  cases reason with
  | entry => exact .inr h
  | step => obtain ⟨text, htext, -⟩ := h; exact .inl (Source.lt_length_of_get? htext)
  | breakpoint => exact .inl h
  | exception => obtain ⟨text, htext, -⟩ := h; exact .inl (Source.lt_length_of_get? htext)

namespace Session

variable {s : Session} {files : Files.View} {req : Request} {acts : List Act}

/-! ## Single sessions -/

theorem inv_start (link : Link) : Inv { link } where
  cursor _ h := by cases h
  launched := by rintro (h | ⟨_, h⟩ | h) <;> cases h
  fresh _ := ⟨rfl, rfl, rfl⟩
  stopped _ h := by cases h

/-- The invariant looks at four fields only. -/
theorem Inv.of_eq {t : Session} (h : Inv s) (hphase : t.phase = s.phase)
    (hprogram : t.program = s.program) (hsource : t.source = s.source)
    (hcursor : t.cursor = s.cursor) : Inv t := by
  obtain ⟨cursor, launched, fresh, stopped⟩ := h
  rw [← hsource, ← hcursor] at cursor
  rw [← hphase, ← hprogram] at launched
  rw [← hphase, ← hprogram, ← hsource, ← hcursor] at fresh
  rw [← hphase, ← hsource, ← hcursor] at stopped
  exact ⟨cursor, launched, fresh, stopped⟩

/-- A program under way, or one that has ended, may stand anywhere that the cursor may. -/
theorem inv_of_launched (hphase : s.phase = .running ∨ s.phase = .terminated)
    (hprogram : s.program.isSome)
    (hcursor : ∀ line, s.cursor.line = some line → line < s.source.length ∨ line = 0) : Inv s where
  cursor := hcursor
  launched _ := hprogram
  fresh := by rcases hphase with h | h <;> rw [h] <;> rintro (h | h) <;> cases h
  stopped := by rcases hphase with h | h <;> rw [h] <;> rintro _ h <;> cases h

theorem Inv.program_of_live (h : Inv s) (hlive : s.isLive = true) : s.program.isSome := by
  apply h.launched
  unfold isLive at hlive
  split at hlive
  · exact .inl ‹_›
  · exact .inr (.inl ⟨_, ‹_›⟩)
  · cases hlive

/-! ## Coming to a line -/

theorem inv_standing (hphase : s.phase = .running) (hprogram : s.program.isSome) {line : Nat}
    (hline : line < s.source.length ∨ line = 0) : Inv (s.standing line) := by
  refine inv_of_launched (.inl hphase) hprogram fun l hl => ?_
  cases hl
  exact hline

theorem inv_stopped (hprogram : s.program.isSome) {line : Nat} {reason : StopReason}
    (h : Explains s.source line reason) :
    Inv { s.standing line with phase := .stopped reason } where
  cursor l hl := by
    cases hl
    exact h.cursor
  launched _ := hprogram
  fresh := by rintro (h | h) <;> cases h
  stopped r hr := by
    cases hr
    exact ⟨line, rfl, h⟩

theorem inv_stopAt {line : Nat} {reason : StopReason} {hit : Option Nat}
    {verified : Option Breakpoint} {after : Session} {m : Message}
    (hmem : .write after m ∈ s.stopAt req line reason hit verified) (hphase : s.phase = .running)
    (hprogram : s.program.isSome) (h : Explains s.source line reason) : Inv after := by
  rcases write_mem_stopAt hmem with rfl | rfl
  · exact inv_standing hphase hprogram h.cursor
  · exact inv_stopped hprogram h

/-! ## Running on -/

/-- A scan stops only where there is a reason. -/
theorem explains_of_scan {direction : Direction} {p : Probe} {stop : Stop}
    (h : s.scan direction p = some stop) : Explains s.source stop.line stop.halt.reason := by
  have hprobe := probe_of_scan h
  generalize stop.halt = halt at hprobe
  generalize stop.table = table at hprobe
  cases probe_cases hprobe with
  | step line_eq visible => exact ⟨_, line_eq, visible⟩
  | breakpoint line_eq _ => exact Source.lt_length_of_get? line_eq
  | exception line_eq _ raises => exact ⟨_, line_eq, raises⟩

theorem inv_resume (hprogram : s.program.isSome)
    (hcursor : ∀ line, s.cursor.line = some line → line < s.source.length ∨ line = 0)
    {direction : Direction} {p : Probe} {after : Session} {m : Message}
    (hmem : .write after m ∈ s.resume req direction p) : Inv after := by
  generalize hacts : s.resume req direction p = acts at hmem
  cases hacts ▸ resume_cases s req direction p with
  | halted scans =>
    have hexplains := explains_of_scan scans
    exact inv_stopAt hmem rfl hprogram hexplains
  | ended scans =>
    simp only [succeed, terminate, List.mem_cons, Act.write.injEq, List.not_mem_nil, or_false] at hmem
    rcases hmem with ⟨rfl, -⟩ | ⟨rfl, -⟩
    · exact inv_of_launched (.inl rfl) hprogram hcursor
    · exact inv_of_launched (.inr rfl) hprogram hcursor
  | rewound scans => exact inv_stopAt hmem rfl hprogram (explains_entry _)

theorem inv_start_loaded (s : Session) {program : Files.Path} {source : Source} {args : LaunchArguments}
    {after : Session} {m : Message}
    (hmem : .write after m ∈ (s.loaded program source).start req args) : Inv after := by
  unfold start at hmem
  split at hmem
  · exact inv_stopAt hmem rfl rfl (explains_entry _)
  · exact inv_resume (s := s.loaded program source) rfl (fun line hline => by cases hline) hmem

/-! ## Plans -/

theorem inv_initializeAdapter (h : Inv s) {args : InitializeArguments} {after : Session} {m : Message}
    (hmem : .write after m ∈ s.initializeAdapter req args) : Inv after := by
  simp only [initializeAdapter, succeed, List.mem_cons, Act.write.injEq, List.not_mem_nil, or_false]
    at hmem
  have hafter : after = { s with
      base := ⟨args.linesStartAtOne⟩
      phase := if s.phase = .uninitialized then .initialized else s.phase } := by
    rcases hmem with ⟨rfl, -⟩ | ⟨rfl, -⟩ <;> rfl
  by_cases hphase : s.phase = .uninitialized
  · rw [if_pos hphase] at hafter
    subst hafter
    exact {
      cursor := h.cursor
      launched := by rintro (h | ⟨_, h⟩ | h) <;> cases h
      fresh := fun _ => h.fresh (.inl hphase)
      stopped := fun _ h => by cases h }
  · rw [if_neg hphase] at hafter
    subst hafter
    exact h.of_eq rfl rfl rfl rfl

theorem inv_terminate (h : Inv s) {after : Session} {m : Message}
    (hmem : .write after m ∈ s.succeed req .nothing :: if s.isLive then [s.terminate] else []) :
    Inv after := by
  rcases List.mem_cons.1 hmem with hmem | hmem
  · cases hmem
    exact h
  · split at hmem
    · rename_i hlive
      cases List.mem_singleton.1 hmem
      exact inv_of_launched (.inr rfl) (h.program_of_live hlive) h.cursor
    · cases hmem

theorem inv_disconnected (h : Inv s) (link : Link) : Inv { s with phase := .disconnected, link } where
  cursor := h.cursor
  launched := by rintro (h | ⟨_, h⟩ | h) <;> cases h
  fresh := by rintro (h | h) <;> cases h
  stopped _ h := by cases h

/-- **Every session that a plan passes through keeps the invariant**, so a failed write cannot break
it. -/
theorem inv_of_plan (h : Inv s) (hplan : s.plan files req = .ok acts) {after : Session} {m : Message}
    (hmem : .write after m ∈ acts) : Inv after := by
  cases plan_cases hplan with
  | answer handles body =>
    cases List.mem_singleton.1 hmem
    exact h.of_eq rfl rfl rfl rfl
  | setBreakpoints key source lines =>
    cases List.mem_singleton.1 hmem
    exact h.of_eq rfl rfl rfl rfl
  | initializeAdapter args => exact inv_initializeAdapter h hmem
  | launch args _ _ => exact s.inv_start_loaded hmem
  | launchTraced args _ _ =>
    rcases List.mem_cons.1 hmem with hmem | hmem
    · cases hmem
    · exact s.inv_start_loaded hmem
  | resume direction p live => exact inv_resume (h.program_of_live live) h.cursor hmem
  | terminate => exact inv_terminate h hmem
  | disconnect link =>
    cases List.mem_singleton.1 hmem
    exact inv_disconnected h link

/-! ## The end of a plan -/

theorem settled_resume (s t : Session) (req : Request) (direction : Direction) (p : Probe) :
    (finalSession t (s.resume req direction p)).phase ≠ .running := by
  generalize hacts : s.resume req direction p = acts
  cases hacts ▸ resume_cases s req direction p with
  | halted _ => rw [finalSession_stopAt]; simp
  | ended _ => simp [succeed, terminate, finalSession]
  | rewound _ => rw [finalSession_stopAt]; simp

theorem settled_start (s t : Session) (req : Request) (args : LaunchArguments) :
    (finalSession t (s.start req args)).phase ≠ .running := by
  unfold start
  split
  · rw [finalSession_stopAt]; simp
  · exact settled_resume s t req _ _

/-- **A plan that is carried out to its end leaves no program running.** -/
theorem settled_of_plan (h : s.phase ≠ .running) (hplan : s.plan files req = .ok acts) :
    (finalSession s acts).phase ≠ .running := by
  cases plan_cases hplan with
  | answer handles body => exact h
  | setBreakpoints key source lines => exact h
  | initializeAdapter args =>
    show (if s.phase = .uninitialized then Phase.initialized else s.phase) ≠ .running
    split
    · simp
    · exact h
  | launch args _ _ => exact settled_start _ _ _ _
  | launchTraced args _ _ => exact settled_start _ _ _ _
  | resume direction p _ => exact settled_resume _ _ _ _ _
  | terminate =>
    split
    · simp [succeed, terminate, finalSession]
    · exact h
  | disconnect link => simp [succeed, finalSession]

end Session

namespace Run

/-! ## Turns -/

/-- No write has failed so far. -/
def Clean (run : Run) : Prop := ∀ seq m, .sent seq m false ∉ run.entries

/-- The invariant of a run: that of its session, and a settled program while no write has failed. -/
structure Inv (run : Run) : Prop where
  session : run.session.Inv
  settled : run.Clean → run.session.phase ≠ .running

theorem Clean.of_append {run next : Run} {more : List Entry} (h : next.Clean)
    (hentries : next.entries = run.entries ++ more) : run.Clean := by
  intro seq m hmem
  refine h seq m ?_
  rw [hentries]
  exact List.mem_append_left _ hmem

theorem not_clean_missed (run : Run) (after : Session) (m : Message) :
    ¬ (run.missed after m).Clean := fun h =>
  h run.nextSeq m (by simp [missed])

theorem inv_report {faults : Faults} {run : Run} (h : run.Inv) (events : List Link.Event) :
    (run.perform faults (reportActs run.session events)).1.Inv := by
  generalize hresult : run.perform faults (reportActs run.session events) = result
  cases hresult ▸ perform_cases faults run (reportActs run.session events) with
  | through _ =>
    obtain ⟨handles, hfinal⟩ := finalSession_reportActs run.session events
    refine ⟨?_, fun hclean => ?_⟩
    · simp only [performed, hfinal]
      exact h.session.of_eq rfl rfl rfl rfl
    · simp only [performed, hfinal]
      exact h.settled (hclean.of_append rfl)
  | @broken before rest after m failure split _ _ =>
    have hmem : .write after m ∈ reportActs run.session events := by rw [split]; simp
    obtain ⟨⟨handles, rfl⟩, -⟩ := write_mem_reportActs hmem
    exact ⟨h.session.of_eq rfl rfl rfl rfl, fun hclean => absurd hclean (not_clean_missed _ _ _)⟩

theorem inv_fail {faults : Faults} {run : Run} (h : run.Inv) (req : Request) (reason : String) :
    (run.fail faults req reason).1.Inv := by
  rw [fail_run]
  exact ⟨h.session, fun hclean => h.settled (hclean.of_append rfl)⟩

theorem inv_handle {faults : Faults} {run : Run} (h : run.Inv) (files : Files.View) (req : Request) :
    (run.handle faults files req).1.Inv := by
  generalize hresult : run.handle faults files req = result
  cases hresult ▸ handle_cases faults run files req with
  | refused _ => exact inv_fail h req _
  | panicked _ => exact h
  | done plans _ =>
    refine ⟨?_, fun hclean => ?_⟩
    · exact finalSession_induction h.session fun _ _ => Session.inv_of_plan h.session plans
    · exact Session.settled_of_plan (h.settled (hclean.of_append rfl)) plans
  | broken plans _ _ =>
    -- The plan stops short, but not without a trace of the write that failed.
    refine inv_fail ⟨?_, fun hclean => absurd hclean (not_clean_missed _ _ _)⟩ req _
    exact Session.inv_of_plan h.session plans (List.mem_append_right _ (.head _))

/-- **One turn keeps the invariant.** -/
theorem inv_serve {faults : Faults} {run : Run} (h : run.Inv) (turn : Turn) :
    (run.serve faults turn).1.Inv := by
  refine serve_induction (P := Run.Inv) ?_ ?_ ?_ ?_ h turn
  · exact fun run queue h => ⟨h.session, fun hclean => h.settled hclean⟩
  · exact fun run message h => ⟨h.session, fun hclean => h.settled (hclean.of_append rfl)⟩
  · exact fun run events h => inv_report h events
  · exact fun run files req h => inv_handle h files req

end Run

/-- **The session invariant.** In every state that a fresh session comes to, by any messages, files and
events and whichever writes fail: the cursor is unset, on a line of the source or on the first line; a
program is set if one runs, has stopped or has ended, and there is no program, no source and no cursor
before the first launch; a stop on entry is on the first line, one by a step is on a line with visible
text, one by an exception is on a line that mentions it, and one by a breakpoint is on a line of the
source. If no write has failed so far, no program is left running between two requests. -/
theorem session_invariant (link : Link) (queue : List Link.Event) (faults : Faults)
    (turns : List Turn) :
    let run := (Run.serveAll faults { Run.start link with queue } turns).1
    let s := run.session
    (s.cursor.line = none ∨ (∃ line < s.source.length, s.cursor.line = some line) ∨
        s.cursor.line = some 0) ∧
      (s.phase = .running ∨ (∃ reason, s.phase = .stopped reason) ∨ s.phase = .terminated →
        s.program.isSome) ∧
      (s.phase = .uninitialized ∨ s.phase = .initialized →
        s.program = none ∧ s.source = .empty ∧ s.cursor.line = none) ∧
      (s.phase = .stopped .entry → s.cursor.line = some 0) ∧
      (s.phase = .stopped .step → ∃ line text, s.cursor.line = some line ∧
        s.source.get? line = some text ∧ ∃ c ∈ text, Text.isBlank c = false) ∧
      (s.phase = .stopped .exception → ∃ line text, s.cursor.line = some line ∧
        s.source.get? line = some text ∧ "exception".toList <:+: text) ∧
      (s.phase = .stopped .breakpoint → ∃ line < s.source.length, s.cursor.line = some line) ∧
      ((∀ seq m, .sent seq m false ∉ run.entries) → s.phase ≠ .running) := by
  intro run s
  have h : run.Inv := Run.serveAll_induction (P := Run.Inv) (fun _ turn h => Run.inv_serve h turn)
    ⟨Session.inv_start link, fun _ hphase => by cases hphase⟩ turns
  refine ⟨?_, h.session.launched, h.session.fresh, ?_, ?_, ?_, ?_, h.settled⟩
  · cases hline : s.cursor.line with
    | none => exact .inl rfl
    | some line =>
      rcases h.session.cursor line hline with hlt | rfl
      · exact .inr (.inl ⟨line, hlt, rfl⟩)
      · exact .inr (.inr rfl)
  · intro hphase
    obtain ⟨line, hline, rfl⟩ := h.session.stopped _ hphase
    exact hline
  · intro hphase
    obtain ⟨line, hline, text, htext, hvisible⟩ := h.session.stopped _ hphase
    exact ⟨line, text, hline, htext, hvisible⟩
  · intro hphase
    obtain ⟨line, hline, text, htext, hraises⟩ := h.session.stopped _ hphase
    exact ⟨line, text, hline, htext, hraises⟩
  · intro hphase
    obtain ⟨line, hline, hlt⟩ := h.session.stopped _ hphase
    exact ⟨line, hlt, hline⟩

end TabTools.Debug
