import TabTools.Proofs.Debug.Breakpoint
import TabTools.Proofs.Debug.Run
import TabTools.Proofs.Debug.Scan

/-!
# Reached breakpoints

**Plans and breakpoints** (`touch_plan`). A plan sets the breakpoints of a source, or it stops the
program by hitting one, or it has nothing to do with breakpoints.

**Verification** (`reached_verified_iff`). A program that stops at a breakpoint verifies the first
breakpoint of its line and reports it, if it was not verified before. All other breakpoints of the
line stay as they are. So a stop verifies all of them exactly when the others were verified already,
and two breakpoints on one lazy line are not both verified (`second_lazy_breakpoint_unverified`).
-/

namespace TabTools.Debug

/-- The breakpoint whose change a message reports. -/
def Message.changed? : Message → Option Breakpoint
  | .event (.breakpointChanged bp) => some bp
  | _ => none

theorem Message.changed?_eq_some_iff {m : Message} {bp : Breakpoint} :
    m.changed? = some bp ↔ m = .event (.breakpointChanged bp) := by
  cases m with
  | event e => cases e <;> simp [changed?]
  | success | failure => simp [changed?]

/-- A message that reports a change shows the breakpoint. -/
theorem Message.changed?_eq_none {m : Message} (h : m.shown = []) : m.changed? = none := by
  cases hchanged : m.changed? with
  | none => rfl
  | some bp =>
    rw [changed?_eq_some_iff.1 hchanged] at h
    cases h

/-- Whether a message says that the program stopped at a breakpoint. -/
def Message.breaks : Message → Bool
  | .event (.stopped .breakpoint _) => true
  | _ => false

/-- Whether a message tells nothing of breakpoints. -/
def Message.isQuiet (m : Message) : Bool := m.shown.isEmpty && !m.breaks

theorem Message.isQuiet_iff {m : Message} : m.isQuiet = true ↔ m.shown = [] ∧ m.breaks = false := by
  simp [isQuiet]

/-- The changes of breakpoints that delivered messages report, in order. -/
def changes (entries : List Entry) : List Breakpoint :=
  entries.filterMap fun
    | .sent _ m true => m.changed?
    | _ => none

theorem changes_recorded (seq : Nat) (acts : List Act) :
    changes (recorded seq acts) = (messages acts).filterMap Message.changed? :=
  filterMap_recorded (fun _ _ => rfl) rfl seq acts

namespace Session

/-! ## Plans and breakpoints -/

/-- Messages that tell nothing of breakpoints. -/
def Quiet (list : List Message) : Prop := list.all Message.isQuiet = true

theorem Quiet.of_mem {list : List Message} (h : Quiet list) {m : Message} (hm : m ∈ list) :
    m.shown = [] ∧ m.breaks = false :=
  Message.isQuiet_iff.1 (List.all_eq_true.1 h m hm)

/-- A hit of a breakpoint of the program by a plan that ends in the session `last` and writes these
messages. -/
structure Breaks (s last : Session) (list : List Message) (path : Files.Path) (line : Nat)
    (hit : Hit) : Prop where
  program : last.program = some path
  cursor : last.cursor = .onLine line
  base : last.base = s.base
  hits : s.breakpoints.hit (Files.components path) (s.base.toClient line) =
    some (hit, last.breakpoints)
  reports : ∃ early, list = early ++
    .event (.stopped .breakpoint (some hit.id)) ::
      (hit.verifiedNow.toList.map fun bp => .event (.breakpointChanged bp)) ∧ Quiet early

/-- What a plan that ends in the session `last` and writes these messages has to do with
breakpoints. -/
inductive Touch (s last : Session) : List Message → Prop
  | nothing {list : List Message} (quiet : Quiet list) (kept : last.breakpoints = s.breakpoints) :
      Touch s last list
  | set {request : Answered} {key : SourceKey} {source : Source} {lines : List Int}
      (table : last.breakpoints = (s.breakpoints.set key source lines s.base).2) :
      Touch s last
        [.success request (.breakpoints (s.breakpoints.set key source lines s.base).1)]
  | hit {list : List Message} {path : Files.Path} {line : Nat} {hit : Hit}
      (breaks : Breaks s last list path line hit) : Touch s last list

theorem touch_stopAt {s t : Session} (req : Request) (line : Nat) {reason : StopReason}
    (hreason : reason ≠ .breakpoint) (htable : t.breakpoints = s.breakpoints) :
    Touch s (finalSession s (t.stopAt req line reason none none))
      (messages (t.stopAt req line reason none none)) := by
  refine .nothing ?_ ?_
  · cases reason with
    | breakpoint => exact absurd rfl hreason
    | _ => rfl
  · rw [finalSession_stopAt]
    exact htable

/-- A session `t` that runs on with the breakpoints of `s`. -/
theorem touch_resume {s t : Session} (req : Request) (direction : Direction) (p : Probe)
    (hbase : t.base = s.base) (htable : t.breakpoints = s.breakpoints) :
    Touch s (finalSession s (t.resume req direction p)) (messages (t.resume req direction p)) := by
  generalize hacts : t.resume req direction p = acts
  cases hacts ▸ resume_cases t req direction p with
  | @halted _ _ stop scans =>
    have hprobe := probe_of_scan scans
    obtain ⟨line, halt, table⟩ := stop
    cases probe_cases hprobe with
    | step => exact touch_stopAt req line (by simp [Halt.reason]) htable
    | exception => exact touch_stopAt req line (by simp [Halt.reason]) htable
    | @breakpoint text hit _ _ hits =>
      obtain ⟨path, hpath, hhit⟩ := Option.bind_eq_some_iff.1 hits
      rw [messages_stopAt, finalSession_stopAt]
      exact .hit {
        program := hpath
        cursor := rfl
        base := hbase
        hits := by rw [← htable, ← hbase]; exact hhit
        reports := ⟨_, rfl, rfl⟩ }
  | ended scans => exact .nothing rfl htable
  | rewound scans => exact touch_stopAt req 0 (by simp) htable

theorem touch_start (s : Session) (program : Files.Path) (source : Source) (req : Request)
    (args : LaunchArguments) :
    Touch s (finalSession s ((s.loaded program source).start req args))
      (messages ((s.loaded program source).start req args)) := by
  unfold start
  split
  · exact touch_stopAt req 0 (by simp) rfl
  · exact touch_resume req .forward .events rfl rfl

/-- **What plans have to do with breakpoints.** -/
theorem touch_plan {s : Session} {files : Files.View} {req : Request} {acts : List Act}
    (h : s.plan files req = .ok acts) : Touch s (finalSession s acts) (messages acts) := by
  cases plan_cases h with
  | answer handles body plain =>
    exact .nothing (List.all_eq_true.2 fun m hm => by
      rw [List.mem_singleton.1 hm]
      exact Message.isQuiet_iff.2 ⟨plain, rfl⟩) rfl
  | setBreakpoints key source lines => exact .set rfl
  | initializeAdapter args => exact .nothing rfl rfl
  | launch args _ _ => exact touch_start s _ _ req args
  | launchTraced args _ _ => exact touch_start s _ _ req args
  | resume direction p _ => exact touch_resume req direction p rfl rfl
  | terminate =>
    split
    · exact .nothing rfl rfl
    · exact .nothing rfl rfl
  | disconnect link => exact .nothing rfl rfl

theorem touch_reaction (s : Session) (files : Files.View) (req : Request) :
    Touch s (finalSession s (s.reaction files req)) (messages (s.reaction files req)) := by
  unfold reaction
  cases hplan : s.plan files req with
  | ok acts => exact touch_plan hplan
  | error obstacle => cases hindered_of_plan hplan <;> exact .nothing rfl rfl

/-! ## Stops at breakpoints -/

/-- The breakpoints of a program on a client line. -/
def breakpointsOn (s : Session) (path : Files.Path) (client : Int) : List Breakpoint :=
  (s.breakpoints.get (Files.components path)).filter fun bp => bp.line == client

/-- A reaction that says so stops at a breakpoint. -/
theorem breaks_of_reaction {s : Session} {files : Files.View} {req : Request} {m : Message}
    (hmem : m ∈ messages (s.reaction files req)) (hbreaks : m.breaks = true) :
    ∃ path line hit, Breaks s (finalSession s (s.reaction files req))
      (messages (s.reaction files req)) path line hit := by
  have htouch := touch_reaction s files req
  generalize finalSession s (s.reaction files req) = last at htouch ⊢
  generalize messages (s.reaction files req) = list at htouch hmem ⊢
  cases htouch with
  | nothing quiet _ =>
    rw [(quiet.of_mem hmem).2] at hbreaks
    cases hbreaks
  | set _ =>
    rw [List.mem_singleton.1 hmem] at hbreaks
    cases hbreaks
  | hit breaks => exact ⟨_, _, _, breaks⟩

theorem filterMap_changed?_quiet {list : List Message} (h : Quiet list) :
    list.filterMap Message.changed? = [] :=
  List.filterMap_eq_nil_iff.2 fun _ hm => Message.changed?_eq_none (h.of_mem hm).1

theorem Breaks.changes_eq {s last : Session} {list : List Message} {path : Files.Path} {line : Nat}
    {hit : Hit} (h : Breaks s last list path line hit) :
    list.filterMap Message.changed? = hit.verifiedNow.toList := by
  obtain ⟨early, rfl, hearly⟩ := h.reports
  rw [List.filterMap_append, filterMap_changed?_quiet hearly]
  cases hit.verifiedNow <;> rfl

/-- **The first breakpoint of the line is verified, the others stay.** -/
theorem Breaks.breakpointsOn_eq {s last : Session} {list : List Message} {path : Files.Path}
    {line : Nat} {hit : Hit} (h : Breaks s last list path line hit) :
    ∃ first others, s.breakpointsOn path (s.base.toClient line) = first :: others ∧
      last.breakpointsOn path (s.base.toClient line) = { first with verified := true } :: others ∧
      hit.verifiedNow = if first.verified then none else some { first with verified := true } := by
  obtain ⟨early, bp, late, struck⟩ := BreakpointTable.exists_struck h.hits
  have hearly : early.filter (fun other => other.line == s.base.toClient line) = [] := by
    simpa using struck.first
  refine ⟨bp, late.filter fun other => other.line == s.base.toClient line, ?_, ?_,
    struck.verifiedNow⟩
  · rw [breakpointsOn, struck.listed, List.filter_append, hearly, List.filter_cons]
    simp [struck.here]
  · rw [breakpointsOn, struck.relisted, List.filter_append, hearly, List.filter_cons]
    simp [struck.here]

end Session

/-- **When a stop verifies all breakpoints of its line.** A request that is handled without a
failing write and stops the program at a breakpoint verifies the first breakpoint of the program on
that line and reports just this change, if it is one; the others on the line stay as they are. So
all of them are verified then, and all that were not are reported, exactly when the others were
verified before. -/
theorem reached_verified_iff (run : Run) (faults : Faults) (files : Files.View) (req : Request)
    (delivered : ∀ seq m, .sent seq m false ∉
      (run.handle faults files req).1.entries.drop run.entries.length)
    (stops : ∃ seq hit, .sent seq (.event (.stopped .breakpoint hit)) true ∈
      (run.handle faults files req).1.entries.drop run.entries.length) :
    let after := (run.handle faults files req).1
    let reported := changes (after.entries.drop run.entries.length)
    ∃ path line, after.session.program = some path ∧ after.session.cursor.line = some line ∧
      let client := after.session.base.toClient line
      ∃ first others, run.session.breakpointsOn path client = first :: others ∧
        after.session.breakpointsOn path client = { first with verified := true } :: others ∧
        reported = (if first.verified then [] else [{ first with verified := true }]) ∧
        (((∀ bp ∈ after.session.breakpointsOn path client, bp.verified = true) ∧
            ∀ bp ∈ run.session.breakpointsOn path client, bp.verified = false →
              { bp with verified := true } ∈ reported) ↔
          ∀ bp ∈ others, bp.verified = true) := by
  intro after reported
  have hafter : after = run.performed (run.session.reaction files req) :=
    Run.run_handle_of_delivered delivered
  have hentries : after.entries.drop run.entries.length =
      recorded run.nextSeq (run.session.reaction files req) := by
    rw [hafter]
    exact List.drop_left
  obtain ⟨seq, hit, hstops⟩ := stops
  obtain ⟨path, line, found, hbreaks⟩ : ∃ path line found,
      Session.Breaks run.session after.session (messages (run.session.reaction files req))
        path line found := by
    rw [hafter]
    refine Session.breaks_of_reaction (m := .event (.stopped .breakpoint hit)) ?_ rfl
    rw [show (run.handle faults files req).1 = after from rfl, hentries] at hstops
    exact (mem_messages_iff run.nextSeq).2 ⟨seq, hstops⟩
  obtain ⟨first, others, hbefore, hthen, hverified⟩ := hbreaks.breakpointsOn_eq
  rw [← hbreaks.base] at hbefore hthen
  have hreported : reported =
      if first.verified then [] else [{ first with verified := true }] := by
    show changes (after.entries.drop run.entries.length) = _
    rw [hentries, changes_recorded, hbreaks.changes_eq, hverified]
    cases first.verified <;> rfl
  refine ⟨path, line, hbreaks.program, by rw [hbreaks.cursor]; rfl, first, others, hbefore, hthen,
    hreported, ?_⟩
  rw [hbefore, hthen, hreported]
  constructor
  · rintro ⟨hall, -⟩ bp hbp
    exact hall bp (List.mem_cons_of_mem _ hbp)
  · intro hothers
    refine ⟨fun bp hbp => ?_, fun bp hbp hlazy => ?_⟩
    · rcases List.mem_cons.1 hbp with rfl | hbp
      · rfl
      · exact hothers bp hbp
    · rcases List.mem_cons.1 hbp with rfl | hbp
      · rw [hlazy]
        exact .head _
      · rw [hothers bp hbp] at hlazy
        cases hlazy

/-- A program stops at the only breakpoint of a lazy line; it is verified and reported. -/
theorem lazy_breakpoint_verified :
    let files : Files.View :=
      { read := fun _ => .ok (Text.encode "start\n\nlazy\nend".toList), canonical := fun _ => none }
    let req : Request := ⟨2, "request", "launch", .obj [("program", .str "p.tab")]⟩
    let run : Run :=
      { session := { breakpoints := ⟨1001, [(Files.components "p.tab", [⟨1000, false, 3⟩])]⟩ }
        nextSeq := 2 }
    let after := (run.handle Faults.none files req).1
    let written := after.entries.drop run.entries.length
    (∃ seq hit, .sent seq (.event (.stopped .breakpoint hit)) true ∈ written) ∧
      changes written = [⟨1000, true, 3⟩] ∧
      ∃ path line, after.session.program = some path ∧ after.session.cursor.line = some line ∧
        (∀ bp ∈ after.session.breakpointsOn path (after.session.base.toClient line),
          bp.verified = true) ∧
        ∀ bp ∈ run.session.breakpointsOn path (after.session.base.toClient line),
          bp.verified = false → { bp with verified := true } ∈ changes written := by
  intro files req run
  dsimp only
  have hwritten : (run.handle Faults.none files req).1.entries.drop run.entries.length =
      recorded run.nextSeq (run.session.reaction files req) := by
    rw [Run.run_handle_none]
    exact List.drop_left
  have hstops : ∃ seq hit, .sent seq (.event (.stopped .breakpoint hit)) true ∈
      (run.handle Faults.none files req).1.entries.drop run.entries.length := by
    have hmem : .event (.stopped .breakpoint (some 1000)) ∈
        messages (run.session.reaction files req) := by decide +kernel
    obtain ⟨seq, hseq⟩ := (mem_messages_iff run.nextSeq).1 hmem
    rw [hwritten]
    exact ⟨seq, some 1000, hseq⟩
  refine ⟨hstops, by decide +kernel, ?_⟩
  obtain ⟨path, line, hprogram, hcursor, first, others, hbefore, -, -, hiff⟩ :=
    reached_verified_iff run Faults.none files req (run.delivered_none files req) hstops
  have hlaunched : (run.handle Faults.none files req).1.session.program =
      some (Files.Path.ofText "p.tab") := by decide +kernel
  obtain rfl : path = Files.Path.ofText "p.tab" := Option.some.inj (hprogram.symm.trans hlaunched)
  have hothers : others = [] := by
    have hlength (client : Int) : (run.session.breakpointsOn "p.tab" client).length ≤ 1 :=
      (List.length_filter_le _ _).trans (by decide +kernel)
    have hshort := hlength ((run.handle Faults.none files req).1.session.base.toClient line)
    rw [hbefore] at hshort
    simpa using hshort
  exact ⟨_, line, hprogram, hcursor, hiff.2 (by simp [hothers])⟩

/-- Breakpoints are asked for on a lazy line and on the blank line above it, from where the
breakpoint moves down. Running to that line verifies and reports only the first of the two. -/
theorem second_lazy_breakpoint_unverified :
    let files : Files.View :=
      { read := fun _ => .ok (Text.encode "start\n\nlazy\nend".toList), canonical := fun _ => none }
    let request (command : String) (arguments : List (String × Json)) : Turn :=
      { inbound := .ok (.obj [("arguments", .obj arguments), ("command", .str command),
          ("seq", .int 1), ("type", .str "request")])
        files }
    let setup := request "setBreakpoints"
      [("lines", .arr [.int 2, .int 3]), ("source", .obj [("path", .str "p.tab")])]
    let launch := request "launch" [("program", .str "p.tab")]
    let run := (Run.serveAll Faults.none (Run.start .absent) [setup, launch]).1
    run.session.phase = .stopped .breakpoint ∧ run.session.program = some "p.tab" ∧
      run.session.cursor.line = some 2 ∧ run.session.base.toClient 2 = 3 ∧
      run.session.breakpointsOn "p.tab" 3 = [⟨1000, true, 3⟩, ⟨1001, false, 3⟩] ∧
      changes run.entries = [⟨1000, true, 3⟩] ∧
      ¬ ∀ bp ∈ run.session.breakpointsOn "p.tab" 3, bp.verified = true := by
  decide +kernel

end TabTools.Debug
