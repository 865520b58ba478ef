import Mathlib.Order.Bounds.Basic
import TabTools.Proofs.Debug.Breakpoint
import TabTools.Proofs.Debug.Run
import TabTools.Proofs.Debug.Scan

/-!
# Where a program halts

**Lines ahead** (`Session.ahead`). The lines beyond the cursor at which a program halts: for a
continue those with a breakpoint of the program or an exception, for a step those on which something
is visible. A scan probes the lines on its way one by one, and a probe could change the breakpoints;
but it only does so where it halts, so the scan comes to the nearest line ahead with everything as
it was (`scan_cases`).

**Theorem (`runs_to_nearest`).** Every request to run on takes the program to the nearest line ahead
and stops it there. If there is none, running forwards ends the program where it is, and running
backwards takes it to the first line. The first breakpoint of the line, if it has any, is verified,
and nothing else of the session changes.
-/

namespace TabTools.Debug

/-! ## Directions -/

/-- Whether a scan in this direction visits one line before another. -/
def Direction.Before : Direction → Nat → Nat → Prop
  | .forward, a, b => a < b
  | .backward, a, b => b < a

/-- The line of a set that a scan in this direction comes to first. -/
def Direction.Nearest : Direction → Set Nat → Nat → Prop
  | .forward => IsLeast
  | .backward => IsGreatest

theorem Direction.Nearest.mem {direction : Direction} {lines : Set Nat} {line : Nat}
    (h : direction.Nearest lines line) : line ∈ lines := by
  cases direction with
  | forward => exact h.1
  | backward => exact h.1

/-- In lines that stand in visiting order, the first with some property is the nearest. -/
theorem Direction.nearest_of_filter_cons {direction : Direction} {lines more : List Nat}
    {P : Nat → Bool} {line : Nat} (sorted : lines.Pairwise direction.Before)
    (h : lines.filter P = line :: more) :
    direction.Nearest {other | other ∈ lines ∧ P other = true} line := by
  have hmem {other : Nat} : other ∈ lines ∧ P other = true ↔ other = line ∨ other ∈ more := by
    rw [← List.mem_filter, h, List.mem_cons]
  have hfirst : ∀ other ∈ more, direction.Before line other :=
    (List.pairwise_cons.1 (h ▸ sorted.filter P)).1
  cases direction with
  | forward =>
    refine ⟨hmem.2 (.inl rfl), fun other hother => ?_⟩
    rcases hmem.1 hother with rfl | hmore
    · exact Nat.le_refl _
    · exact Nat.le_of_lt (hfirst other hmore)
  | backward =>
    refine ⟨hmem.2 (.inl rfl), fun other hother => ?_⟩
    rcases hmem.1 hother with rfl | hmore
    · exact Nat.le_refl _
    · exact Nat.le_of_lt (hfirst other hmore)

namespace Cursor

variable {cursor : Cursor} {direction : Direction} {length line : Nat}

/-- Whether a line lies beyond the cursor. An unset cursor stands before the first line. -/
def Beyond (cursor : Cursor) : Direction → Nat → Prop
  | .forward, line => ∀ current, cursor.line = some current → current < line
  | .backward, line => ∃ current, cursor.line = some current ∧ line < current

theorem mem_candidates_iff :
    line ∈ cursor.candidates direction length ↔ line < length ∧ cursor.Beyond direction line := by
  cases direction with
  | forward =>
    cases hline : cursor.line with
    | none => simp [candidates, Beyond, hline]
    | some current =>
      simp only [candidates, Beyond, hline, List.mem_range'_1, Option.some.injEq, forall_eq']
      omega
  | backward =>
    cases hline : cursor.line with
    | none => simp [candidates, Beyond, hline]
    | some current => simp [candidates, Beyond, hline, and_comm]

theorem pairwise_candidates (cursor : Cursor) (direction : Direction) (length : Nat) :
    (cursor.candidates direction length).Pairwise direction.Before := by
  cases direction with
  | forward => exact List.pairwise_lt_range'
  | backward => exact List.pairwise_reverse.2 List.pairwise_lt_range

end Cursor

namespace Session

variable {s : Session} {direction : Direction} {p : Probe} {line : Nat}

/-! ## Lines ahead -/

/-- The breakpoints of the program. -/
def ownBreakpoints (s : Session) : List Breakpoint :=
  match s.program with
  | none => []
  | some path => s.breakpoints.get (Files.components path)

/-- Whether a breakpoint of the program is on a line. -/
def Marked (s : Session) (line : Nat) : Prop :=
  ∃ bp ∈ s.ownBreakpoints, bp.line = s.base.toClient line

instance (s : Session) (line : Nat) : Decidable (s.Marked line) :=
  inferInstanceAs (Decidable (∃ bp ∈ s.ownBreakpoints, bp.line = s.base.toClient line))

/-- Whether a line halts the program: a continue halts at breakpoints and exceptions, a step
wherever something is visible. -/
def Halts (s : Session) : Probe → Nat → Prop
  | .events, line =>
    s.Marked line ∨ ∃ text, s.source.get? line = some text ∧ exceptionMarker <:+: text
  | .steps, line => ∃ text, s.source.get? line = some text ∧ ∃ c ∈ text, Text.isBlank c = false

/-- The lines beyond the cursor that halt the program. -/
def ahead (s : Session) (direction : Direction) (p : Probe) : Set Nat :=
  {line | line < s.source.length ∧ s.cursor.Beyond direction line ∧ s.Halts p line}

theorem hitAt_eq_none_iff : s.hitAt line = none ↔ ¬ s.Marked line := by
  unfold hitAt Marked ownBreakpoints
  cases s.program with
  | none => simp
  | some path =>
    unfold BreakpointTable.hit
    simp only [Option.bind_some]
    split
    · rename_i hfind
      simpa using hfind
    · rename_i bp hfind
      simp only [reduceCtorEq, false_iff, not_not]
      exact ⟨bp, List.mem_of_find?_eq_some hfind, by simpa using List.find?_some hfind⟩

theorem haltsAt_iff : s.haltsAt p line = true ↔ line < s.source.length ∧ s.Halts p line := by
  cases htext : s.source.get? line with
  | none =>
    have hend : ¬ line < s.source.length := Nat.not_lt.2 (List.getElem?_eq_none_iff.1 htext)
    simp [haltsAt, probe, htext, hend]
  | some text =>
    have hlt := Source.lt_length_of_get? htext
    cases p with
    | steps =>
      have hvisible : Text.trim text ≠ [] ↔ ∃ c ∈ text, Text.isBlank c = false := by
        rw [ne_eq, Text.trim_eq_nil_iff]
        simp
      simp [haltsAt, probe, Halts, htext, hlt, hvisible]
    | events =>
      cases hhit : s.hitAt line with
      | none =>
        have hunmarked := hitAt_eq_none_iff.1 hhit
        simp [haltsAt, probe, Halts, htext, hlt, hhit, hunmarked, ← Text.mentions_iff]
      | some found =>
        have hmarked : s.Marked line := by
          by_contra hunmarked
          rw [hitAt_eq_none_iff.2 hunmarked] at hhit
          cases hhit
        simp [haltsAt, probe, Halts, htext, hlt, hhit, hmarked]

/-- How a scan can go. -/
inductive Scanned (s : Session) (direction : Direction) (p : Probe) : Option Stop → Prop
  | found {stop : Stop} (nearest : direction.Nearest (s.ahead direction p) stop.line)
      (probed : Probed s stop.line p stop.halt stop.table) : Scanned s direction p (some stop)
  | missed (nothing : s.ahead direction p = ∅) : Scanned s direction p none

/-- **A scan comes to the nearest line ahead.** -/
theorem scan_cases (s : Session) (direction : Direction) (p : Probe) :
    Scanned s direction p (s.scan direction p) := by
  have hahead : {line | line ∈ s.cursor.candidates direction s.source.length ∧
      s.haltsAt p line = true} = s.ahead direction p := by
    ext line
    simp only [Set.mem_ofPred_eq, ahead, Cursor.mem_candidates_iff, haltsAt_iff]
    tauto
  cases hfilter : (s.cursor.candidates direction s.source.length).filter (s.haltsAt p) with
  | nil =>
    rw [scan, firstStop_of_filter_nil hfilter]
    refine .missed (Set.eq_empty_of_forall_notMem fun line hline => ?_)
    rw [← hahead, Set.mem_ofPred_eq, ← List.mem_filter, hfilter] at hline
    cases hline
  | cons line more =>
    obtain ⟨halt, table, hprobe, hstop⟩ := firstStop_of_filter_cons hfilter
    have hnearest :=
      Direction.nearest_of_filter_cons (s.cursor.pairwise_candidates direction _) hfilter
    rw [hahead] at hnearest
    rw [scan, hstop]
    exact .found hnearest (probe_cases hprobe)

/-! ## Coming to a line -/

/-- How a program arrives at a line: the reason to stop there, the breakpoint that it hits and the
table with that breakpoint verified. -/
inductive Arrives (s : Session) (line : Nat) :
    Probe → StopReason → Option Nat → BreakpointTable → Prop
  | step : Arrives s line .steps .step none s.breakpoints
  | exception (unmarked : ¬ s.Marked line) : Arrives s line .events .exception none s.breakpoints
  | breakpoint {path : Files.Path} {early late : List Breakpoint} {first : Breakpoint}
      {table : BreakpointTable} (program : s.program = some path)
      (listed : s.breakpoints.get (Files.components path) = early ++ first :: late)
      (earlier : ∀ bp ∈ early, bp.line ≠ s.base.toClient line)
      (here : first.line = s.base.toClient line)
      (relisted : table.get (Files.components path) =
        early ++ { first with verified := true } :: late)
      (elsewhere : ∀ key, key ≠ Files.components path → table.get key = s.breakpoints.get key)
      (nextId : table.nextId = s.breakpoints.nextId) :
      Arrives s line .events .breakpoint (some first.id) table

theorem arrives_of_probed {halt : Halt} {table : BreakpointTable}
    (h : Probed s line p halt table) : s.Arrives line p halt.reason halt.hitId table := by
  cases h with
  | step _ _ => exact .step
  | exception _ misses _ => exact .exception (hitAt_eq_none_iff.1 misses)
  | breakpoint _ hits =>
    obtain ⟨path, hpath, hhit⟩ := Option.bind_eq_some_iff.1 hits
    obtain ⟨early, first, late, struck⟩ := BreakpointTable.exists_struck hhit
    rw [Halt.reason, Halt.hitId, struck.id]
    exact .breakpoint hpath struck.listed struck.first struck.here struck.relisted struck.elsewhere
      struck.nextId

/-- It does not matter what the program was doing before. -/
theorem Arrives.of_running {reason : StopReason} {hit : Option Nat} {table : BreakpointTable}
    (h : s.running.Arrives line p reason hit table) : s.Arrives line p reason hit table := by
  cases h with
  | step => exact .step
  | exception unmarked => exact .exception unmarked
  | breakpoint program listed earlier here relisted elsewhere nextId =>
    exact .breakpoint program listed earlier here relisted elsewhere nextId

/-! ## Running on -/

/-- The session that has stopped at a line. -/
def stoppedAt (s : Session) (line : Nat) (reason : StopReason) (table : BreakpointTable) :
    Session :=
  { s with
    cursor := .onLine line
    phase := .stopped reason
    breakpoints := table
    handles := s.handles.add outputLabel }

/-- Where running on takes a program, and what is said of it. -/
inductive Goes (s : Session) (said : List Message) : Direction → Probe → Session → Prop
  | arrives {direction : Direction} {p : Probe} {line : Nat} {reason : StopReason}
      {hit : Option Nat} {table : BreakpointTable}
      (nearest : direction.Nearest (s.ahead direction p) line)
      (arrives : s.Arrives line p reason hit table)
      (tells : .event (.stopped reason hit) ∈ said) :
      Goes s said direction p (s.stoppedAt line reason table)
  | ends {p : Probe} (nothing : s.ahead .forward p = ∅) :
      Goes s said .forward p { s with phase := .terminated }
  | rewinds {p : Probe} (nothing : s.ahead .backward p = ∅) :
      Goes s said .backward p (s.stoppedAt 0 .entry s.breakpoints)

/-- **Running on** to the nearest line ahead, or off the end or the start. -/
theorem goes_resume (s t : Session) (req : Request) (direction : Direction) (p : Probe) :
    s.Goes (messages (s.resume req direction p)) direction p
      (finalSession t (s.resume req direction p)) := by
  generalize hacts : s.resume req direction p = acts
  cases hacts ▸ resume_cases s req direction p with
  | @halted _ _ stop scans =>
    cases scans ▸ s.running.scan_cases direction p with
    | found nearest probed =>
      rw [finalSession_stopAt]
      exact .arrives nearest (arrives_of_probed probed).of_running (by simp [messages_stopAt])
  | ended scans =>
    cases scans ▸ s.running.scan_cases .forward p with
    | missed nothing => exact .ends nothing
  | rewound scans =>
    cases scans ▸ s.running.scan_cases .backward p with
    | missed nothing =>
      rw [finalSession_stopAt]
      exact .rewinds nothing

end Session

/-! ## Requests to run on -/

/-- The requests to run on: in which direction they do, and what halts the program. -/
def travelRequests : List (String × Direction × Probe) :=
  [("continue", .forward, .events), ("reverseContinue", .backward, .events),
   ("next", .forward, .steps), ("stepBack", .backward, .steps)]

theorem Session.reaction_travel {s : Session} (live : s.isLive = true) (files : Files.View)
    {req : Request} {direction : Direction} {p : Probe}
    (asks : (req.command, direction, p) ∈ travelRequests) :
    s.reaction files req = s.resume req direction p := by
  simp only [travelRequests, List.mem_cons, Prod.mk.injEq, List.not_mem_nil, or_false] at asks
  rcases asks with ⟨name, rfl, rfl⟩ | ⟨name, rfl, rfl⟩ | ⟨name, rfl, rfl⟩ | ⟨name, rfl, rfl⟩ <;>
    simp [reaction, plan, Command.ofRequest, name, step, live]

/-- **Running on goes to the nearest line ahead.** Let a program be under way, and let a request to
run on be handled without a failing write. If there is a line ahead, the program stops at the nearest
one: at its first breakpoint, whose number the client is told and which is verified now, or else for
the exception on it, or after a step. If there is none, the program ends where it is, or goes back to
the first line. All else in the session stays, but for the handle of the line of output that says
where the program is. -/
theorem runs_to_nearest (run : Run) (faults : Faults) (files : Files.View) (req : Request)
    {direction : Direction} {p : Probe} (asks : (req.command, direction, p) ∈ travelRequests)
    (live : run.session.isLive = true)
    (delivered : ∀ seq m, .sent seq m false ∉
      (run.handle faults files req).1.entries.drop run.entries.length) :
    let s := run.session
    let after := (run.handle faults files req).1
    ((s.ahead direction p).Nonempty → ∃ line reason hit table,
        direction.Nearest (s.ahead direction p) line ∧ s.Arrives line p reason hit table ∧
        after.session =
          { s with
            cursor := .onLine line
            phase := .stopped reason
            breakpoints := table
            handles := s.handles.add "args" } ∧
        ∃ seq, .sent seq (.event (.stopped reason hit)) true ∈
          after.entries.drop run.entries.length) ∧
      (s.ahead direction p = ∅ → direction = .forward →
        after.session = { s with phase := .terminated }) ∧
      (s.ahead direction p = ∅ → direction = .backward →
        after.session =
          { s with
            cursor := .onLine 0
            phase := .stopped .entry
            handles := s.handles.add "args" }) := by
  intro s after
  have hafter : after = run.performed (s.resume req direction p) := by
    show (run.handle faults files req).1 = _
    rw [Run.run_handle_of_delivered delivered, Session.reaction_travel live files asks]
  have hwritten : after.entries.drop run.entries.length =
      recorded run.nextSeq (s.resume req direction p) := by
    rw [hafter]
    exact List.drop_left
  have hsession : after.session = finalSession s (s.resume req direction p) := by rw [hafter]; rfl
  have hgoes := s.goes_resume s req direction p
  rw [← hsession] at hgoes
  rw [hwritten]
  generalize after.session = final at hgoes
  cases hgoes with
  | arrives nearest arrives tells =>
    have hahead : s.ahead direction p ≠ ∅ := Set.nonempty_iff_ne_empty.1 ⟨_, nearest.mem⟩
    exact ⟨fun _ => ⟨_, _, _, _, nearest, arrives, rfl, (mem_messages_iff _).1 tells⟩,
      fun nothing => absurd nothing hahead, fun nothing => absurd nothing hahead⟩
  | ends nothing =>
    refine ⟨fun some => absurd nothing some.ne_empty, fun _ _ => rfl, fun _ backward => ?_⟩
    cases backward
  | rewinds nothing =>
    refine ⟨fun some => absurd nothing some.ne_empty, fun _ forward => ?_, fun _ _ => rfl⟩
    cases forward

/-- A program that runs backwards comes to a line with two breakpoints that nobody has reached yet.
The first of them is hit. -/
theorem reverse_to_shared_line :
    let key := Files.components "p.tab"
    let run : Run :=
      { session :=
          { phase := .stopped .step
            program := some "p.tab"
            source := .ofText "start\n\nlazy\nend".toList
            cursor := .onLine 3
            breakpoints := ⟨1002, [(key, [⟨1000, false, 3⟩, ⟨1001, false, 3⟩])]⟩ } }
    let files : Files.View := { read := fun _ => .error .notFound, canonical := fun _ => none }
    let after := (run.handle Faults.none files ⟨7, "request", "reverseContinue", .null⟩).1
    (∃ line reason hit table,
        Direction.backward.Nearest (run.session.ahead .backward .events) line ∧
        run.session.Arrives line .events reason hit table ∧
        after.session =
          { run.session with
            cursor := .onLine line
            phase := .stopped reason
            breakpoints := table
            handles := run.session.handles.add "args" } ∧
        ∃ seq, .sent seq (.event (.stopped reason hit)) true ∈ after.entries) ∧
      after.session.cursor = .onLine 2 ∧ after.session.phase = .stopped .breakpoint ∧
      after.session.breakpoints.get key = [⟨1000, true, 3⟩, ⟨1001, false, 3⟩] := by
  intro key run files after
  have hasks : ("reverseContinue", Direction.backward, Probe.events) ∈ travelRequests := by decide
  have hgoes := runs_to_nearest run Faults.none files ⟨7, "request", "reverseContinue", .null⟩
    hasks rfl (run.delivered_none files _)
  have hmarked : run.session.Marked 2 := by decide
  have hsome : (run.session.ahead .backward .events).Nonempty :=
    ⟨2, by decide, ⟨3, rfl, by decide⟩, .inl hmarked⟩
  exact ⟨hgoes.1 hsome, by decide +kernel⟩

end TabTools.Debug
