import TabTools.Proofs.Debug.Halting
import TabTools.Proofs.Debug.Journey
import TabTools.Proofs.Debug.Scenes
import TabTools.Proofs.Debug.Turns

/-!
# Going back to where one came from

**Theorem (`opposite_request_returns`).** A program that has stopped at a halting line and runs on
to the next stop comes back to the line when it is run in the opposite direction, and stops there
for the reason that the line gives.

Which lines halt a program does not change while it runs: hits verify breakpoints and move none
(`SameCourse`). So both requests look for lines of one set, and if a line of the set has another as
its nearest in one direction, it is itself the nearest of that one in the other
(`nearest_opposite`).
-/

namespace TabTools.Debug

/-! ## Directions -/

def Direction.opposite : Direction → Direction
  | .forward => .backward
  | .backward => .forward

theorem Cursor.beyond_onLine {direction : Direction} {current line : Nat} :
    (onLine current).Beyond direction line ↔ direction.Before current line := by
  cases direction <;> simp [Beyond, onLine, Direction.Before]

namespace Direction

variable {direction : Direction} {lines : Set Nat} {line other : Nat}

theorem Nearest.unique (h : direction.Nearest lines line) (h' : direction.Nearest lines other) :
    line = other := by
  cases direction with
  | forward => exact IsLeast.unique h h'
  | backward => exact IsGreatest.unique h h'

/-- **The nearest line has this one as its nearest on the way back.** -/
theorem nearest_opposite (hline : line ∈ lines)
    (h : direction.Nearest {l | l ∈ lines ∧ direction.Before line l} other) :
    direction.opposite.Nearest {l | l ∈ lines ∧ direction.opposite.Before other l} line := by
  cases direction with
  | forward =>
    obtain ⟨⟨-, hbefore⟩, hleast⟩ := h
    refine ⟨⟨hline, hbefore⟩, fun l hl => ?_⟩
    by_contra hbeyond
    -- A line between the two would have come first.
    have hle : other ≤ l := hleast ⟨hl.1, Nat.lt_of_not_le hbeyond⟩
    exact Nat.not_lt.2 hle hl.2
  | backward =>
    obtain ⟨⟨-, hbefore⟩, hgreatest⟩ := h
    refine ⟨⟨hline, hbefore⟩, fun l hl => ?_⟩
    by_contra hbeyond
    have hle : l ≤ other := hgreatest ⟨hl.1, Nat.lt_of_not_le hbeyond⟩
    exact Nat.not_lt.2 hle hl.2

end Direction

namespace Session

variable {s t u : Session} {direction : Direction} {p : Probe} {line : Nat}

/-! ## The course of a program -/

/-- Why a halting line stops the program: for a breakpoint if there is one. -/
def reasonAt (s : Session) : Probe → Nat → StopReason
  | .events, line => if s.Marked line then .breakpoint else .exception
  | .steps, _ => .step

theorem Arrives.reason_eq {reason : StopReason} {hit : Option Nat} {table : BreakpointTable}
    (h : s.Arrives line p reason hit table) : reason = s.reasonAt p line := by
  cases h with
  | step => rfl
  | exception unmarked => exact (if_neg unmarked).symm
  | @breakpoint path early late first table program listed _ here _ _ _ =>
    have hfirst : first ∈ s.ownBreakpoints := by simp [ownBreakpoints, program, listed]
    exact (if_pos ⟨first, hfirst, here⟩).symm

/-- Sessions whose programs halt at the same lines for the same reasons: they agree on the source
and on the lines of its breakpoints. -/
structure SameCourse (s t : Session) : Prop where
  source : t.source = s.source
  base : t.base = s.base
  marks : BreakpointTable.marks t.ownBreakpoints = BreakpointTable.marks s.ownBreakpoints

theorem SameCourse.trans (h : s.SameCourse t) (h' : t.SameCourse u) : s.SameCourse u where
  source := h'.source.trans h.source
  base := h'.base.trans h.base
  marks := h'.marks.trans h.marks

theorem SameCourse.marked_iff (h : s.SameCourse t) : t.Marked line ↔ s.Marked line := by
  have hmem (r : Session) : r.Marked line ↔
      r.base.toClient line ∈ BreakpointTable.marks r.ownBreakpoints := by
    simp [Marked, BreakpointTable.marks]
  rw [hmem, hmem, h.base, h.marks]

theorem SameCourse.halts_iff (h : s.SameCourse t) : t.Halts p line ↔ s.Halts p line := by
  cases p with
  | steps => simp only [Halts, h.source]
  | events => simp only [Halts, h.marked_iff, h.source]

theorem SameCourse.reasonAt_eq (h : s.SameCourse t) : t.reasonAt p line = s.reasonAt p line := by
  cases p with
  | steps => rfl
  | events => simp only [reasonAt, h.marked_iff]

/-- The lines that halt a program. -/
def halting (s : Session) (p : Probe) : Set Nat :=
  {line | line < s.source.length ∧ s.Halts p line}

theorem SameCourse.halting_eq (h : s.SameCourse t) : t.halting p = s.halting p := by
  ext line
  simp only [halting, h.source, h.halts_iff]

theorem ahead_of_onLine (h : s.cursor = .onLine line) :
    s.ahead direction p = {l | l ∈ s.halting p ∧ direction.Before line l} := by
  ext l
  simp only [ahead, halting, h, Cursor.beyond_onLine, Set.mem_ofPred_eq]
  tauto

/-- Bystanders of the program leave its course as it is. -/
theorem sameCourse_of_alike {key : SourceKey}
    (own : ∀ path, s.program = some path → Files.components path = key) (h : s.Alike key t) :
    s.SameCourse t where
  source := h.source
  base := h.base
  marks := by
    unfold ownBreakpoints
    rw [h.program]
    cases hpath : s.program with
    | none => rfl
    | some path =>
      dsimp only
      rw [own path hpath, h.breakpoints]

theorem Arrives.sameCourse {reason : StopReason} {hit : Option Nat} {table : BreakpointTable}
    (h : s.Arrives line p reason hit table) : s.SameCourse (s.stoppedAt line reason table) where
  source := rfl
  base := rfl
  marks := by
    cases h with
    | step => rfl
    | exception _ => rfl
    | breakpoint program listed _ _ relisted _ _ =>
      simp only [ownBreakpoints, stoppedAt, program, listed, relisted, BreakpointTable.marks,
        List.map_append, List.map_cons]

/-! ## There and back -/

theorem Goes.program {said : List Message} (h : s.Goes said direction p t) :
    t.program = s.program := by
  cases h <;> rfl

/-- **A stop and the way back.** A program that went from a halting line to another stop comes back
to the line. -/
theorem Goes.returns {said said' : List Message} {last : Session}
    (cursor : s.cursor = .onLine line) (halts : line ∈ s.halting p)
    (goes : s.Goes said direction p t) {reason : StopReason} (stopped : t.phase = .stopped reason)
    (scans : direction = .backward → reason ≠ .entry) (same : t.SameCourse u)
    (stays : u.cursor = t.cursor) (returns : u.Goes said' direction.opposite p last) :
    last.cursor = .onLine line ∧ last.phase = .stopped (s.reasonAt p line) := by
  cases goes with
  | ends _ => cases stopped
  | rewinds _ =>
    cases stopped
    exact absurd rfl (scans rfl)
  | @arrives _ _ other _ _ _ nearest arrives _ =>
    have hcourse := arrives.sameCourse.trans same
    rw [ahead_of_onLine cursor] at nearest
    have hback : direction.opposite.Nearest (u.ahead direction.opposite p) line := by
      rw [ahead_of_onLine stays, hcourse.halting_eq]
      exact Direction.nearest_opposite halts nearest
    have hsome : u.ahead direction.opposite p ≠ ∅ := Set.nonempty_iff_ne_empty.1 ⟨_, hback.mem⟩
    generalize direction.opposite = way at returns hback hsome
    cases returns with
    | ends nothing => exact absurd nothing hsome
    | rewinds nothing => exact absurd nothing hsome
    | arrives nearest' arrives' _ =>
      obtain rfl := hback.unique nearest'
      rw [← hcourse.reasonAt_eq, ← arrives'.reason_eq]
      exact ⟨rfl, rfl⟩

end Session

/-! ## Turns -/

namespace Run

variable {run : Run} {turn : Turn} {direction : Direction} {p : Probe}

theorem mem_travelRequests_ne_disconnect {name : String}
    (h : (name, direction, p) ∈ travelRequests) : name ≠ "disconnect" := by
  rintro rfl
  simp [travelRequests] at h

theorem not_panics_of_travel {s : Session} {req : Request}
    (travels : (req.command, direction, p) ∈ travelRequests) : ¬ s.Panics req := by
  rintro ⟨args, program, decodes, -⟩
  rw [Command.ofRequest_name decodes] at travels
  simp [travelRequests, Command.name] at travels

/-- A turn that runs the program on. Reports before and after it add handles. -/
theorem serve_travel {req : Request} (live : run.session.isLive = true)
    (asks : turn.request? = some req) (travels : (req.command, direction, p) ∈ travelRequests) :
    ∃ next handles handles' said after, run.serve Faults.none turn = (next, .goOn) ∧
      ({ run.session with handles } : Session).Goes said direction p after ∧
      next.session = { after with handles := handles' } := by
  unfold Turn.request? at asks
  cases hread : turn.inbound with
  | error cause => rw [hread] at asks; cases asks
  | ok message =>
    rw [hread] at asks
    have hserve := serve_none_request run hread asks (not_panics_of_travel travels)
    rw [outcomeOf, if_neg (mem_travelRequests_ne_disconnect travels)] at hserve
    obtain ⟨handles, hbefore⟩ := session_drained run
    have hheard : (run.heard turn message).session = { run.session with handles } := hbefore
    have hlive : (run.heard turn message).session.isLive = true := by rw [hheard]; exact live
    rw [Session.reaction_travel hlive turn.files travels] at hserve
    generalize run.heard turn message = heard at hserve hheard
    obtain ⟨handles', hafter⟩ :=
      session_drained (heard.performed (heard.session.resume req direction p))
    have hgoes := heard.session.goes_resume heard.session req direction p
    refine ⟨_, handles, handles', messages (heard.session.resume req direction p), _, hserve, ?_,
      hafter⟩
    rw [← hheard]
    exact hgoes

/-- **A program that runs on to a stop runs back to where it was.** Let a program be stopped at a
line that would halt it, and let it run on, forwards or backwards, until it stops again; that it went
back to the first line for want of a stop does not count. If it then runs in the opposite direction,
it stops at the line where it was, for the reason that the line gives. It does not matter how often
the client looks around in between, or sets breakpoints in other sources, unless it asks for a stack
trace of a program whose path has no text. -/
theorem opposite_request_returns (run : Run) {reason : StopReason} {key : SourceKey} {line : Nat}
    {out back : Turn} {between : List Turn} {req req' : Request}
    (live : run.session.phase = .stopped reason)
    (own : ∀ path, run.session.program = some path → Files.components path = key)
    (cursor : run.session.cursor = .onLine line) (inFile : line < run.session.source.length)
    (halts : run.session.Halts p line)
    (goes : out.request? = some req) (direct : (req.command, direction, p) ∈ travelRequests)
    (stops : ∃ why, (run.serve Faults.none out).1.session.phase = .stopped why ∧
      (direction = .backward → why ≠ .entry))
    (aside : ∀ turn ∈ between, turn.Bystands key run.session.program)
    (returns : back.request? = some req')
    (opposite : (req'.command, direction.opposite, p) ∈ travelRequests) :
    ∃ last, run.serveAll Faults.none (out :: (between ++ [back])) = (last, .goOn) ∧
      last.session.cursor = .onLine line ∧
      last.session.phase = .stopped (run.session.reasonAt p line) := by
  obtain ⟨why, hstop, hentry⟩ := stops
  have hlive : run.session.isLive = true := by simp [Session.isLive, live]
  obtain ⟨there, handles, handles', said, stopped, hthere, hgoes, hstopped⟩ :=
    serve_travel hlive goes direct
  rw [hthere, hstopped] at hstop
  have hprogram : there.session.program = run.session.program := by
    rw [hstopped]
    exact hgoes.program
  rw [← hprogram] at aside
  obtain ⟨resting, hleads, halike⟩ := there.leads_bystanders aside
  have hlive' : resting.session.isLive = true := by
    simp [Session.isLive, halike.phase, hstopped, hstop]
  obtain ⟨last, handles₂, handles₃, said', final, hlast, hreturns, hfinal⟩ :=
    serve_travel hlive' returns opposite
  refine ⟨last, ?_, ?_⟩
  · rw [serveAll_goOn hthere, serveAll_append hleads.serveAll_eq, serveAll_single, hlast]
  · have hown : ∀ path, stopped.program = some path → Files.components path = key := by
      rw [hgoes.program]
      exact own
    have halike : stopped.Alike key { resting.session with handles := handles₂ } := by
      rw [hstopped] at halike
      exact ((Session.Alike.of_handles stopped handles').trans halike).trans (.of_handles _ handles₂)
    have hcursor : ({ run.session with handles } : Session).cursor = .onLine line := cursor
    have hback := hgoes.returns hcursor ⟨inFile, halts⟩ hstop hentry
      (Session.sameCourse_of_alike hown halike) halike.cursor hreturns
    rw [hfinal]
    exact hback

/-- From an exception on the first line a program continues to a breakpoint that nobody has reached
yet and verifies it. The client asks for the threads there, and then it goes back. -/
theorem exception_found_again :
    let key := Files.components "p.tab"
    let run : Run :=
      { session :=
          { phase := .stopped .entry
            program := some "p.tab"
            source := .ofText "exception\n\nlazy\nend".toList
            cursor := .onLine 0
            breakpoints := ⟨1001, [(key, [⟨1000, false, 3⟩])]⟩ } }
    let request (command : String) : Turn :=
      { inbound := .ok (.obj [("command", .str command), ("seq", .int 1), ("type", .str "request")])
        files := { read := fun _ => .error .notFound, canonical := fun _ => none } }
    let turns := [request "continue", request "threads", request "reverseContinue"]
    (run.serve Faults.none (request "continue")).1.session.cursor = .onLine 2 ∧
      ∃ last, run.serveAll Faults.none turns = (last, .goOn) ∧
        last.session.cursor = .onLine 0 ∧ last.session.phase = .stopped .exception := by
  intro key run request turns
  have hthreads : ∀ turn ∈ [request "threads"], turn.Bystands key run.session.program := by
    intro turn hturn
    rw [List.mem_singleton.1 hturn]
    refine ⟨⟨_, rfl, fun req hreq command hcommand => ?_⟩, rfl⟩
    cases hreq
    cases hcommand
    trivial
  have hown : ∀ path, run.session.program = some path → Files.components path = key := by
    rintro path heq
    cases heq
    rfl
  have hhalts : run.session.Halts .events 0 := .inr ⟨_, rfl, List.infix_refl _⟩
  have hstops : (run.serve Faults.none (request "continue")).1.session.phase =
      .stopped .breakpoint := by decide +kernel
  have hreason : run.session.reasonAt .events 0 = .exception := by decide +kernel
  have hthere : (request "continue").request? = some ⟨1, "request", "continue", .null⟩ := rfl
  have hback : (request "reverseContinue").request? =
      some ⟨1, "request", "reverseContinue", .null⟩ := rfl
  have hforth : ("continue", Direction.forward, Probe.events) ∈ travelRequests := by decide
  have hreturns := opposite_request_returns run rfl hown rfl (by decide) hhalts hthere hforth
    ⟨_, hstops, by simp⟩ hthreads hback (by decide)
  rw [hreason] at hreturns
  exact ⟨by decide +kernel, hreturns⟩

end Run

end TabTools.Debug
