import TabTools.Proofs.Debug.Layout

/-!
# Where breakpoints stop a program

**Theorem (`journey_visits_stops`).** A client says how it counts lines, sets breakpoints in a file,
launches the file and then only continues. The program stops on the lines where the breakpoints were
placed and on the lines that mention an exception (`StopsAt`): on each of them once, from the first to
the last, and then it ends. From any of these stops, continuing backwards goes through the earlier
ones, from the last to the first, and then to the first line of the file.

The requests before the launch fix a layout (`Layout.ofRequests`), the launch visits its first halting
line (`leads_launch`), and from there the runs of continues take over.
-/

namespace TabTools.Debug

/-- The lines of a source where its breakpoints and exceptions stop a program, and why. -/
inductive StopsAt (source : Source) (base : LineBase) (clients : List Int) : Nat → StopReason → Prop
  | breakpoint {line : Nat} (inside : line < source.length)
      (marked : Marks source base clients line) : StopsAt source base clients line .breakpoint
  | exception {line : Nat} {text : List Char} (line_eq : source.get? line = some text)
      (unmarked : ¬ Marks source base clients line) (raises : "exception".toList <:+: text) :
      StopsAt source base clients line .exception

namespace Layout

/-! ## The stops of a layout -/

/-- The layout of a source with breakpoints asked for at client lines. -/
def ofRequests (program : Files.Path) (source : Source) (base : LineBase) (clients : List Int) :
    Layout :=
  ⟨program, source, base, BreakpointTable.placed source base clients⟩

variable {l : Layout} {program : Files.Path} {source : Source} {base : LineBase} {clients : List Int}

theorem halts_iff {line : Nat} : l.halts line = true ↔
    ∃ text, l.source.get? line = some text ∧
      (l.marked line = true ∨ Text.mentions exceptionMarker text = true) := by
  simp [halts, Option.any_eq_true]

theorem lt_length_of_halts {line : Nat} (h : l.halts line = true) : line < l.source.length := by
  obtain ⟨text, htext, -⟩ := halts_iff.1 h
  exact Source.lt_length_of_get? htext

theorem marked_ofRequests {line : Nat} (h : (line : Int) + 1 < LineBase.maxClient) :
    (ofRequests program source base clients).marked line = true ↔ Marks source base clients line := by
  rw [marked, List.contains_iff_mem]
  exact BreakpointTable.mem_placed_iff h

/-- **The layout halts where breakpoints and exceptions stop a program.** -/
theorem halts_ofRequests (hlength : source.length < LineBase.maxClient) (line : Nat)
    (reason : StopReason) :
    (ofRequests program source base clients).halts line = true ∧
        (ofRequests program source base clients).reason line = reason ↔
      StopsAt source base clients line reason := by
  have hmarked : line < source.length →
      ((ofRequests program source base clients).marked line = true ↔
        Marks source base clients line) := by
    intro hlt
    exact marked_ofRequests (by omega)
  constructor
  · rintro ⟨hhalts, rfl⟩
    have hlt := lt_length_of_halts hhalts
    obtain ⟨text, htext, hcause⟩ := halts_iff.1 hhalts
    unfold Layout.reason
    split
    · rename_i hmark
      exact .breakpoint hlt ((hmarked hlt).1 hmark)
    · rename_i hmark
      have hmentions := hcause.resolve_left hmark
      exact .exception htext (fun h => hmark ((hmarked hlt).2 h))
        ((Text.mentions_iff _ _).1 hmentions)
  · intro h
    cases h with
    | breakpoint inside marks =>
      have hmark := (hmarked inside).2 marks
      exact ⟨halts_iff.2 ⟨_, List.getElem?_eq_getElem inside, .inl hmark⟩, if_pos hmark⟩
    | exception line_eq unmarked raises =>
      have hlt := Source.lt_length_of_get? line_eq
      have hmark : ¬ (ofRequests program source base clients).marked line = true := fun h =>
        unmarked ((hmarked hlt).1 h)
      exact ⟨halts_iff.2 ⟨_, line_eq, .inr ((Text.mentions_iff _ _).2 raises)⟩, if_neg hmark⟩

theorem pairwise_stops (l : Layout) : l.stops.Pairwise (· < ·) :=
  List.pairwise_lt_range.filter _

theorem mem_stops_iff {line : Nat} : line ∈ l.stops ↔ l.halts line = true := by
  rw [stops, List.mem_filter, List.mem_range]
  exact ⟨fun h => h.2, fun h => ⟨lt_length_of_halts h, h⟩⟩

/-- Before the first line, all stops are ahead. -/
theorem beyond_of_fresh {s : Session} (h : s.cursor = {}) : l.beyond s .forward = l.stops := by
  rw [beyond, h, stops, List.range_eq_range']
  rfl

/-- On a halting line, the stops are those behind, the line itself and those ahead. -/
theorem Stopped.stops_eq {s : Session} {line : Nat} (h : l.Stopped line s)
    (hhalts : l.halts line = true) :
    l.stops = (l.beyond s .backward).reverse ++ line :: l.beyond s .forward := by
  rw [beyond, beyond, h.cursor]
  exact Cursor.filter_range_split (lt_length_of_halts hhalts) hhalts

end Layout

/-! ## The turns before -/

namespace Run

variable {turn : Turn}

theorem serve_initialize (run : Run) {args : InitializeArguments}
    (hturn : turn.command? = some (.initializeAdapter args)) :
    ∃ next, run.serve Faults.none turn = (next, .goOn) ∧
      (next.session.base = ⟨args.linesStartAtOne⟩ ∧ next.session.program = run.session.program) ∧
      run.visits next = [] := by
  refine serve_shows (P := fun s => s.base = ⟨args.linesStartAtOne⟩ ∧
    s.program = run.session.program) hturn (by simp) (by simp) (fun s handles h => h) ?_
  intro handles req hreq
  simp only [Session.reaction, Session.plan, hreq]
  exact ⟨⟨rfl, rfl⟩, rfl⟩

theorem serve_setBreakpoints (run : Run) {args : SetBreakpointsArguments} {path : String}
    {text : List Char} {program : Files.Path} (hturn : turn.command? = some (.setBreakpoints args))
    (hpath : args.source.path = some path) (htext : turn.files.readText path = .ok text)
    (hkey : Files.components (turn.files.sourcePath path) = Files.components program) :
    ∃ next, run.serve Faults.none turn = (next, .goOn) ∧
      ((Layout.ofRequests program (.ofText text) run.session.base args.clientLines).Prepared
        next.session ∧ next.session.program = run.session.program) ∧
      run.visits next = [] := by
  refine serve_shows (P := fun s => (Layout.ofRequests program (.ofText text) run.session.base
    args.clientLines).Prepared s ∧ s.program = run.session.program) hturn (by simp) (by simp)
    (fun s handles h => ⟨h.1.alike (.of_handles s handles), h.2⟩) ?_
  intro handles req hreq
  have hplan : ({ run.session with handles } : Session).reaction turn.files req =
      [({ run.session with
          handles
          breakpoints := (run.session.breakpoints.set (Files.components program) (.ofText text)
            args.clientLines run.session.base).2 } : Session).succeed req
        (.breakpoints (run.session.breakpoints.set (Files.components program) (.ofText text)
          args.clientLines run.session.base).1)] := by
    simp only [Session.reaction, Session.plan, hreq, Session.setBreakpoints, hpath, Session.load,
      htext, hkey]
  rw [hplan]
  refine ⟨⟨⟨rfl, ?_⟩, rfl⟩, rfl⟩
  show BreakpointTable.marks ((run.session.breakpoints.set (Files.components program)
    (.ofText text) args.clientLines run.session.base).2.get (Files.components program)) = _
  rw [BreakpointTable.get_set, BreakpointTable.marks_create]
  rfl

end Run

/-! ## The launch -/

namespace Layout

variable {l : Layout} {run : Run} {turn : Turn}

/-- A turn that launches the program of a layout without a stop on entry. -/
def Launches (l : Layout) (turn : Turn) : Prop :=
  ∃ args path text, turn.command? = some (.launch args) ∧ args.program = some path ∧
    args.stopOnEntry = false ∧ turn.files.readText path = .ok text ∧ l.source = .ofText text ∧
    turn.files.sourcePath path = l.program

/-- Such a launch runs on from before the first line of the program. -/
theorem serve_launch (hturn : l.Launches turn) (hprepared : l.Prepared run.session)
    {P : Session → Prop} (hP : ∀ s handles, P s → P { s with handles }) {seen : List Visit}
    (h : ∀ s t req, l.Fits s → l.beyond s .forward = l.stops →
      P (finalSession t (s.resume req .forward .events)) ∧
        Run.shown t (s.resume req .forward .events) = seen) :
    ∃ next, run.serve Faults.none turn = (next, .goOn) ∧ P next.session ∧ run.visits next = seen := by
  obtain ⟨args, path, text, hcommand, hpath, hentry, htext, hsource, hkey⟩ := hturn
  refine Run.serve_shows hcommand (by simp) (by simp) hP ?_
  intro handles req hreq
  have hresume := h (({ run.session with handles } : Session).loaded (turn.files.sourcePath path)
    (.ofText text)) { run.session with handles } req
    ⟨⟨hprepared.base, hprepared.marks⟩, hsource.symm, congrArg some hkey⟩ (beyond_of_fresh rfl)
  have hplan : ({ run.session with handles } : Session).reaction turn.files req =
      if args.trace then .traceOn :: (({ run.session with handles } : Session).loaded
          (turn.files.sourcePath path) (.ofText text)).resume req .forward .events
      else (({ run.session with handles } : Session).loaded (turn.files.sourcePath path)
        (.ofText text)).resume req .forward .events := by
    simp only [Session.reaction, Session.plan, hreq, Session.launch, hpath, Session.load, htext,
      hentry]
    rfl
  rw [hplan]
  split <;> exact hresume

/-- **Launching and continuing** visits all halting lines and then ends. As long as it does not end,
those that were visited before the current one are the ones behind the cursor. -/
theorem leads_launch (hturn : l.Launches turn) (hprepared : l.Prepared run.session)
    {forth : List Turn} (hforth : l.Continuing .forward forth) :
    ∃ last, Run.Leads run (turn :: forth) last
        ((l.stops.map l.visit ++ [Visit.finish]).take (forth.countP (Turn.continues .forward) + 1)) ∧
      (forth.countP (Turn.continues .forward) < l.stops.length →
        ∃ line, l.Stopped line last.session ∧
          l.beyond last.session .backward =
            (l.stops.take (forth.countP (Turn.continues .forward))).reverse) := by
  cases hstops : l.stops with
  | nil =>
    obtain ⟨next, hnext, hended, hvisits⟩ := serve_launch hturn hprepared (P := l.Ended)
      (fun s handles h => ⟨h.1, h.2⟩) fun s t req hfits hbeyond =>
        hfits.resume_forward_nil (hbeyond.trans hstops) t req
    obtain ⟨last, hleads⟩ := leads_ended hended hforth
    refine ⟨last, ?_, fun hfew => absurd hfew (Nat.not_lt_zero _)⟩
    rw [List.map_nil, List.nil_append, List.take_succ_cons, List.take_nil]
    exact (Run.Leads.single hnext hvisits).trans hleads
  | cons first more =>
    obtain ⟨next, hnext, hstopped, hvisits⟩ := serve_launch hturn hprepared
      (P := l.Stopped first) (fun s handles h => h.handles handles) fun s t req hfits hbeyond =>
        hfits.resume_cons (hbeyond.trans hstops) t req
    have hfirst : l.halts first = true := mem_stops_iff.1 (by rw [hstops]; exact .head _)
    have hmore : l.beyond next.session .forward = more :=
      hstopped.beyond_next (s := { next.session with cursor := {} })
        ((beyond_of_fresh rfl).trans hstops)
    obtain ⟨last, hleads, hlast⟩ := leads_forward hstopped hfirst hforth
    rw [hmore] at hleads hlast
    refine ⟨last, (Run.Leads.single hnext hvisits).trans hleads, fun hfew => ?_⟩
    obtain ⟨line, hhalts, hline, hahead⟩ := hlast (Nat.le_of_lt_succ hfew)
    refine ⟨line, hline, ?_⟩
    have hsplit := hline.stops_eq hhalts
    have hbehind : (l.beyond last.session .backward).reverse.length =
        forth.countP (Turn.continues .forward) := by
      have hlength := congrArg List.length hsplit
      rw [hstops, hahead, List.length_append, List.length_cons, List.length_cons,
        List.length_drop] at hlength
      rw [List.length_cons] at hfew
      omega
    rw [← hstops, hsplit, List.take_left' hbehind, List.reverse_reverse]

end Layout

/-! ## The journey -/

/-- **Where breakpoints stop a program.** A client says how it counts lines, sets breakpoints in a
file and launches it, and from then on only continues; bystanders may come anywhere between, unless
they ask for a stack trace of a program whose path has no text. Nothing is seen before the launch. The
launch and each continue after it show the next of the stops, and one more continue shows the end.
From any stop, each continue backwards shows the stop before, and when there is none it shows the
first line. -/
theorem journey_visits_stops (run : Run) {hello setup launch : Turn}
    {early between forth back : List Turn} {init : InitializeArguments}
    {ask : SetBreakpointsArguments} {go : LaunchArguments} {path program : String}
    {text : List Char} {key : SourceKey}
    (hhello : hello.command? = some (.initializeAdapter init))
    (hsetup : setup.command? = some (.setBreakpoints ask)) (hpath : ask.source.path = some path)
    (hset : setup.files.readText path = .ok text)
    (hkey : Files.components (setup.files.sourcePath path) = key)
    (hlaunch : launch.command? = some (.launch go)) (hprogram : go.program = some program)
    (hentry : go.stopOnEntry = false) (hgo : launch.files.readText program = .ok text)
    (hsame : Files.components (launch.files.sourcePath program) = key)
    (hlength : (Source.ofText text).length < LineBase.maxClient)
    (hearly : ∀ turn ∈ early, turn.Bystands key run.session.program)
    (hbetween : ∀ turn ∈ between, turn.Bystands key run.session.program)
    (hforth : ∀ turn ∈ forth, turn.continues .forward = true ∨
      turn.Bystands key (some (launch.files.sourcePath program)))
    (hback : ∀ turn ∈ back, turn.continues .backward = true ∨
      turn.Bystands key (some (launch.files.sourcePath program))) :
    let before := hello :: (early ++ setup :: between)
    ∃ stops : List (Nat × StopReason), stops.Pairwise (fun a b => a.1 < b.1) ∧
      (∀ line reason, (line, reason) ∈ stops ↔
        StopsAt (.ofText text) ⟨init.linesStartAtOne⟩ ask.clientLines line reason) ∧
      run.journey before = [] ∧
      run.journey (before ++ launch :: forth) =
        (stops.map (fun stop => Visit.stop (some stop.1) stop.2) ++ [Visit.finish]).take
          (forth.countP (Turn.continues .forward) + 1) ∧
      (forth.countP (Turn.continues .forward) < stops.length →
        (Run.serveAll Faults.none run (before ++ launch :: forth)).1.journey back =
          ((stops.take (forth.countP (Turn.continues .forward))).reverse.map
              (fun stop => Visit.stop (some stop.1) stop.2) ++
            List.replicate (back.countP (Turn.continues .backward))
              (Visit.stop (some 0) .entry)).take (back.countP (Turn.continues .backward))) := by
  intro before
  -- The requests before the launch fix the layout `l`.
  let l := Layout.ofRequests (launch.files.sourcePath program) (.ofText text)
    ⟨init.linesStartAtOne⟩ ask.clientLines
  subst hsame
  obtain ⟨greeted, hgreeted, ⟨hbase, hkept⟩, hsaw⟩ := Run.serve_initialize run hhello
  rw [← hkept] at hearly hbetween
  obtain ⟨idle, hidle, halike⟩ := Run.leads_bystanders greeted hearly
  obtain ⟨armed, harmed, ⟨hprepared, hkeptArmed⟩, hsawArmed⟩ :=
    Run.serve_setBreakpoints idle hsetup hpath hset hkey
  rw [halike.base.trans hbase] at hprepared
  rw [← halike.program, ← hkeptArmed] at hbetween
  obtain ⟨ready, hready, halikeReady⟩ := Run.leads_bystanders armed hbetween
  have hbefore : Run.Leads run before ready [] := (Run.Leads.single hgreeted hsaw).trans
    (hidle.trans ((Run.Leads.single harmed hsawArmed).trans hready))
  have hlaunches : l.Launches launch :=
    ⟨go, program, text, hlaunch, hprogram, hentry, hgo, rfl, rfl⟩
  obtain ⟨last, hleads, hlast⟩ :=
    Layout.leads_launch hlaunches (hprepared.alike halikeReady) hforth
  have hall := hbefore.trans hleads
  have hvisit : (fun stop : Nat × StopReason => Visit.stop (some stop.1) stop.2) ∘
      (fun line => (line, l.reason line)) = l.visit := rfl
  refine ⟨l.stops.map fun line => (line, l.reason line), ?_, ?_, hbefore.journey_eq, ?_, ?_⟩
  · rw [List.pairwise_map]
    exact l.pairwise_stops
  · intro line reason
    rw [← Layout.halts_ofRequests hlength line reason, List.mem_map]
    constructor
    · rintro ⟨line', hmem, heq⟩
      cases heq
      exact ⟨Layout.mem_stops_iff.1 hmem, rfl⟩
    · rintro ⟨hhalts, rfl⟩
      exact ⟨line, Layout.mem_stops_iff.2 hhalts, rfl⟩
  · rw [List.map_map, hvisit]
    exact hall.journey_eq
  · intro hfew
    rw [List.length_map] at hfew
    obtain ⟨line, hstopped, hbehind⟩ := hlast hfew
    obtain ⟨final, hreturn⟩ := Layout.leads_backward hstopped hback (Nat.le_refl _)
    rw [← List.map_take, ← List.map_reverse, List.map_map, hvisit, ← hbehind, hall.serveAll_eq]
    exact hreturn.journey_eq

/-- A breakpoint on the blank second line of a program moves down, one on its fourth line comes before
the exception there. The client asks for the threads between the requests. -/
theorem journey_of_two_breakpoints :
    let files : Files.View :=
      { read := fun _ => .ok (Text.encode "start\n\nstop\nexception one\nexception two".toList)
        canonical := fun _ => none }
    let request (command : String) (arguments : List (String × Json)) : Turn :=
      { inbound := .ok (.obj [("arguments", .obj arguments), ("command", .str command),
          ("seq", .int 1), ("type", .str "request")])
        files }
    let hello := request "initialize" []
    let setup := request "setBreakpoints"
      [("lines", .arr [.int 2, .int 4]), ("source", .obj [("path", .str "p.tab")])]
    let launch := request "launch" [("program", .str "p.tab")]
    let threads := request "threads" []
    let forth := [request "continue" [], threads, request "continue" []]
    let back := [request "reverseContinue" [], request "reverseContinue" [],
      request "reverseContinue" []]
    let run := Run.start .absent
    let before := hello :: ([] ++ setup :: [threads])
    run.journey (before ++ launch :: forth) =
        [.stop (some 2) .breakpoint, .stop (some 3) .breakpoint, .stop (some 4) .exception] ∧
      ∃ stops : List (Nat × StopReason), stops.Pairwise (fun a b => a.1 < b.1) ∧
        (∀ line reason, (line, reason) ∈ stops ↔
          StopsAt (.ofText "start\n\nstop\nexception one\nexception two".toList) ⟨true⟩ [2, 4]
            line reason) ∧
        run.journey before = [] ∧
        run.journey (before ++ launch :: forth) =
          (stops.map (fun stop => Visit.stop (some stop.1) stop.2) ++ [Visit.finish]).take 3 ∧
        (2 < stops.length →
          (Run.serveAll Faults.none run (before ++ launch :: forth)).1.journey back =
            ((stops.take 2).reverse.map (fun stop => Visit.stop (some stop.1) stop.2) ++
              List.replicate 3 (Visit.stop (some 0) .entry)).take 3) := by
  intro files request hello setup launch threads forth back run before
  have hthreads : ∀ program, threads.Bystands (Files.components "p.tab") program := by
    refine fun program => ⟨⟨_, rfl, fun req hreq command hcommand => ?_⟩, rfl⟩
    cases hreq
    cases hcommand
    trivial
  have hhello : hello.command? = some (.initializeAdapter {}) := rfl
  have hsetup : setup.command? = some (.setBreakpoints
      { source := { path := some "p.tab" }, lines := some [2, 4] }) := rfl
  have hlaunch : launch.command? = some (.launch { program := some "p.tab" }) := rfl
  have hread : files.readText "p.tab" =
      .ok "start\n\nstop\nexception one\nexception two".toList := rfl
  have hforth : ∀ turn ∈ forth,
      turn.continues .forward = true ∨ turn.Bystands (Files.components "p.tab") (some "p.tab") := by
    intro turn hturn
    rcases List.mem_cons.1 hturn with rfl | hturn
    · exact .inl rfl
    · rcases List.mem_cons.1 hturn with rfl | hturn
      · exact .inr (hthreads _)
      · rw [List.mem_singleton.1 hturn]
        exact .inl rfl
  have hback : ∀ turn ∈ back,
      turn.continues .backward = true ∨ turn.Bystands (Files.components "p.tab") (some "p.tab") := by
    intro turn hturn
    rw [List.eq_of_mem_replicate (n := 3) hturn]
    exact .inl rfl
  have hbetween : ∀ turn ∈ [threads], turn.Bystands (Files.components "p.tab") none := by
    intro turn hturn
    rw [List.mem_singleton.1 hturn]
    exact hthreads none
  have hjourney : run.journey (before ++ launch :: forth) =
      [.stop (some 2) .breakpoint, .stop (some 3) .breakpoint, .stop (some 4) .exception] := by
    simp only [run, before, hello, setup, threads, launch, forth, request, files]
    rfl
  exact ⟨hjourney, journey_visits_stops run hhello hsetup rfl hread rfl hlaunch rfl rfl hread rfl
    (by decide) (by simp) hbetween hforth hback⟩

end TabTools.Debug
