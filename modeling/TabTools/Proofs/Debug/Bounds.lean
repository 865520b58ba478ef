import TabTools.Proofs.Debug.Breakpoint
import TabTools.Proofs.Debug.Readable
import TabTools.Proofs.Debug.Scan
import TabTools.Proofs.Debug.Scenes

/-!
# Numbers a session gives out

**What a request adds** (`grows_reaction`). Numbers come from four places: the request, whose
numbers are 64-bit; the lines of a source, which are shown as 64-bit numbers; the words of a line,
of which there are no more than the file has bytes; and the counters of handles and breakpoints. A
message holds only numbers that these counters have passed, and it moves them on by no more than it
shows: three handles, and one breakpoint for each breakpoint shown.

**Runs** (`bounded_serveAll`). So the counters are bounded by what has been written, as long as no
write fails, the messages were read from texts and the files fit into memory.
-/

namespace TabTools.Debug

/-! ## Breakpoints -/

theorem isInt64_toClient (base : LineBase) (line : Nat) : IsInt64 (base.toClient line) := by
  unfold IsInt64 LineBase.toClient LineBase.first LineBase.maxClient
  split <;> omega

theorem isInt64_placeClient {source : Source} {base : LineBase} {client : Int}
    (h : IsInt64 client) : IsInt64 (placeClient source base client).1 := by
  unfold placeClient
  split
  · exact h
  · exact isInt64_toClient base _

namespace BreakpointTable

/-- All breakpoints of a table were made by its counter, at 64-bit lines. -/
def Within (table : BreakpointTable) : Prop :=
  ∀ key, ∀ bp ∈ table.get key, bp.Within table.nextId

variable {table after : BreakpointTable} {key : SourceKey}

theorem within_create {source : Source} {base : LineBase} {first : Nat} {clients : List Int}
    (h : ∀ client ∈ clients, IsInt64 client) :
    ∀ bp ∈ create source base first clients, bp.Within (first + clients.length) := by
  induction clients generalizing first with
  | nil => simp [create]
  | cons client clients ih =>
    obtain ⟨hclient, hrest⟩ := List.forall_mem_cons.1 h
    refine List.forall_mem_cons.2 ⟨⟨by simp, isInt64_placeClient hclient⟩, fun bp hbp => ?_⟩
    obtain ⟨hid, hline⟩ := @ih (first + 1) hrest bp hbp
    exact ⟨by rw [List.length_cons]; omega, hline⟩

theorem Within.set (h : table.Within) (key : SourceKey) (source : Source) {clients : List Int}
    (hclients : ∀ client ∈ clients, IsInt64 client) (base : LineBase) :
    (table.set key source clients base).2.Within := by
  intro other bp hbp
  by_cases hother : other = key
  · subst hother
    rw [get_set] at hbp
    exact within_create hclients bp hbp
  · rw [get_set_of_ne table hother] at hbp
    obtain ⟨hid, hline⟩ := h other bp hbp
    exact ⟨hid.trans_le (Nat.le_add_right _ _), hline⟩

/-- A hit shows a breakpoint of the table, and makes none. -/
theorem Within.hit (h : table.Within) {client : Int} {hit : Hit}
    (hhit : table.hit key client = some (hit, after)) :
    after.Within ∧ after.nextId = table.nextId ∧ hit.id < table.nextId ∧
      ∀ bp, hit.verifiedNow = some bp → bp.Within table.nextId := by
  obtain ⟨early, bp, late, struck⟩ := exists_struck hhit
  have hlisted := h key
  rw [struck.listed] at hlisted
  have hbp := hlisted bp (by simp)
  refine ⟨fun other bp' hbp' => ?_, struck.nextId, struck.id ▸ hbp.id, fun now hnow => ?_⟩
  · rw [struck.nextId]
    by_cases hother : other = key
    · subst hother
      rw [struck.relisted] at hbp'
      rcases List.mem_append.1 hbp' with hearly | hrest
      · exact hlisted bp' (List.mem_append_left _ hearly)
      · rcases List.mem_cons.1 hrest with rfl | hlate
        · exact ⟨hbp.id, hbp.line⟩
        · exact hlisted bp' (by simp [hlate])
    · rw [struck.elsewhere other hother] at hbp'
      exact h other bp' hbp'
  · rw [struck.verifiedNow] at hnow
    split at hnow
    · cases hnow
    · cases hnow
      exact ⟨hbp.id, hbp.line⟩

end BreakpointTable

/-! ## Plans -/

/-- Files that fit into memory. -/
def FilesFit (files : Files.View) : Prop :=
  ∀ path bytes, files.read path = .ok bytes → bytes.length < memoryLimit

namespace Session

/-- A session whose numbers are in range. -/
structure Bounded (s : Session) : Prop where
  table : s.breakpoints.Within
  lines : ∀ line ∈ s.source.lines, line.length < memoryLimit

/-- What acts do to the counters of a session, and what their messages show of them. -/
structure Grows (s : Session) (acts : List Act) : Prop where
  bounded : (finalSession s acts).Bounded
  handles_ge : s.handles.next ≤ (finalSession s acts).handles.next
  handles_le : (finalSession s acts).handles.next ≤ s.handles.next + 3 * (messages acts).length
  ids_ge : s.breakpoints.nextId ≤ (finalSession s acts).breakpoints.nextId
  ids_le : (finalSession s acts).breakpoints.nextId ≤
    s.breakpoints.nextId + ((messages acts).flatMap Message.shown).length
  within : ∀ m ∈ messages acts,
    m.Within (finalSession s acts).handles.next (finalSession s acts).breakpoints.nextId

variable {s t : Session} {files : Files.View} {req : Request}

theorem Grows.append {xs ys : List Act} (hxs : Grows s xs) (hys : Grows (finalSession s xs) ys) :
    Grows s (xs ++ ys) where
  bounded := by
    rw [finalSession_append]
    exact hys.bounded
  handles_ge := by
    rw [finalSession_append]
    exact hxs.handles_ge.trans hys.handles_ge
  handles_le := by
    have := hxs.handles_le
    have := hys.handles_le
    rw [finalSession_append, messages_append, List.length_append]
    omega
  ids_ge := by
    rw [finalSession_append]
    exact hxs.ids_ge.trans hys.ids_ge
  ids_le := by
    have := hxs.ids_le
    have := hys.ids_le
    rw [finalSession_append, messages_append, List.flatMap_append, List.length_append]
    omega
  within := by
    rw [finalSession_append, messages_append, List.forall_mem_append]
    exact ⟨fun m hm => (hxs.within m hm).mono hys.handles_ge hys.ids_ge, hys.within⟩

theorem grows_nil (h : s.Bounded) : Grows s [] :=
  ⟨h, by simp [finalSession], by simp [finalSession], by simp [finalSession],
    by simp [finalSession], by simp⟩

/-- One write that makes no breakpoint and at most three handles. -/
theorem grows_write (s : Session) (h : t.Bounded)
    (hids : t.breakpoints.nextId = s.breakpoints.nextId)
    (hhandles : s.handles.next ≤ t.handles.next ∧ t.handles.next ≤ s.handles.next + 3) (m : Message)
    (hm : m.Within t.handles.next t.breakpoints.nextId) : Grows s [.write t m] where
  bounded := h
  handles_ge := hhandles.1
  handles_le := hhandles.2
  ids_ge := hids.ge
  ids_le := hids.le.trans (Nat.le_add_right _ _)
  within := List.forall_mem_singleton.2 hm

/-- One write that makes nothing new. -/
theorem grows_note (s : Session) (h : t.Bounded)
    (hids : t.breakpoints.nextId = s.breakpoints.nextId) (hhandles : t.handles = s.handles)
    (m : Message) (hm : m.Within t.handles.next t.breakpoints.nextId) : Grows s [.write t m] :=
  grows_write s h hids (by rw [hhandles]; omega) m hm

/-- The same session but for its phase, cursor, base and program. -/
theorem Bounded.of_eq (h : s.Bounded) (hbreakpoints : t.breakpoints = s.breakpoints)
    (hsource : t.source = s.source) : t.Bounded where
  table := hbreakpoints ▸ h.table
  lines := hsource ▸ h.lines

theorem grows_succeed (h : s.Bounded) (hreq : IsInt64 req.seq) {body : Body}
    (hbody : body.Within s.handles.next s.breakpoints.nextId) : Grows s [s.succeed req body] :=
  grows_note s h rfl rfl (.success req.answered body) ⟨hreq, hbody⟩

/-! ### Coming to a line -/

theorem grows_stop (h : s.Bounded) (reason : StopReason) {hit : Option Nat}
    {verified : Option Breakpoint} (hhit : ∀ id, hit = some id → id < s.breakpoints.nextId)
    (hverified : ∀ bp, verified = some bp → bp.Within s.breakpoints.nextId) :
    Grows s (s.stop reason hit verified) := by
  have hafter : ({ s with phase := .stopped reason } : Session).Bounded := h.of_eq rfl rfl
  have hstopped : Grows s
      [.write { s with phase := .stopped reason } (.event (.stopped reason hit))] :=
    grows_note s hafter rfl rfl (.event (.stopped reason hit)) hhit
  cases verified with
  | none => exact hstopped
  | some bp =>
    have hchanged : Grows { s with phase := .stopped reason }
        [.write { s with phase := .stopped reason } (.event (.breakpointChanged bp))] :=
      grows_note _ hafter rfl rfl (.event (.breakpointChanged bp)) (hverified bp rfl)
    exact hstopped.append hchanged

theorem grows_stopAt (s : Session) (h : t.Bounded) (hhandles : t.handles = s.handles)
    (hids : t.breakpoints.nextId = s.breakpoints.nextId) (hreq : IsInt64 req.seq) (line : Nat)
    (reason : StopReason) {hit : Option Nat} {verified : Option Breakpoint}
    (hhit : ∀ id, hit = some id → id < t.breakpoints.nextId)
    (hverified : ∀ bp, verified = some bp → bp.Within t.breakpoints.nextId) :
    Grows s (t.stopAt req line reason hit verified) := by
  have hstanding : (t.standing line).Bounded := h.of_eq rfl rfl
  have hnext : (t.standing line).handles.next = s.handles.next + 1 := by
    rw [← hhandles]
    exact Handles.next_add _ _
  have hsay : Grows s
      [.write (t.standing line) (.event (.output s!"line: {line}" t.handles.next))] :=
    grows_write s hstanding hids (by omega) _ (by rw [hhandles, hnext]; exact Nat.lt_succ_self _)
  have hanswer : Grows (t.standing line) [(t.standing line).succeed req .nothing] :=
    grows_succeed hstanding hreq trivial
  exact (hsay.append hanswer).append (grows_stop hstanding reason hhit hverified)

/-! ### Running on -/

theorem within_scan (h : s.Bounded) {direction : Direction} {p : Probe} {stop : Stop}
    (hscan : s.scan direction p = some stop) :
    stop.table.Within ∧ stop.table.nextId = s.breakpoints.nextId ∧
      (∀ id, stop.halt.hitId = some id → id < s.breakpoints.nextId) ∧
      ∀ bp, stop.halt.verified = some bp → bp.Within s.breakpoints.nextId := by
  obtain ⟨line, halt, table⟩ := stop
  cases probe_cases (probe_of_scan hscan) with
  | step _ _ => exact ⟨h.table, rfl, nofun, nofun⟩
  | exception _ _ _ => exact ⟨h.table, rfl, nofun, nofun⟩
  | @breakpoint text hit _ _ hits =>
    obtain ⟨path, -, hhit⟩ := Option.bind_eq_some_iff.1 hits
    obtain ⟨htable, hids, hid, hverified⟩ := h.table.hit hhit
    refine ⟨htable, hids, fun id heq => ?_, hverified⟩
    cases heq
    exact hid

theorem grows_resume (s : Session) (h : t.Bounded) (hhandles : t.handles = s.handles)
    (hids : t.breakpoints.nextId = s.breakpoints.nextId) (hreq : IsInt64 req.seq)
    (direction : Direction) (p : Probe) : Grows s (t.resume req direction p) := by
  have hrunning : t.running.Bounded := h.of_eq rfl rfl
  generalize hacts : t.resume req direction p = acts
  cases hacts ▸ resume_cases t req direction p with
  | @halted _ _ stop scans =>
    obtain ⟨htable, hnext, hhit, hverified⟩ := within_scan hrunning scans
    have hreached : (t.reached stop.table).Bounded := ⟨htable, h.lines⟩
    refine grows_stopAt s hreached hhandles (hnext.trans hids) hreq _ _ ?_ ?_
    · exact fun id heq => hnext.symm ▸ hhit id heq
    · exact fun bp heq => hnext.symm ▸ hverified bp heq
  | ended _ =>
    have hanswer : Grows s [t.running.succeed req .nothing] :=
      grows_note s hrunning hids hhandles (.success req.answered .nothing) ⟨hreq, trivial⟩
    have hafter : ({ t.running with phase := .terminated } : Session).Bounded := h.of_eq rfl rfl
    have hend : Grows t.running [t.running.terminate] :=
      grows_note t.running hafter rfl rfl (.event .terminated) trivial
    exact hanswer.append hend
  | rewound _ => exact grows_stopAt s hrunning hhandles hids hreq _ _ nofun nofun

/-! ### Files -/

theorem lines_of_load (hfiles : FilesFit files) {path : String} {source : Source}
    (h : load files path = .ok source) : ∀ line ∈ source.lines, line.length < memoryLimit := by
  unfold load Files.View.readText at h
  cases hread : files.read path with
  | error e => simp [hread] at h
  | ok bytes =>
    rw [hread] at h
    cases hdecode : Text.decode? bytes with
    | none => simp [hdecode] at h
    | some text =>
      simp only [hdecode, Except.ok.injEq] at h
      subst h
      intro line hline
      exact ((Text.length_le_of_mem_lines hline).trans (Text.length_le_of_decode? hdecode)).trans_lt
        (hfiles path bytes hread)

/-! ### All requests -/

theorem length_traceWords_lt (h : s.Bounded) : s.traceWords.length < memoryLimit := by
  refine (Text.length_blankWords_le _).trans_lt ?_
  cases hline : s.source.get? s.traceLine with
  | none => decide
  | some line => exact h.lines line (List.mem_of_getElem? hline)

theorem within_stackTrace (h : s.Bounded) (program : Files.Path) (path : String)
    (args : StackTraceArguments) :
    Body.Within s.handles.next s.breakpoints.nextId
      (.stackTrace (s.shownFrames program path args) s.traceWords.length) := by
  refine ⟨length_traceWords_lt h, fun frame hframe => ?_⟩
  obtain ⟨i, hi, rfl⟩ := List.mem_map.1 hframe
  exact ⟨lt_total_of_mem_window hi, isInt64_toClient s.base s.traceLine⟩

theorem within_makeScopes (frameId : Int) (kinds : List (String × String × Bool))
    (handles : Handles) :
    (makeScopes frameId kinds handles).2.next = handles.next + kinds.length ∧
      ∀ scope ∈ (makeScopes frameId kinds handles).1,
        scope.handle < (makeScopes frameId kinds handles).2.next := by
  induction kinds generalizing handles with
  | nil => simp [makeScopes]
  | cons kind kinds ih =>
    obtain ⟨name, label, expensive⟩ := kind
    obtain ⟨hnext, hscopes⟩ := ih (handles.add (label ++ "_" ++ toString frameId))
    rw [Handles.next_add] at hnext
    simp only [makeScopes, List.length_cons]
    refine ⟨by omega, List.forall_mem_cons.2 ⟨?_, hscopes⟩⟩
    show handles.next < _
    omega

theorem grows_scopes (h : s.Bounded) (hreq : IsInt64 req.seq) (args : ScopesArguments) :
    Grows s (s.scopes req args) := by
  obtain ⟨hnext, hscopes⟩ := within_makeScopes args.frameId scopeKinds s.handles
  have hlength : scopeKinds.length = 3 := rfl
  have hafter : ({ s with handles := (makeScopes args.frameId scopeKinds s.handles).2 } :
      Session).Bounded := h.of_eq rfl rfl
  refine grows_write s hafter rfl ?_ (.success req.answered (.scopes _)) ⟨hreq, hscopes⟩
  show s.handles.next ≤ (makeScopes args.frameId scopeKinds s.handles).2.next ∧
    (makeScopes args.frameId scopeKinds s.handles).2.next ≤ s.handles.next + 3
  omega

theorem grows_listVariables (h : s.Bounded) (hreq : IsInt64 req.seq) (args : VariablesArguments) :
    Grows s (s.listVariables req args) := by
  unfold listVariables
  split
  · exact grows_succeed h hreq (by simp [Body.Within])
  · rename_i label _
    have hnext : (s.handles.add objectLabel).next = s.handles.next + 1 := Handles.next_add _ _
    have hafter : ({ s with handles := s.handles.add objectLabel } : Session).Bounded :=
      h.of_eq rfl rfl
    refine grows_write s hafter rfl ?_ (.success req.answered (.variables _)) ⟨hreq, ?_⟩
    · show s.handles.next ≤ (s.handles.add objectLabel).next ∧
        (s.handles.add objectLabel).next ≤ s.handles.next + 3
      omega
    · show ∀ var ∈ variablesOf label s.handles.next, var.handle < (s.handles.add objectLabel).next
      simp only [variablesOf, List.forall_mem_cons]
      refine ⟨?_, ?_, ?_, ?_, by simp⟩ <;> simp only [hnext] <;> omega

theorem grows_setBreakpoints (h : s.Bounded) (hreq : IsInt64 req.seq) (key : SourceKey)
    (source : Source) {clients : List Int} (hclients : ∀ client ∈ clients, IsInt64 client) :
    Grows s [({ s with breakpoints := (s.breakpoints.set key source clients s.base).2 }).succeed req
      (.breakpoints (s.breakpoints.set key source clients s.base).1)] where
  bounded := ⟨h.table.set key source hclients s.base, h.lines⟩
  handles_ge := Nat.le_refl _
  handles_le := Nat.le_add_right _ _
  ids_ge := Nat.le_add_right _ _
  ids_le := by
    have hlength := congrArg List.length
      (BreakpointTable.ids_set s.breakpoints key source clients s.base)
    rw [List.length_map, List.length_range'] at hlength
    simp only [succeed, messages_write, messages_nil, List.flatMap_cons, List.flatMap_nil,
      List.append_nil, Message.shown, Body.shown, hlength]
    exact Nat.le_refl _
  within := List.forall_mem_singleton.2 ⟨hreq, BreakpointTable.within_create hclients⟩

theorem grows_initializeAdapter (h : s.Bounded) (hreq : IsInt64 req.seq)
    (args : InitializeArguments) : Grows s (s.initializeAdapter req args) := by
  unfold initializeAdapter
  generalize hafter : ({ s with
    base := ⟨args.linesStartAtOne⟩
    phase := if s.phase = .uninitialized then .initialized else s.phase } : Session) = after
  have hbounded : after.Bounded := hafter ▸ h.of_eq (by rfl) (by rfl)
  have hevent : Grows s [.write after (.event .initialized)] :=
    grows_note s hbounded (hafter ▸ rfl) (hafter ▸ rfl) (.event .initialized) trivial
  exact hevent.append (grows_succeed hbounded hreq trivial)

theorem grows_launch (h : s.Bounded) (hfiles : FilesFit files) (hreq : IsInt64 req.seq)
    {args : LaunchArguments} {acts : List Act} (hplan : s.launch files req args = .ok acts) :
    Grows s acts := by
  unfold launch at hplan
  split at hplan
  · cases hplan
  · rename_i path _
    split at hplan
    · cases hplan
    · rename_i source hsource
      cases hplan
      have hloaded : (s.loaded (files.sourcePath path) source).Bounded :=
        ⟨h.table, lines_of_load hfiles hsource⟩
      have hstart : Grows s ((s.loaded (files.sourcePath path) source).start req args) := by
        unfold start
        split
        · exact grows_stopAt s hloaded rfl rfl hreq _ _ nofun nofun
        · exact grows_resume s hloaded rfl rfl hreq _ _
      cases htrace : args.trace with
      | false => exact hstart
      | true => exact ⟨hstart.bounded, hstart.handles_ge, hstart.handles_le, hstart.ids_ge,
          hstart.ids_le, hstart.within⟩

theorem grows_step (h : s.Bounded) (hreq : IsInt64 req.seq) {direction : Direction} {p : Probe}
    {acts : List Act} (hplan : s.step req direction p = .ok acts) : Grows s acts := by
  unfold step at hplan
  split at hplan
  · cases hplan
    exact grows_resume s h rfl rfl hreq direction p
  · split at hplan <;> cases hplan

theorem grows_terminate (h : s.Bounded) (hreq : IsInt64 req.seq) :
    Grows s (s.succeed req .nothing :: if s.isLive then [s.terminate] else []) := by
  have hanswer : Grows s [s.succeed req .nothing] := grows_succeed h hreq trivial
  split
  · have hafter : ({ s with phase := .terminated } : Session).Bounded := h.of_eq rfl rfl
    have hend : Grows s [s.terminate] := grows_note s hafter rfl rfl (.event .terminated) trivial
    exact hanswer.append hend
  · exact hanswer

theorem grows_disconnect (h : s.Bounded) (hreq : IsInt64 req.seq) (link : Link) :
    Grows s [({ s with phase := .disconnected, link }).succeed req .nothing] := by
  have hafter : ({ s with phase := .disconnected, link } : Session).Bounded := h.of_eq rfl rfl
  exact grows_note s hafter rfl rfl (.success req.answered .nothing) ⟨hreq, trivial⟩

/-- **What a request adds**: its messages are in range, and its counters move on by no more than
they show. -/
theorem grows_reaction (h : s.Bounded) (hfiles : FilesFit files) (hreq : IsInt64 req.seq)
    (harguments : req.arguments.wellFormed = true) : Grows s (s.reaction files req) := by
  unfold reaction
  cases hplan : s.plan files req with
  | error obstacle =>
    cases hindered_of_plan hplan with
    | refused why => exact grows_note s h rfl rfl (.failure req.answered why.message) hreq
    | panicked panics => exact grows_nil h
  | ok acts =>
    dsimp only
    unfold plan at hplan
    split at hplan
    · cases hplan
    · rename_i command decodes
      cases command with
      | initializeAdapter args => cases hplan; exact grows_initializeAdapter h hreq args
      | launch args => exact grows_launch h hfiles hreq hplan
      | setBreakpoints args =>
        dsimp only [setBreakpoints] at hplan
        split at hplan
        · cases hplan
        · split at hplan
          · cases hplan
          · cases hplan
            exact grows_setBreakpoints h hreq _ _ (clientLines_bounds harguments decodes)
      | configurationDone | threads | evaluate => cases hplan; exact grows_succeed h hreq trivial
      | stackTrace args =>
        have hplan : s.stackTrace req args = .ok acts := hplan
        generalize s.stackTrace req args = result, s.stackTrace_cases req args = traced at hplan
        cases traced with
        | refused | panicked => cases hplan
        | told => cases hplan; exact grows_succeed h hreq (within_stackTrace h _ _ _)
      | scopes args => cases hplan; exact grows_scopes h hreq args
      | «variables» args => cases hplan; exact grows_listVariables h hreq args
      | continueForward | continueBackward | stepForward | stepBackward =>
        exact grows_step h hreq hplan
      | terminate => cases hplan; exact grows_terminate h hreq
      | disconnect =>
        cases hplan
        exact grows_disconnect h hreq _

theorem grows_reportActs (h : s.Bounded) (events : List Link.Event) :
    Grows s (Run.reportActs s events) := by
  induction events generalizing s with
  | nil => exact grows_nil h
  | cons event rest ih =>
    have hafter : (s.sayLine event.line).1.Bounded := h.of_eq rfl rfl
    have hnext : (s.sayLine event.line).1.handles.next = s.handles.next + 1 := Handles.next_add _ _
    have hsay : Grows s [(s.sayLine event.line).2] :=
      grows_write s hafter rfl (by omega) (.event (.output event.line s.handles.next))
        (by rw [hnext]; exact Nat.lt_succ_self _)
    exact hsay.append (ih hafter)

end Session

/-! ## Runs -/

/-- What a turn brings: a message that was read from a text, and files that fit into memory. -/
structure Turn.Fits (turn : Turn) : Prop where
  message : ∀ message, turn.inbound = .ok message → message.wellFormed = true
  files : FilesFit turn.files

namespace Run

theorem request?_bounds {message : Json} {req : Request} (hmessage : message.wellFormed = true)
    (h : request? message = some req) : IsInt64 req.seq ∧ req.arguments.wellFormed = true := by
  unfold request? at h
  split at h
  · cases hdecode : Request.ofJson message with
    | error mismatch => rw [hdecode] at h; cases h
    | ok decoded =>
      rw [hdecode] at h
      cases h
      exact Request.ofJson_bounds hmessage hdecode
  · cases h

/-- What a run has written bounds its counters, and they bound the numbers it has written. -/
structure Bounded (run : Run) : Prop where
  session : run.session.Bounded
  handles : run.session.handles.next ≤ 1000 + 3 * (attempted run.entries).length
  ids : run.session.breakpoints.nextId ≤
    1000 + ((attempted run.entries).flatMap Message.shown).length
  within : ∀ m ∈ attempted run.entries,
    m.Within run.session.handles.next run.session.breakpoints.nextId

theorem bounded_start (link : Link) (queue : List Link.Event) :
    Bounded { Run.start link with queue } where
  session :=
    { table := fun key bp hbp => absurd hbp List.not_mem_nil
      lines := fun line hline => absurd hline List.not_mem_nil }
  handles := Nat.le_refl 1000
  ids := Nat.le_refl 1000
  within := by simp [Run.start, attempted]

/-- Hearing and queueing change nothing here. -/
theorem Bounded.of_eq {run next : Run} (h : run.Bounded) (hsession : next.session = run.session)
    (hattempted : attempted next.entries = attempted run.entries) : next.Bounded := by
  obtain ⟨hbounded, hhandles, hids, hwithin⟩ := h
  rw [← hsession] at hbounded hhandles hids hwithin
  rw [← hattempted] at hhandles hids hwithin
  exact ⟨hbounded, hhandles, hids, hwithin⟩

theorem bounded_performed {run : Run} (h : run.Bounded) {acts : List Act}
    (hacts : run.session.Grows acts) : (run.performed acts).Bounded := by
  have hattempted : attempted (run.performed acts).entries =
      attempted run.entries ++ messages acts := by
    rw [performed, attempted_append, attempted_recorded]
  obtain ⟨hbounded, hhandles, hids, hwithin⟩ := h
  refine ⟨hacts.bounded, ?_, ?_, ?_⟩
  · have := hacts.handles_le
    rw [hattempted, List.length_append]
    exact this.trans (by omega)
  · have := hacts.ids_le
    rw [hattempted, List.flatMap_append, List.length_append]
    exact this.trans (by omega)
  · rw [hattempted, List.forall_mem_append]
    exact ⟨fun m hm => (hwithin m hm).mono hacts.handles_ge hacts.ids_ge, hacts.within⟩

theorem bounded_drained {run : Run} (h : run.Bounded) : run.drained.Bounded := by
  have hempty : ({ run with queue := [] } : Run).Bounded := h.of_eq rfl rfl
  exact bounded_performed hempty (Session.grows_reportActs h.session run.queue)

theorem bounded_heard {run : Run} (h : run.Bounded) (turn : Turn) (message : Json) :
    (run.heard turn message).Bounded := by
  refine (bounded_drained h).of_eq rfl ?_
  rw [heard, attempted_append]
  exact List.append_nil _

/-- **One turn** keeps the bounds, while no write fails. -/
theorem bounded_serve {run : Run} (h : run.Bounded) {turn : Turn} (hturn : turn.Fits) :
    (run.serve Faults.none turn).1.Bounded := by
  cases hread : turn.inbound with
  | error cause =>
    rw [serve_none_error run hread]
    exact (bounded_drained h).of_eq rfl rfl
  | ok message =>
    have hheard := bounded_heard h turn message
    cases hreq : request? message with
    | none => rwa [serve_none_other run hread hreq]
    | some req =>
      by_cases panics : run.session.Panics req
      · rwa [serve_none_panic run hread hreq panics]
      rw [serve_none_request run hread hreq panics]
      obtain ⟨hseq, harguments⟩ := request?_bounds (hturn.message message hread) hreq
      exact bounded_drained (bounded_performed hheard
        (Session.grows_reaction hheard.session hturn.files hseq harguments))

/-- **A whole run** keeps the bounds. -/
theorem bounded_serveAll {run : Run} (h : run.Bounded) {turns : List Turn}
    (hturns : ∀ turn ∈ turns, turn.Fits) : (run.serveAll Faults.none turns).1.Bounded := by
  induction turns generalizing run with
  | nil => exact h
  | cons turn rest ih =>
    obtain ⟨hturn, hrest⟩ := List.forall_mem_cons.1 hturns
    have hserve := bounded_serve h hturn
    unfold serveAll
    split
    · rename_i next heq
      rw [heq] at hserve
      exact ih hserve hrest
    · exact hserve

end Run

end TabTools.Debug
