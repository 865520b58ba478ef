import Mathlib.Data.List.Forall2
import Mathlib.Data.List.GetD
import Mathlib.Data.List.Intervals
import Mathlib.Data.List.Sort
import TabTools.Proofs.Debug.Crash
import TabTools.Proofs.Files

/-!
# Stack traces

Every word of the line that a program has come to is a frame. A client may ask for all of them, or
for the frames from one on, as many as it wants (`StackTraceArguments.Wants`).

**Theorem (`pages_reassemble_iff`).** However a client asks, it is told how many words there are, and
it gets the frames that it wants and that exist (`TraceOf`). If it asks for one page after the other,
as long as there are frames left (`pageStarts`), then what it gets is the whole stack trace. This is so
exactly if the path of the program has a text; if it has none, asking for a stack trace crashes the
session.

**Windows** (`window_eq`). The frames that are shown for a request are those of the numbers below the
number of words that it wants.

**Pages** (`flatMap_pages`). A page ends where the next one starts, or at the last frame.

**Runs** (`serve_stackTrace`). A stack trace changes nothing that other stack traces depend on, and
neither do the reports about players that come between them.
-/

namespace TabTools.Debug

/-! ## What clients ask for and get -/

/-- Whether a request asks for frame `i`. A length of zero is none. -/
def StackTraceArguments.Wants (args : StackTraceArguments) (i : Nat) : Prop :=
  args.startFrame.getD 0 ≤ i ∧
    ∀ levels ∈ args.levels, 0 < levels → i < args.startFrame.getD 0 + levels

instance (args : StackTraceArguments) (i : Nat) : Decidable (args.Wants i) :=
  inferInstanceAs (Decidable (_ ∧ _))

/-- A turn asks for a stack trace with the given first frame and length. -/
def Turn.Asks (turn : Turn) (start levels : Option Nat) : Prop :=
  ∃ args : StackTraceArguments, turn.command? = some (.stackTrace args) ∧
    args.startFrame = start ∧ args.levels = levels

/-- The first frames of pages of one size: zero and on by the size, while there are frames left. -/
def pageStarts (size total : Nat) : List Nat := (List.range total).filter (size ∣ ·)

/-- The stack trace in a message, and how many frames there are in all. -/
def Message.trace? : Message → Option (List Frame × Nat)
  | .success _ (.stackTrace frames total) => some (frames, total)
  | _ => none

/-- The stack traces delivered among entries. -/
def traces (entries : List Entry) : List (List Frame × Nat) :=
  entries.filterMap fun
    | .sent _ m true => m.trace?
    | _ => none

/-- The stack trace of a line with some words, as far as a request wants it. -/
structure TraceOf (words : List (List Char)) (line : Int) (program : Files.Path)
    (args : StackTraceArguments) (trace : List Frame × Nat) : Prop where
  total : trace.2 = words.length
  ids : trace.1.map Frame.id = (List.range words.length).filter (args.Wants ·)
  named : ∀ f ∈ trace.1, ∃ word, words[f.id]? = some word ∧
    f.name = String.ofList word ++ "(" ++ toString f.id ++ ")"
  line : ∀ f ∈ trace.1, f.line = line
  file : ∀ f ∈ trace.1, program.text? = some f.path ∧
    f.fileName.map (fun name => Text.encode name.toList) = Files.fileName? program

/-! ## Windows -/

/-- `frameWindow` in 64 bits, where the sum saturates. -/
def frameWindow64 (total : Nat) (start levels : Option Nat) : Nat × Nat :=
  let first := min (start.getD 0) total
  match levels with
  | none => (first, total)
  | some 0 => (first, total)
  | some n => (first, min (min (first + n) 0xFFFFFFFFFFFFFFFF) total)

theorem frameWindow64_eq {total : Nat} (h : total ≤ 0xFFFFFFFFFFFFFFFF) (start levels : Option Nat) :
    frameWindow64 total start levels = frameWindow total start levels := by
  rcases levels with _ | _ | n
  · rfl
  · rfl
  · simp only [frameWindow64, frameWindow, Nat.min_assoc, Nat.min_eq_right h]

/-- The numbers of a window are those below the total that a request wants. -/
theorem mem_window_iff (total : Nat) (args : StackTraceArguments) (i : Nat) :
    (frameWindow total args.startFrame args.levels).1 ≤ i ∧
        i < (frameWindow total args.startFrame args.levels).2 ↔ i < total ∧ args.Wants i := by
  obtain ⟨threadId, start, levels⟩ := args
  rcases levels with _ | _ | n
  · simp only [frameWindow, StackTraceArguments.Wants, Option.mem_def, reduceCtorEq, false_imp_iff,
      implies_true, and_true]
    omega
  · simp only [frameWindow, StackTraceArguments.Wants, Option.mem_def, Option.some.injEq,
      forall_eq', Nat.lt_irrefl, false_imp_iff, and_true]
    omega
  · simp only [frameWindow, StackTraceArguments.Wants, Option.mem_def, Option.some.injEq,
      forall_eq', Nat.zero_lt_succ, true_imp_iff]
    omega

/-- **The window of a request** are the numbers that the request wants. -/
theorem window_eq (total : Nat) (args : StackTraceArguments) :
    List.Ico (frameWindow total args.startFrame args.levels).1
        (frameWindow total args.startFrame args.levels).2 =
      (List.range total).filter (args.Wants ·) := by
  -- Both lists go up, so it is enough that they have the same numbers.
  refine (List.Ico.pairwise_lt _ _).eq_of_mem_iff (List.pairwise_lt_range.filter _) fun i => ?_
  rw [List.Ico.mem, mem_window_iff, List.mem_filter, List.mem_range, decide_eq_true_eq]

/-! ## Pages -/

/-- The starts of pages from one start on: it and those behind its page. -/
theorem filter_dvd_Ico {size start total : Nat} (hsize : 0 < size) (hstart : size ∣ start)
    (h : start < total) :
    (List.Ico start total).filter (size ∣ ·) =
      start :: (List.Ico (start + size) total).filter (size ∣ ·) := by
  refine ((List.Ico.pairwise_lt _ _).filter _).eq_of_mem_iff (List.pairwise_cons.2 ⟨?_, ?_⟩) ?_
  · intro i hi
    have := (List.Ico.mem.1 (List.mem_filter.1 hi).1).1
    omega
  · exact (List.Ico.pairwise_lt _ _).filter _
  · intro i
    simp only [List.mem_filter, List.Ico.mem, List.mem_cons, decide_eq_true_eq]
    constructor
    · rintro ⟨⟨hle, hlt⟩, hdvd⟩
      by_cases heq : i = start
      · exact .inl heq
      · -- The next multiple is a whole size away.
        have := Nat.le_of_dvd (by omega) (Nat.dvd_sub hdvd hstart)
        exact .inr ⟨by omega, hdvd⟩
    · rintro (rfl | ⟨⟨hle, hlt⟩, hdvd⟩)
      · exact ⟨⟨Nat.le_refl i, h⟩, hstart⟩
      · exact ⟨by omega, hdvd⟩

/-- **Pages one after the other** have every number once, in order. -/
theorem flatMap_pages {size start total : Nat} (hsize : 0 < size) (hstart : size ∣ start) :
    ((List.Ico start total).filter (size ∣ ·)).flatMap
        (fun first => List.Ico first (min (first + size) total)) = List.Ico start total := by
  by_cases h : start < total
  · rw [filter_dvd_Ico hsize hstart h, List.flatMap_cons,
      flatMap_pages hsize ((Nat.dvd_add_right hstart).2 (Nat.dvd_refl size))]
    by_cases hlast : start + size ≤ total
    · rw [Nat.min_eq_left hlast, List.Ico.append_consecutive (Nat.le_add_right start size) hlast]
    · rw [Nat.min_eq_right (by omega), List.Ico.eq_nil_of_le (n := start + size) (by omega),
        List.append_nil]
  · rw [List.Ico.eq_nil_of_le (by omega)]
    rfl
termination_by total - start

/-! ## Answers -/

namespace Session

variable (s : Session) (program : Files.Path) (path : String)

/-- The stack trace of a program, as far as a request wants it. -/
def traceFor (args : StackTraceArguments) : List Frame × Nat :=
  (((List.range s.traceWords.length).filter (args.Wants ·)).map (s.frameOf program path),
    s.traceWords.length)

theorem traceOf_traceFor (args : StackTraceArguments) (htext : program.text? = some path) :
    TraceOf s.traceWords (s.base.toClient s.traceLine) program args
      (s.traceFor program path args) := by
  have hframe : ∀ f ∈ (s.traceFor program path args).1,
      f.id < s.traceWords.length ∧ f = s.frameOf program path f.id := by
    intro f hf
    obtain ⟨i, hi, rfl⟩ := List.mem_map.1 hf
    exact ⟨List.mem_range.1 (List.mem_filter.1 hi).1, rfl⟩
  refine ⟨rfl, ?_, ?_, ?_, ?_⟩
  · rw [traceFor, List.map_map]
    exact List.map_id _
  · intro f hf
    obtain ⟨hid, heq⟩ := hframe f hf
    have hname := congrArg Frame.name heq
    rw [frameOf, List.getD_eq_getElem _ _ hid] at hname
    exact ⟨s.traceWords[f.id], List.getElem?_eq_getElem hid, hname⟩
  · intro f hf
    rw [(hframe f hf).2, frameOf]
  · intro f hf
    rw [(hframe f hf).2]
    exact ⟨htext, Files.encode_fileName? htext⟩

/-- A page of the stack trace of a program. -/
def page (size start : Nat) : List Frame × Nat :=
  ((List.Ico start (min (start + size) s.traceWords.length)).map (s.frameOf program path),
    s.traceWords.length)

theorem traceFor_page {args : StackTraceArguments} {start size : Nat} (hsize : 0 < size)
    (hstart : args.startFrame = some start) (hlevels : args.levels = some size) :
    s.traceFor program path args = s.page program path size start := by
  have hwants : (List.range s.traceWords.length).filter (args.Wants ·) =
      List.Ico start (min (start + size) s.traceWords.length) := by
    refine (List.pairwise_lt_range.filter _).eq_of_mem_iff (List.Ico.pairwise_lt _ _) fun i => ?_
    simp only [List.mem_filter, List.mem_range, List.Ico.mem, StackTraceArguments.Wants, hstart,
      hlevels, decide_eq_true_eq, Option.getD_some, Option.mem_def, Option.some.injEq, forall_eq']
    omega
  rw [traceFor, hwants, page]

theorem traceFor_whole {args : StackTraceArguments} (hstart : args.startFrame = none)
    (hlevels : args.levels = none) :
    s.traceFor program path args =
      ((List.range s.traceWords.length).map (s.frameOf program path), s.traceWords.length) := by
  have hwants : (List.range s.traceWords.length).filter (args.Wants ·) =
      List.range s.traceWords.length :=
    List.filter_eq_self.2 fun i _ => by simp [StackTraceArguments.Wants, hstart, hlevels]
  rw [traceFor, hwants]

/-- The frames of all pages are all frames. -/
theorem flatMap_page {size : Nat} (hsize : 0 < size) :
    ((pageStarts size s.traceWords.length).map (s.page program path size)).flatMap (·.1) =
      (List.range s.traceWords.length).map (s.frameOf program path) := by
  rw [List.flatMap_map, ← List.Ico.zero_bot, ← flatMap_pages hsize (Nat.dvd_zero size),
    List.map_flatMap, List.Ico.zero_bot]
  rfl

variable {s program path}

theorem reaction_stackTrace {files : Files.View} {req : Request} {args : StackTraceArguments}
    (hcommand : Command.ofRequest req = .ok (.stackTrace args)) (hprogram : s.program = some program)
    (htext : program.text? = some path) :
    s.reaction files req = [s.succeed req
      (.stackTrace (s.traceFor program path args).1 (s.traceFor program path args).2)] := by
  have hplan : s.plan files req = s.stackTrace req args := by simp only [plan, hcommand]
  rw [reaction, hplan]
  generalize s.stackTrace req args = result, s.stackTrace_cases req args = traced
  cases traced with
  | refused absent =>
    rw [hprogram] at absent
    cases absent
  | panicked launched noText =>
    obtain rfl := Option.some.inj (hprogram.symm.trans launched)
    rw [htext] at noText
    cases noText
  | told launched text =>
    obtain rfl := Option.some.inj (hprogram.symm.trans launched)
    obtain rfl := Option.some.inj (htext.symm.trans text)
    rw [traceFor, ← window_eq]
    rfl

end Session

/-! ## Runs -/

theorem traces_append (xs ys : List Entry) : traces (xs ++ ys) = traces xs ++ traces ys :=
  List.filterMap_append

namespace Run

theorem traces_performed (run : Run) (acts : List Act) :
    traces (run.performed acts).entries =
      traces run.entries ++ (messages acts).filterMap Message.trace? :=
  filterMap_performed (fun _ _ => rfl) rfl run acts

theorem traces_drained (run : Run) : traces run.drained.entries = traces run.entries :=
  filterMap_drained (fun _ _ => rfl) rfl (fun _ _ => rfl) run

theorem traces_heard (run : Run) (turn : Turn) (message : Json) :
    traces (run.heard turn message).entries = traces run.entries := by
  rw [heard, traces_append, traces_drained]
  exact List.append_nil _

/-- From one run to another nothing but the given stack traces is told of stack traces, and the
session gets new handles at most. -/
structure Told (run next : Run) (told : List (List Frame × Nat)) : Prop where
  traces_eq : traces next.entries = traces run.entries ++ told
  session : ∃ handles, next.session = { run.session with handles }

theorem Told.refl (run : Run) : run.Told run [] :=
  ⟨(List.append_nil _).symm, run.session.handles, rfl⟩

theorem Told.trans {run next last : Run} {first rest : List (List Frame × Nat)}
    (h : run.Told next first) (hrest : next.Told last rest) : run.Told last (first ++ rest) := by
  obtain ⟨htraces, _, hsession⟩ := h
  obtain ⟨hmore, handles, hlast⟩ := hrest
  refine ⟨by rw [hmore, htraces, List.append_assoc], handles, ?_⟩
  rw [hlast, hsession]

theorem told_drained (run : Run) : run.Told run.drained [] :=
  ⟨by rw [traces_drained, List.append_nil], run.session_drained⟩

variable {run : Run} {program : Files.Path} {path : String} {turn : Turn}
  {args : StackTraceArguments}

/-- **A request for a stack trace** is answered with one, if the path of the program has a text. -/
theorem serve_stackTrace (hprogram : run.session.program = some program)
    (htext : program.text? = some path) (hturn : turn.command? = some (.stackTrace args)) :
    ∃ next, run.serve Faults.none turn = (next, .goOn) ∧
      run.Told next [run.session.traceFor program path args] := by
  obtain ⟨message, req, hread, hreq, hcommand⟩ := Turn.request_of_command hturn
  have hname : req.command ≠ "disconnect" := by
    rw [Command.ofRequest_name hcommand]
    exact fun h => absurd h (by decide : "stackTrace" ≠ "disconnect")
  have hsound : ¬ run.session.Panics req := by
    rintro ⟨_, launched, -, hlaunched, hnone⟩
    obtain rfl := Option.some.inj (hprogram.symm.trans hlaunched)
    rw [htext] at hnone
    cases hnone
  refine ⟨_, by rw [serve_none_request run hread hreq hsound, outcomeOf, if_neg hname], ?_⟩
  obtain ⟨handles, hheard⟩ : ∃ handles,
      (run.heard turn message).session = { run.session with handles } := run.session_drained
  have hreaction : (run.heard turn message).session.reaction turn.files req =
      [(run.heard turn message).session.succeed req
        (.stackTrace (run.session.traceFor program path args).1
          (run.session.traceFor program path args).2)] := by
    have hloaded : (run.heard turn message).session.program = some program := by
      rw [hheard, hprogram]
    rw [Session.reaction_stackTrace hcommand hloaded htext, hheard]
    rfl
  have hanswered : run.Told ((run.heard turn message).performed
      ((run.heard turn message).session.reaction turn.files req))
      [run.session.traceFor program path args] := by
    constructor
    · rw [traces_performed, traces_heard, hreaction]
      rfl
    · rw [hreaction]
      exact ⟨handles, hheard⟩
  simpa using hanswered.trans (told_drained _)

/-- If it has none, the session crashes and nothing is told. -/
theorem serve_stackTrace_panic (hprogram : run.session.program = some program)
    (htext : program.text? = none) (hturn : turn.command? = some (.stackTrace args)) :
    ∃ next, run.serve Faults.none turn = (next, .panicked) ∧
      traces next.entries = traces run.entries := by
  obtain ⟨message, req, hread, hreq, hcommand⟩ := Turn.request_of_command hturn
  exact ⟨_, serve_none_panic run hread hreq ⟨args, program, hcommand, hprogram, htext⟩,
    traces_heard run turn message⟩

/-- **Pages asked for one after the other** are of the same session. -/
theorem serveAll_pages (hprogram : run.session.program = some program)
    (htext : program.text? = some path) {size : Nat} (hsize : 0 < size) {pages : List Turn}
    {starts : List Nat}
    (hpages : List.Forall₂ (fun page start => page.Asks (some start) (some size)) pages starts) :
    ∃ next, serveAll Faults.none run pages = (next, .goOn) ∧
      run.Told next (starts.map (run.session.page program path size)) := by
  induction hpages generalizing run with
  | nil => exact ⟨run, rfl, .refl run⟩
  | cons hpage _ ih =>
    obtain ⟨args, hturn, hstart, hlevels⟩ := hpage
    obtain ⟨second, hserve, htold⟩ := serve_stackTrace hprogram htext hturn
    rw [Session.traceFor_page _ program path hsize hstart hlevels] at htold
    obtain ⟨handles, hsession⟩ := htold.session
    have hprogram' : second.session.program = some program := by rw [hsession, hprogram]
    have hsame : second.session.page program path size = run.session.page program path size := by
      rw [hsession]
      rfl
    obtain ⟨last, hlast, hrest⟩ := ih hprogram'
    rw [hsame] at hrest
    exact ⟨last, by rw [serveAll_goOn hserve, hlast], htold.trans hrest⟩

/-- A client is told all stack traces of a line with some words: whatever it asks for, and whole if
it asks for pages of one size, one after the other as long as there are frames left. -/
structure TellsTraces (run : Run) (words : List (List Char)) (line : Int) (program : Files.Path) :
    Prop where
  answered : ∀ turn args, turn.command? = some (.stackTrace args) →
    ∃ next trace, run.serve Faults.none turn = (next, .goOn) ∧
      traces next.entries = traces run.entries ++ [trace] ∧ TraceOf words line program args trace
  reassembled : ∀ size > 0, ∀ whole pages, whole.Asks none none →
    List.Forall₂ (fun page start => page.Asks (some start) (some size)) pages
      (pageStarts size words.length) →
    ∃ atOnce all last parts,
      run.serve Faults.none whole = (atOnce, .goOn) ∧
      traces atOnce.entries = traces run.entries ++ [all] ∧
      Run.serveAll Faults.none run pages = (last, .goOn) ∧
      traces last.entries = traces run.entries ++ parts ∧
      (∀ part ∈ parts, part.2 = words.length) ∧ parts.flatMap (·.1) = all.1

theorem tellsTraces (hprogram : run.session.program = some program)
    (htext : program.text? = some path) :
    run.TellsTraces run.session.traceWords (run.session.base.toClient run.session.traceLine)
      program := by
  constructor
  · intro turn args hturn
    obtain ⟨next, hserve, htold⟩ := serve_stackTrace hprogram htext hturn
    exact ⟨next, _, hserve, htold.traces_eq,
      run.session.traceOf_traceFor program path args htext⟩
  · rintro size hsize whole pages ⟨args, hwhole, hstart, hlevels⟩ hpages
    obtain ⟨atOnce, hserve, htold⟩ := serve_stackTrace hprogram htext hwhole
    obtain ⟨last, hserveAll, hparts⟩ := serveAll_pages hprogram htext hsize hpages
    refine ⟨atOnce, _, last, _, hserve, htold.traces_eq, hserveAll, hparts.traces_eq, ?_, ?_⟩
    · intro part hpart
      obtain ⟨start, -, rfl⟩ := List.mem_map.1 hpart
      rfl
    · rw [Session.traceFor_whole _ program path hstart hlevels]
      exact run.session.flatMap_page program path hsize

/-- A request for a whole stack trace. -/
def askWhole : Json :=
  .obj [("command", .str "stackTrace"), ("seq", .int 2), ("type", .str "request")]

end Run

/-- **When pages reassemble the whole stack trace.** Take any session with a program, whatever has
happened to it, and the words of the line that it has come to, which is the first one if it has come
to none. If the path of the program has a text, every request for a stack trace is answered with the
number of these words and with the frames that it wants, each named after its word, on the client's
number of the line; and a client that asks for pages of one size, one after the other as long as
there are frames left, is told the frames that it would be told if it asked for all at once. If the
path has no text, none of that is so: a request for a stack trace crashes the session, and nothing is
told. In 64 bits the same frames are found. -/
theorem pages_reassemble_iff {run : Run} {program : Files.Path}
    (hprogram : run.session.program = some program) :
    let line := run.session.cursor.line.getD 0
    let words := Text.blankWords ((run.session.source.get? line).getD [])
    (run.TellsTraces words (run.session.base.toClient line) program ↔ program.text? ≠ none) ∧
    (program.text? = none → ∀ turn args, turn.command? = some (.stackTrace args) →
      ∃ next, run.serve Faults.none turn = (next, .panicked) ∧
        traces next.entries = traces run.entries) ∧
    (words.length ≤ 0xFFFFFFFFFFFFFFFF → ∀ start levels,
      frameWindow64 words.length start levels = frameWindow words.length start levels) := by
  intro line words
  have hcrash : program.text? = none → ∀ turn args, turn.command? = some (.stackTrace args) →
      ∃ next, run.serve Faults.none turn = (next, .panicked) ∧
        traces next.entries = traces run.entries :=
    fun hnone turn args hturn => Run.serve_stackTrace_panic hprogram hnone hturn
  refine ⟨⟨fun htells hnone => ?_, fun hsome => ?_⟩, hcrash,
    fun h start levels => frameWindow64_eq h start levels⟩
  · let asks : Turn := { inbound := .ok Run.askWhole, files := straying }
    obtain ⟨next, hserve, -⟩ := hcrash hnone asks {} rfl
    obtain ⟨other, -, hother, -⟩ := htells.answered asks {} rfl
    rw [hserve] at hother
    cases congrArg Prod.snd hother
  · obtain ⟨path, htext⟩ := Option.ne_none_iff_exists'.1 hsome
    exact Run.tellsTraces hprogram htext

/-- A program has stopped on a line of three words. A client that asks for the frames from the second
one on, as many as it can ask for, gets two; and one that asks for pages of two frames, while a player
connects, gets what it gets when it asks for all frames at once. -/
theorem pages_of_two :
    let request (seq : Int) (command : String) (arguments : List (String × Json)) : Turn :=
      { inbound := .ok (.obj [("arguments", .obj arguments), ("command", .str command),
          ("seq", .int seq), ("type", .str "request")])
        files := { read := fun _ => .ok (Text.encode "lda #1  sta\nnop".toList)
                   canonical := fun _ => none } }
    let run := ((Run.start .listening).serve Faults.none
      (request 1 "launch" [("program", .str "p.tab"), ("stopOnEntry", .bool true)])).1
    let rest := request 2 "stackTrace"
      [("levels", .nat 0xFFFFFFFFFFFFFFFF), ("startFrame", .nat 1)]
    let page (seq : Int) (start : Nat) : Turn :=
      { request seq "stackTrace" [("levels", .nat 2), ("startFrame", .nat start)] with
        arrivals := [.connected "c" "player"] }
    let whole := request 4 "stackTrace" []
    let names (entries : List Entry) := (traces entries).map fun trace => trace.1.map Frame.name
    run.session.program = some (Files.Path.ofText "p.tab") ∧
      (∃ trace, traces (run.serve Faults.none rest).1.entries = [trace] ∧ trace.2 = 3 ∧
        trace.1.map Frame.id = [1, 2]) ∧
      frameWindow64 3 (some 1) (some 0xFFFFFFFFFFFFFFFF) = (1, 3) ∧
      whole.Asks none none ∧
      List.Forall₂ (fun page start => page.Asks (some start) (some 2)) [page 2 0, page 3 2]
        (pageStarts 2 3) ∧
      (∃ all parts, traces (run.serve Faults.none whole).1.entries = [all] ∧
        traces (Run.serveAll Faults.none run [page 2 0, page 3 2]).1.entries = parts ∧
        parts.flatMap (·.1) = all.1) ∧
      names (Run.serveAll Faults.none run [page 2 0, page 3 2]).1.entries =
        [["lda(0)", "#1(1)"], ["sta(2)"]] := by
  intro request run rest page whole names
  have hprogram : run.session.program = some (Files.Path.ofText "p.tab") := by decide +kernel
  have hwords : Text.blankWords ((run.session.source.get? (run.session.cursor.line.getD 0)).getD [])
      = ["lda".toList, "#1".toList, "sta".toList] := by decide +kernel
  have hnone : traces run.entries = [] := by decide +kernel
  have hrest : rest.command? =
      some (.stackTrace { startFrame := some 1, levels := some 0xFFFFFFFFFFFFFFFF }) := rfl
  have hwhole : whole.Asks none none := ⟨{}, rfl, rfl, rfl⟩
  have hpages : List.Forall₂ (fun page start => page.Asks (some start) (some 2))
      [page 2 0, page 3 2] (pageStarts 2 3) :=
    .cons ⟨{ startFrame := some 0, levels := some 2 }, rfl, rfl, rfl⟩
      (.cons ⟨{ startFrame := some 2, levels := some 2 }, rfl, rfl, rfl⟩ .nil)
  obtain ⟨htells, -, hwindow⟩ := pages_reassemble_iff hprogram
  rw [hwords] at htells hwindow
  obtain ⟨hany, hall⟩ := htells.2 (by decide +kernel)
  obtain ⟨next, trace, hserveRest, htrace, hshown⟩ := hany rest _ hrest
  obtain ⟨atOnce, all, last, parts, hserve, hone, hserveAll, hparts, -, hsame⟩ :=
    hall 2 (by decide) whole [page 2 0, page 3 2] hwhole hpages
  rw [hnone, List.nil_append] at htrace hone hparts
  refine ⟨hprogram, ⟨trace, ?_, hshown.total, ?_⟩, hwindow (by decide) _ _, hwhole, hpages,
    ⟨all, parts, ?_, ?_, hsame⟩, by decide +kernel⟩
  · rw [hserveRest, htrace]
  · rw [hshown.ids]
    decide
  · rw [hserve, hone]
  · rw [hserveAll, hparts]

/-- A program of two words is launched under a path that has no text. Whoever asks for its stack
trace gets none. -/
theorem no_trace_of_strayed_program :
    let launch : Json := .obj
      [("arguments", .obj [("program", .str "/tmp/l/p.tab"), ("stopOnEntry", .bool true)]),
       ("command", .str "launch"), ("seq", .int 1), ("type", .str "request")]
    let turns := [launch, Run.askWhole].map fun message =>
      ({ inbound := .ok message, files := straying } : Turn)
    let run := (Run.serveAll Faults.none (Run.start .absent) (turns.take 1)).1
    let asked := Run.serveAll Faults.none (Run.start .absent) turns
    run.session.program.isSome = true ∧ run.session.cursor.line = some 0 ∧
      Text.blankWords ((run.session.source.get? 0).getD []) = ["lda".toList, "#1".toList] ∧
      traces asked.1.entries = [] ∧ asked.2 = .panicked := by
  exact ⟨by decide +kernel, by decide +kernel, by decide +kernel, by decide +kernel, rfl⟩

end TabTools.Debug
