import TabTools.Proofs.Debug.Termination
import TabTools.Proofs.Debug.View

/-!
# The order of messages about a request

**Theorem (`messages_in_order_iff`).** Unless a request crashes the program, what is written about it
while no write fails depends on the command alone, up to where the program comes to
(`Session.InOrder`):

* to `initialize`: the event `initialized`, then the response;
* to a request that launches a program or runs it on: the line the program comes to, the response,
  that it stopped, and perhaps that the breakpoint it stopped at is verified now; or, if it comes to
  no line, the response and that it terminated;
* to `terminate`: the response, then that the program terminated, if one was under way;
* to any other request, and to every request that is refused: the response alone.

A request that crashes the program is not answered. In all other cases nothing is told of a stop, an
end or a breakpoint before the request that caused it is answered.

A message is looked at as the object that the client gets: its *sign* (`sign?`) is read off the
object's fields. The proof has one lemma for each way a program can run on (`ranOn_stopAt`,
`ranOn_resume`, `ranOn_start`) and then goes through the commands once (`ordered_plan`).
-/

namespace TabTools.Debug

/-! ## Signs of messages -/

/-- What a message is, as far as its place among others goes. -/
inductive Sign where
  | response (request : Int) (command : String) (success : Bool)
  | initialized
  | output (text : String)
  | stopped (reason : String) (hits : List Int)
  | terminated
  /-- The breakpoint with this number has changed. -/
  | breakpoint (id : Int)
deriving DecidableEq, Repr

/-- Whether a sign tells that the program stopped or ended, or that a breakpoint changed. -/
def Sign.isVerdict : Sign → Bool
  | .stopped _ _ => true
  | .terminated => true
  | .breakpoint _ => true
  | _ => false

/-- The sign of an event with this name and body. -/
def eventSign? (body : Json) : String → Option Sign
  | "initialized" => some .initialized
  | "output" => ((body.get? "output").bind Json.str?).map .output
  | "stopped" =>
    ((body.get? "reason").bind Json.str?).map fun reason =>
      .stopped reason
        (((body.get? "hitBreakpointIds").map Json.toItems).getD [] |>.filterMap Json.int?)
  | "terminated" => some .terminated
  | "breakpoint" => ((body.get? "breakpoint").bind idOf).map .breakpoint
  | _ => none

/-- The sign of an object on the wire. -/
def sign? (v : Json) : Option Sign :=
  match v.get? "type", v.get? "request_seq", v.get? "command", v.get? "success" with
  | some (.str "response"), some (.num (.int seq)), some (.str command), some (.bool success) =>
    some (.response seq command success)
  | some (.str "event"), _, _, _ =>
    ((v.get? "event").bind Json.str?).bind (eventSign? ((v.get? "body").getD .null))
  | _, _, _, _ => none

def Event.sign : Event → Sign
  | .initialized => .initialized
  | .output text _ => .output (text ++ "\n")
  | .stopped reason hit => .stopped reason.name (hit.toList.map fun id => (id : Int))
  | .terminated => .terminated
  | .breakpointChanged bp => .breakpoint bp.id

def Message.sign : Message → Sign
  | .event e => e.sign
  | .success request _ => .response request.seq request.command true
  | .failure request _ => .response request.seq request.command false

theorem eventSign?_body (e : Event) : eventSign? (e.body.getD .null) e.name = some e.sign := by
  cases e with
  | stopped reason hit =>
    cases hit <;> simp [eventSign?, Event.body, Event.name, Event.sign, lookup_cons_ite, Json.str?,
      Json.toItems, Json.nat, Json.int?]
  | breakpointChanged bp =>
    simp [eventSign?, Event.body, Event.name, Event.sign]
  | _ => simp [eventSign?, Event.body, Event.name, Event.sign, lookup_cons_ite, Json.str?]

/-- **The sign of a message is on the wire.** -/
theorem sign?_toJson (seq : Nat) (m : Message) : sign? (m.toJson seq) = some m.sign := by
  have htype := toJson_type seq m
  cases m with
  | event e =>
    have hname : (Message.toJson seq (.event e)).get? "event" = some (.str e.name) := by
      cases hbody : e.body <;> simp [Message.toJson, optionalField, hbody, lookup_cons_ite]
    have hbody : (Message.toJson seq (.event e)).get? "body" = e.body := by
      cases hbody : e.body <;> simp [Message.toJson, optionalField, hbody, lookup_cons_ite]
    simp only [sign?, htype, hname, hbody, Message.answered?, Option.isSome_none]
    exact eventSign?_body e
  | success request body =>
    obtain ⟨hseq, hcommand⟩ := toJson_request (m := .success request body) rfl seq
    have hsuccess := toJson_success (m := .success request body) rfl seq
    simp only [sign?, htype, hseq, hcommand, hsuccess, Message.answered?, Option.isSome_some,
      Json.int]
    rfl
  | failure request reason =>
    obtain ⟨hseq, hcommand⟩ := toJson_request (m := .failure request reason) rfl seq
    have hsuccess := toJson_success (m := .failure request reason) rfl seq
    simp only [sign?, htype, hseq, hcommand, hsuccess, Message.answered?, Option.isSome_some,
      Json.int]
    rfl

/-- The signs of messages, in order. -/
def signs (list : List Message) : List Sign := list.map Message.sign

/-- What is read off delivered messages is read off the messages of the plan. -/
theorem sign?_wire (seq : Nat) (acts : List Act) :
    (wire (recorded seq acts)).map sign? = (signs (messages acts)).map some := by
  have hread :
      (recorded seq acts).filterMap (fun e => e.delivery?.map fun d => sign? (d.2.toJson d.1)) =
        (messages acts).filterMap fun m => some (some m.sign) := by
    refine filterMap_recorded (fun seq m => ?_) rfl seq acts
    show some (sign? (m.toJson seq)) = some (some m.sign)
    rw [sign?_toJson]
  rw [wire, deliveries, List.map_map, List.map_filterMap, signs, List.map_map]
  refine hread.trans ?_
  rw [← List.filterMap_eq_map]
  rfl

namespace Session

/-! ## Running on -/

/-- The order of messages when a program was run on and the session is `last` then. It came to a
line and stopped there, which may have verified the breakpoint that stopped it; or it ended. -/
inductive RanOn (last : Session) (answer : Sign) : List Sign → Prop
  | stopped {line : Nat} {reason : StopReason} {hits changed : List Int}
      (cursor : last.cursor.line = some line) (phase : last.phase = .stopped reason)
      (reported : changed = [] ∨ reason = .breakpoint ∧ changed = hits ∧ hits.length = 1) :
      RanOn last answer
        (.output (s!"line: {line}" ++ "\n") :: answer :: .stopped reason.name hits ::
          changed.map .breakpoint)
  | ended (phase : last.phase = .terminated) : RanOn last answer [answer, .terminated]

/-- The sign of a successful response. -/
def answer (req : Request) : Sign := .response req.seq req.command true

/-- Only a hit verifies a breakpoint, namely the one that was hit. -/
theorem reports_of_scan {s : Session} {direction : Direction} {p : Probe} {stop : Stop}
    (h : s.scan direction p = some stop) {bp : Breakpoint} (hbp : stop.halt.verified = some bp) :
    stop.halt.reason = .breakpoint ∧ stop.halt.hitId = some bp.id := by
  have hprobe := probe_of_scan h
  obtain ⟨line, halt, table⟩ := stop
  cases probe_cases hprobe with
  | step => cases hbp
  | exception => cases hbp
  | @breakpoint text hit _ _ hits =>
    obtain ⟨path, -, hhit⟩ := Option.bind_eq_some_iff.1 hits
    obtain ⟨early, first, late, struck⟩ := BreakpointTable.exists_struck hhit
    refine ⟨rfl, ?_⟩
    have hverified : hit.verifiedNow = some bp := hbp
    rw [struck.verifiedNow] at hverified
    show some hit.id = some bp.id
    rw [struck.id]
    split at hverified
    · cases hverified
    · cases hverified
      rfl

theorem ranOn_stopAt (s t : Session) (req : Request) (line : Nat) {reason : StopReason}
    {hit : Option Nat} {verified : Option Breakpoint}
    (hverified : ∀ bp, verified = some bp → reason = .breakpoint ∧ hit = some bp.id) :
    RanOn (finalSession t (s.stopAt req line reason hit verified)) (answer req)
      (signs (messages (s.stopAt req line reason hit verified))) := by
  rw [finalSession_stopAt, messages_stopAt]
  have hstop : RanOn { s.standing line with phase := .stopped reason } (answer req)
      (.output (s!"line: {line}" ++ "\n") :: answer req ::
        .stopped reason.name (hit.toList.map fun id => (id : Int)) ::
        (verified.toList.map fun bp => (bp.id : Int)).map .breakpoint) := by
    refine .stopped rfl rfl ?_
    cases verified with
    | none => exact .inl rfl
    | some bp =>
      obtain ⟨hreason, rfl⟩ := hverified bp rfl
      exact .inr ⟨hreason, rfl, rfl⟩
  cases verified <;> exact hstop

theorem ranOn_resume (s t : Session) (req : Request) (direction : Direction) (p : Probe) :
    RanOn (finalSession t (s.resume req direction p)) (answer req)
      (signs (messages (s.resume req direction p))) := by
  generalize hacts : s.resume req direction p = acts
  cases hacts ▸ resume_cases s req direction p with
  | halted scans => exact ranOn_stopAt _ _ _ _ fun bp => reports_of_scan scans
  | ended scans => exact .ended rfl
  | rewound scans => exact ranOn_stopAt _ _ _ _ (by simp)

theorem ranOn_start (s t : Session) (req : Request) (args : LaunchArguments) :
    RanOn (finalSession t (s.start req args)) (answer req)
      (signs (messages (s.start req args))) := by
  unfold start
  split
  · exact ranOn_stopAt _ _ _ _ (by simp)
  · exact ranOn_resume _ _ _ _ _

/-! ## Plans -/

/-- The order of messages about a request that is carried out as a command. -/
def Ordered (s last : Session) (req : Request) (command : Command) (list : List Sign) : Prop :=
  match command with
  | .initializeAdapter _ => list = [.initialized, answer req]
  | .launch _ | .continueForward | .continueBackward | .stepForward | .stepBackward =>
    RanOn last (answer req) list
  | .terminate => list = answer req :: if s.isLive then [.terminated] else []
  | _ => list = [answer req]

variable {s : Session} {files : Files.View} {req : Request} {acts : List Act}

theorem ranOn_launch {args : LaunchArguments} (h : s.launch files req args = .ok acts) :
    RanOn (finalSession s acts) (answer req) (signs (messages acts)) := by
  unfold launch at h
  split at h
  · cases h
  · rename_i path _
    split at h
    · cases h
    · rename_i source _
      cases h
      have hran := ranOn_start (s.loaded (files.sourcePath path) source) s req args
      cases args.trace <;> exact hran

theorem ranOn_step {direction : Direction} {p : Probe} (h : s.step req direction p = .ok acts) :
    RanOn (finalSession s acts) (answer req) (signs (messages acts)) := by
  unfold step at h
  split at h
  · cases h
    exact ranOn_resume s s req direction p
  · split at h <;> cases h

/-- **The messages of a plan stand in the order of its command.** -/
theorem ordered_plan {command : Command} (decodes : Command.ofRequest req = .ok command)
    (h : s.plan files req = .ok acts) :
    Ordered s (finalSession s acts) req command (signs (messages acts)) := by
  simp only [plan, decodes] at h
  cases command with
  | initializeAdapter args => cases h; rfl
  | launch args => exact ranOn_launch h
  | continueForward | continueBackward | stepForward | stepBackward => exact ranOn_step h
  | setBreakpoints args =>
    dsimp only [setBreakpoints] at h
    split at h
    · cases h
    · split at h <;> cases h
      rfl
  | stackTrace args =>
    have h : s.stackTrace req args = .ok acts := h
    generalize s.stackTrace req args = result, s.stackTrace_cases req args = traced at h
    cases traced with
    | refused | panicked => cases h
    | told => cases h; rfl
  | «variables» args =>
    cases h
    unfold listVariables
    split <;> rfl
  | terminate =>
    cases h
    show signs (messages (_ :: if s.isLive = true then _ else _)) = _
    cases s.isLive <;> rfl
  | configurationDone | threads | scopes args | evaluate args | disconnect => cases h; rfl

/-- What the name of a command says of the order. -/
theorem Ordered.of_name {last : Session} {command : Command} {list : List Sign}
    (h : Ordered s last req command list) (hname : req.command = command.name) :
    (req.command = "initialize" → list = [.initialized, answer req]) ∧
      (req.command = "launch" ∨ req.command ∈ runningCommands → RanOn last (answer req) list) ∧
      (req.command = "terminate" →
        list = answer req :: if s.isLive then [.terminated] else []) ∧
      (req.command ∉ "initialize" :: "launch" :: "terminate" :: runningCommands →
        list = [answer req]) := by
  rw [hname]
  cases command <;> simp [Command.name, runningCommands] <;> exact h

/-- The order of messages about a request: it is refused, or it is carried out as some command. -/
inductive Reacts (s : Session) (files : Files.View) (req : Request) (last : Session) :
    List Sign → Prop
  | refused {refusal : Refusal} (refuses : s.Refuses files req refusal) :
      Reacts s files req last [.response req.seq req.command false]
  | done {command : Command} {list : List Sign} (accepts : ∀ refusal, ¬ s.Refuses files req refusal)
      (decodes : Command.ofRequest req = .ok command) (ordered : Ordered s last req command list) :
      Reacts s files req last list

theorem reacts {s : Session} {files : Files.View} {req : Request} (sound : ¬ s.Panics req) :
    Reacts s files req (finalSession s (s.reaction files req))
      (signs (messages (s.reaction files req))) := by
  unfold reaction
  cases hplan : s.plan files req with
  | error obstacle =>
    cases hindered_of_plan hplan with
    | refused why => exact .refused (refuses_of_plan hplan)
    | panicked panics => exact absurd panics sound
  | ok acts =>
    have haccepts : ∀ refusal, ¬ s.Refuses files req refusal := by
      intro refusal hrefuses
      rw [hrefuses.plan_eq] at hplan
      cases hplan
    cases decodes : Command.ofRequest req with
    | error e =>
      simp only [plan, decodes] at hplan
      cases hplan
    | ok command => exact .done haccepts decodes (ordered_plan decodes hplan)

/-! ## Responses and verdicts -/

/-- Nothing is told of a stop, an end or a breakpoint before the response `answer`. -/
def AnswersFirst (answer : Sign) (list : List Sign) : Prop :=
  ∃ early late, list = early ++ answer :: late ∧ ∀ sign ∈ early, sign.isVerdict = false

theorem answersFirst_ranOn {last : Session} {answer : Sign} {list : List Sign}
    (h : RanOn last answer list) : AnswersFirst answer list := by
  cases h with
  | @stopped line reason hits changed =>
    exact ⟨[.output (s!"line: {line}" ++ "\n")], _, rfl, by simp [Sign.isVerdict]⟩
  | ended => exact ⟨[], [.terminated], rfl, by simp⟩

theorem answersFirst_ordered {last : Session} {command : Command} {list : List Sign}
    (h : Ordered s last req command list) : AnswersFirst (answer req) list := by
  cases command with
  | launch | continueForward | continueBackward | stepForward | stepBackward =>
    exact answersFirst_ranOn h
  | initializeAdapter => exact ⟨[.initialized], [], h, by simp [Sign.isVerdict]⟩
  | terminate => exact ⟨[], _, h, by simp⟩
  | _ => exact ⟨[], [], h, by simp⟩

theorem AnswersFirst.mem_early {answer sign : Sign} {list early late : List Sign}
    (h : AnswersFirst answer list) (hanswer : answer.isVerdict = false)
    (hsplit : list = early ++ sign :: late) (hverdict : sign.isVerdict = true) :
    answer ∈ early := by
  obtain ⟨first, rest, hlist, hquiet⟩ := h
  rw [hlist] at hsplit
  -- The verdict stands behind the response, or it is the response or stands before it.
  rcases List.append_eq_append_iff.1 hsplit with ⟨between, rfl, hrest⟩ | ⟨between, rfl, hrest⟩
  · cases between with
    | nil =>
      cases hrest
      rw [hanswer] at hverdict
      cases hverdict
    | cons sign' between =>
      cases hrest
      simp
  · cases between with
    | nil =>
      cases hrest
      rw [hanswer] at hverdict
      cases hverdict
    | cons sign' between =>
      cases hrest
      rw [hquiet sign (by simp)] at hverdict
      cases hverdict

end Session

namespace Session

/-! ## Messages in order -/

/-- The messages about a request stand in order, if the session is `last` then. If the session
refuses the request, there is a response that says so. Otherwise there is a response of success:
behind the event `initialized` to `initialize`; between the line that the program came to and the
news of what happened there if the program was launched or run on, unless it ended and no line is
shown; before the news that the program ended to `terminate`, if one was under way; alone to any other
request. Nothing is told of a stop, an end or a breakpoint before the response. -/
structure InOrder (s : Session) (files : Files.View) (req : Request) (last : Session)
    (list : List Sign) : Prop where
  refused : (∃ refusal, s.Refuses files req refusal) →
    list = [.response req.seq req.command false]
  initialized : (∀ refusal, ¬ s.Refuses files req refusal) → req.command = "initialize" →
    list = [.initialized, .response req.seq req.command true]
  ran : (∀ refusal, ¬ s.Refuses files req refusal) →
    req.command = "launch" ∨ req.command ∈ runningCommands →
    last.RanOn (.response req.seq req.command true) list
  terminated : (∀ refusal, ¬ s.Refuses files req refusal) → req.command = "terminate" →
    list = .response req.seq req.command true :: if s.isLive then [.terminated] else []
  alone : (∀ refusal, ¬ s.Refuses files req refusal) →
    req.command ∉ "initialize" :: "launch" :: "terminate" :: runningCommands →
    list = [.response req.seq req.command true]
  answers_first : ∀ early sign late, list = early ++ sign :: late → sign.isVerdict = true →
    ∃ success, .response req.seq req.command success ∈ early

theorem Reacts.inOrder {last : Session} {list : List Sign} (h : Reacts s files req last list) :
    InOrder s files req last list := by
  cases h with
  | @refused refusal refuses =>
    have haccepts : ¬ ∀ refusal, ¬ s.Refuses files req refusal := fun h => h refusal refuses
    refine ⟨fun _ => rfl, fun h => absurd h haccepts, fun h => absurd h haccepts,
      fun h => absurd h haccepts, fun h => absurd h haccepts, ?_⟩
    intro early sign late hsplit hverdict
    have hsign : sign ∈ [Sign.response req.seq req.command false] := by simp [hsplit]
    rw [List.mem_singleton.1 hsign] at hverdict
    cases hverdict
  | done accepts decodes ordered =>
    obtain ⟨initialized, ran, terminated, alone⟩ :=
      ordered.of_name (Command.ofRequest_name decodes)
    refine ⟨fun ⟨refusal, hrefuses⟩ => absurd hrefuses (accepts refusal), fun _ => initialized,
      fun _ => ran, fun _ => terminated, fun _ => alone, ?_⟩
    intro early sign late hsplit hverdict
    exact ⟨true, (answersFirst_ordered ordered).mem_early rfl hsplit hverdict⟩

/-- Silence is no order: a request that crashes the program would have to be answered alone. -/
theorem not_inOrder_nil {last : Session} (panics : s.Panics req) :
    ¬ InOrder s files req last [] := by
  intro h
  obtain ⟨args, program, decodes, -⟩ := id panics
  have hother : req.command ∉ "initialize" :: "launch" :: "terminate" :: runningCommands := by
    rw [Command.ofRequest_name decodes]
    simp [Command.name, runningCommands]
  cases h.alone (fun refusal hrefuses => hrefuses.not_panics panics) hother

end Session

/-- **When messages about a request stand in order.** Whatever the state of the session, for every
request that is handled without a failing write, the objects that the client gets stand in the order
of `Session.InOrder` unless the request crashes the program. A request that does is not answered at
all, and nothing changes. -/
theorem messages_in_order_iff (run : Run) (faults : Faults) (files : Files.View) (req : Request)
    (delivered : ∀ seq m, .sent seq m false ∉
      (run.handle faults files req).1.entries.drop run.entries.length) :
    let after := (run.handle faults files req).1
    ((∃ list : List Sign,
        (wire (after.entries.drop run.entries.length)).map sign? = list.map some ∧
          run.session.InOrder files req after.session list) ↔ ¬ run.session.Panics req) ∧
      (run.session.Panics req → run.handle faults files req = (run, .panicked)) := by
  intro after
  have hafter : after = run.performed (run.session.reaction files req) :=
    Run.run_handle_of_delivered delivered
  have hcrash : run.session.Panics req → run.handle faults files req = (run, .panicked) :=
    fun panics => Run.handle_panic panics faults
  refine ⟨⟨?_, fun sound => ?_⟩, hcrash⟩
  · rintro ⟨list, hlist, horder⟩ panics
    have hsame : after = run := congrArg Prod.fst (hcrash panics)
    rw [hsame, List.drop_length] at hlist
    obtain rfl : list = [] := List.map_eq_nil_iff.1 hlist.symm
    exact Session.not_inOrder_nil panics horder
  · refine ⟨signs (messages (run.session.reaction files req)), ?_, ?_⟩
    · rw [hafter, Run.performed, List.drop_left, sign?_wire]
    · rw [hafter]
      exact (Session.reacts sound).inOrder

/-- A program that stands on its first line is continued to a lazy breakpoint. -/
theorem continued_to_lazy_breakpoint :
    let files : Files.View := { read := fun _ => .error .notFound, canonical := fun _ => none }
    let req : Request := ⟨5, "request", "continue", .null⟩
    let run : Run :=
      { session :=
          { phase := .stopped .entry
            program := some "p.tab"
            source := .ofText "start\n\nlazy\nend".toList
            cursor := .onLine 0
            breakpoints := ⟨1001, [(Files.components "p.tab", [⟨1000, false, 3⟩])]⟩ }
        nextSeq := 8 }
    let after := (run.handle Faults.none files req).1
    let written := after.entries.drop run.entries.length
    (∀ seq m, .sent seq m false ∉ written) ∧
      ∃ list : List Sign, (wire written).map sign? = list.map some ∧
        after.session.RanOn (.response 5 "continue" true) list ∧
        list = [.output "line: 2\n", .response 5 "continue" true, .stopped "breakpoint" [1000],
          .breakpoint 1000] := by
  intro files req run after written
  have hdelivered := run.delivered_none files req
  have hdecodes : Command.ofRequest req = .ok .continueForward := rfl
  have haccepts : ∀ refusal, ¬ run.session.Refuses files req refusal := by
    intro refusal hrefuses
    have hplan := hrefuses.plan_eq
    have hok : (run.session.plan files req).isOk = true := by decide +kernel
    rw [hplan] at hok
    cases hok
  obtain ⟨list, hlist, horder⟩ := (messages_in_order_iff run Faults.none files req hdelivered).1.2
    (Session.not_panics_of_command hdecodes nofun)
  refine ⟨hdelivered, list, hlist, horder.ran haccepts (.inr (by decide)), ?_⟩
  have hsigns : (wire written).map sign? = [some (.output "line: 2\n"),
      some (.response 5 "continue" true), some (.stopped "breakpoint" [1000]),
      some (.breakpoint 1000)] := by decide +kernel
  have hsome := hlist.symm.trans hsigns
  exact List.map_injective_iff.2 (fun _ _ => Option.some.inj) hsome

/-- A program is launched under a path that has no text. When a stack trace is asked for, which no
session with a program refuses, nothing is written. -/
theorem stackTrace_writes_nothing :
    let launch : Json := .obj
      [("arguments", .obj [("program", .str "/tmp/l/p.tab"), ("stopOnEntry", .bool true)]),
       ("command", .str "launch"), ("seq", .int 1), ("type", .str "request")]
    let run := ((Run.start .absent).serve Faults.none { inbound := .ok launch, files := straying }).1
    let req : Request := ⟨2, "request", "stackTrace", .null⟩
    let handled := run.handle Faults.none straying req
    run.session.phase = .stopped .entry ∧ (∀ refusal, ¬ run.session.Refuses straying req refusal) ∧
      handled = (run, .panicked) := by
  intro launch run req handled
  have hlaunched : ∃ program, run.session.program = some program ∧ program.text? = none :=
    ⟨_, rfl, by decide +kernel⟩
  obtain ⟨program, hprogram, htext⟩ := hlaunched
  have hpanics : run.session.Panics req := ⟨{}, program, rfl, hprogram, htext⟩
  exact ⟨by decide +kernel, fun refusal hrefuses => hrefuses.not_panics hpanics,
    Run.handle_panic hpanics _⟩

end TabTools.Debug
