import TabTools.Proofs.Debug.Plan

/-!
# Performing plans

**Acts** (`perform_cases`). Acts are performed in order up to the first write that fails. So there are
two cases: all writes succeed (`performed`), or those before some write do and that one fails
(`missed`).

**Readings** (`filterMap_performed`, `filterMap_drained`). What is read off the entries of acts that
were performed is what their messages show.

**Requests** (`handle_cases`, `handle_of_delivered`). A request is refused, carried out, or broken off
at a write that fails, or it crashes the program; if all its writes are delivered, it has its whole
reaction.

**Turns without faults** (`serve_none_request`, `serve_none_panic`, `serve_none_other`,
`serve_none_error`). While every write succeeds, a turn is a composition of `performed`. Its outcome
depends on the inbound message alone, unless that crashes the program.

**Turns with faults** (`serve_induction`, `serveAll_induction`). What holds of a run and is kept by
queueing, hearing, reporting and handling holds after every turn, whatever fails.
-/

namespace TabTools.Debug

/-- The entries of acts that all succeed, from the write with number `seq` on. -/
def recorded : Nat → List Act → List Entry
  | _, [] => []
  | seq, .traceOn :: rest => .traceOn :: recorded seq rest
  | seq, .write _ m :: rest => .sent seq m true :: recorded (seq + 1) rest

theorem recorded_append (seq : Nat) (xs ys : List Act) :
    recorded seq (xs ++ ys) = recorded seq xs ++ recorded (seq + (messages xs).length) ys := by
  induction xs generalizing seq with
  | nil => rfl
  | cons act xs ih =>
    cases act with
    | traceOn => exact congrArg (Entry.traceOn :: ·) (ih seq)
    | write after m =>
      simp only [List.cons_append, recorded, ih, messages_write, List.length_cons]
      rw [Nat.add_assoc, Nat.add_comm 1]

/-- Reading recorded entries is reading the messages that were written. -/
theorem filterMap_recorded {β : Type} {f : Entry → Option β} {g : Message → Option β}
    (hsent : ∀ seq m, f (.sent seq m true) = g m) (htrace : f .traceOn = none) (seq : Nat)
    (acts : List Act) : (recorded seq acts).filterMap f = (messages acts).filterMap g := by
  induction acts generalizing seq with
  | nil => rfl
  | cons act acts ih =>
    cases act with
    | traceOn => rw [recorded, List.filterMap_cons, htrace, ih, messages_traceOn]
    | write after m =>
      rw [recorded, List.filterMap_cons, hsent, ih, messages_write, List.filterMap_cons]

/-- The messages of acts are those that the entries show, each of them delivered. -/
theorem mem_messages_iff {acts : List Act} {m : Message} (seq : Nat) :
    m ∈ messages acts ↔ ∃ number, .sent number m true ∈ recorded seq acts := by
  induction acts generalizing seq with
  | nil => simp [messages, recorded]
  | cons act acts ih =>
    cases act with
    | traceOn => simp [messages_traceOn, recorded, ih seq]
    | write after k =>
      rw [messages_write, recorded, List.mem_cons, ih (seq + 1)]
      simp only [List.mem_cons, Entry.sent.injEq, and_true, exists_or]
      exact or_congr_left ⟨fun h => ⟨seq, rfl, h⟩, fun ⟨_, _, h⟩ => h⟩

theorem missed_not_mem_recorded (seq number : Nat) (m : Message) (acts : List Act) :
    .sent number m false ∉ recorded seq acts := by
  induction acts generalizing seq with
  | nil => simp [recorded]
  | cons act acts ih => cases act <;> simp [recorded, ih]

namespace Run

/-! ## Acts -/

/-- The run once acts have been performed and no write failed. -/
def performed (run : Run) (acts : List Act) : Run :=
  { run with
    session := finalSession run.session acts
    nextSeq := run.nextSeq + (messages acts).length
    entries := run.entries ++ recorded run.nextSeq acts }

/-- The run after a write that failed. -/
def missed (run : Run) (after : Session) (m : Message) : Run :=
  { run with
    session := after
    nextSeq := run.nextSeq + 1
    entries := run.entries ++ [.sent run.nextSeq m false] }

theorem performed_append (run : Run) (xs ys : List Act) :
    run.performed (xs ++ ys) = (run.performed xs).performed ys := by
  simp only [performed, finalSession_append, messages_append, List.length_append, Nat.add_assoc,
    recorded_append, List.append_assoc]

theorem performed_cons (run : Run) (act : Act) (acts : List Act) :
    run.performed (act :: acts) = (run.performed [act]).performed acts :=
  performed_append run [act] acts

/-- How performing acts can go. -/
inductive Performed (faults : Faults) (run : Run) (acts : List Act) : Run × Option String → Prop
  | through (sound : ∀ i < (messages acts).length, faults (run.nextSeq + i) = none) :
      Performed faults run acts (run.performed acts, none)
  | broken {before rest : List Act} {after : Session} {m : Message} {failure : String}
      (split : acts = before ++ .write after m :: rest)
      (sound : ∀ i < (messages before).length, faults (run.nextSeq + i) = none)
      (fault : faults (run.nextSeq + (messages before).length) = some failure) :
      Performed faults run acts ((run.performed before).missed after m, some failure)

/-- Putting an act that succeeds in front. -/
theorem Performed.cons {faults : Faults} {run : Run} {act : Act} {acts : List Act}
    {result : Run × Option String}
    (hact : ∀ i < (messages [act]).length, faults (run.nextSeq + i) = none)
    (h : Performed faults (run.performed [act]) acts result) :
    Performed faults run (act :: acts) result := by
  have hmessages : ∀ list, messages (act :: list) = messages [act] ++ messages list := fun list =>
    messages_append [act] list
  -- The faults seen by the rest are those behind the act's own write.
  have hsound : ∀ list, (∀ i < (messages list).length,
      faults ((run.performed [act]).nextSeq + i) = none) →
      ∀ i < (messages (act :: list)).length, faults (run.nextSeq + i) = none := by
    intro list hlist i hi
    by_cases hfirst : i < (messages [act]).length
    · exact hact i hfirst
    · rw [hmessages, List.length_append] at hi
      have := hlist (i - (messages [act]).length) (by omega)
      simp only [performed] at this
      rwa [show run.nextSeq + (messages [act]).length + (i - (messages [act]).length) =
        run.nextSeq + i by omega] at this
  cases h with
  | through sound =>
    rw [← performed_cons]
    exact .through (hsound acts sound)
  | @broken before rest after m failure split sound fault =>
    rw [← performed_cons]
    have hsplit : act :: acts = (act :: before) ++ .write after m :: rest := by rw [split]; rfl
    refine .broken hsplit (hsound before sound) ?_
    simp only [performed] at fault
    rwa [hmessages, List.length_append, ← Nat.add_assoc]

/-- **Acts are performed up to the first write that fails.** -/
theorem perform_cases (faults : Faults) (run : Run) (acts : List Act) :
    Performed faults run acts (run.perform faults acts) := by
  induction acts generalizing run with
  | nil =>
    have hnil : run.performed [] = run := by simp [performed, finalSession, recorded]
    rw [show run.perform faults [] = (run.performed [], none) by rw [hnil]; rfl]
    exact .through (by simp)
  | cons act acts ih =>
    cases act with
    | traceOn => exact .cons (by simp) (ih (run.performed [.traceOn]))
    | write after m =>
      cases hfault : faults run.nextSeq with
      | none =>
        have hfirst : run.perform faults (.write after m :: acts) =
            (run.performed [.write after m]).perform faults acts := by
          simp [perform, write, hfault, performed, finalSession, recorded]
        rw [hfirst]
        refine .cons ?_ (ih _)
        intro i hi
        have : i = 0 := by simpa using hi
        rw [this]
        exact hfault
      | some failure =>
        have hfirst : run.perform faults (.write after m :: acts) =
            ((run.performed []).missed after m, some failure) := by
          simp [perform, write, hfault, performed, missed, finalSession, recorded]
        rw [hfirst]
        exact .broken (List.nil_append _).symm (by simp) (by simpa using hfault)

/-- Acts are all performed exactly if none of their writes fails. -/
theorem perform_eq_none_iff {faults : Faults} {run : Run} (acts : List Act) :
    (run.perform faults acts).2 = none ↔
      ∀ i < (messages acts).length, faults (run.nextSeq + i) = none := by
  generalize hresult : run.perform faults acts = result
  cases hresult ▸ perform_cases faults run acts with
  | through sound => exact ⟨fun _ => sound, fun _ => rfl⟩
  | @broken before rest after m failure split sound fault =>
    refine ⟨nofun, fun all => ?_⟩
    have hwritten := all (messages before).length (by simp [split])
    rw [fault] at hwritten
    cases hwritten

theorem perform_of_sound {faults : Faults} {run : Run} {acts : List Act}
    (sound : ∀ i < (messages acts).length, faults (run.nextSeq + i) = none) :
    run.perform faults acts = (run.performed acts, none) := by
  have hnone := (perform_eq_none_iff acts).2 sound
  generalize hresult : run.perform faults acts = result at hnone
  cases hresult ▸ perform_cases faults run acts with
  | through _ => rfl
  | broken _ _ _ => cases hnone

theorem perform_none (run : Run) (acts : List Act) :
    run.perform Faults.none acts = (run.performed acts, none) :=
  perform_of_sound fun _ _ => rfl

/-! ## Reports -/

theorem write_mem_reportActs {s after : Session} {events : List Link.Event} {m : Message}
    (h : .write after m ∈ reportActs s events) :
    (∃ handles, after = { s with handles }) ∧ ∃ text handle, m = .event (.output text handle) := by
  induction events generalizing s with
  | nil => cases h
  | cons event rest ih =>
    rcases List.mem_cons.1 h with h | h
    · cases h
      exact ⟨⟨_, rfl⟩, _, _, rfl⟩
    · obtain ⟨⟨handles, rfl⟩, hm⟩ := ih h
      exact ⟨⟨handles, rfl⟩, hm⟩

/-- Reports are not seen by a reading that passes over lines of output. -/
theorem filterMap_reportActs {β : Type} {g : Message → Option β}
    (houtput : ∀ text handle, g (.event (.output text handle)) = none) (s : Session)
    (events : List Link.Event) : (messages (reportActs s events)).filterMap g = [] := by
  induction events generalizing s with
  | nil => rfl
  | cons event rest ih =>
    have hrest := ih (s.sayLine event.line).1
    show (Message.event (.output event.line s.handles.next) ::
      messages (reportActs (s.sayLine event.line).1 rest)).filterMap g = []
    rw [List.filterMap_cons, houtput, hrest]

theorem finalSession_reportActs (s : Session) (events : List Link.Event) :
    ∃ handles, finalSession s (reportActs s events) = { s with handles } := by
  induction events generalizing s with
  | nil => exact ⟨s.handles, rfl⟩
  | cons event rest ih =>
    obtain ⟨handles, h⟩ := ih (s.sayLine event.line).1
    exact ⟨handles, h⟩

/-- The run once the queued events have been reported. -/
def drained (run : Run) : Run :=
  ({ run with queue := [] }).performed (reportActs run.session run.queue)

theorem session_drained (run : Run) :
    ∃ handles, run.drained.session = { run.session with handles } :=
  finalSession_reportActs run.session run.queue

theorem length_reportActs (s : Session) (events : List Link.Event) :
    (messages (reportActs s events)).length = events.length := by
  induction events generalizing s with
  | nil => rfl
  | cons event rest ih => exact congrArg (· + 1) (ih _)

theorem drain_eq_none_iff {faults : Faults} {run : Run} :
    (run.drain faults).2 = none ↔ ∀ i < run.queue.length, faults (run.nextSeq + i) = none := by
  rw [drain, perform_eq_none_iff, length_reportActs]

theorem drain_of_sound {faults : Faults} {run : Run}
    (sound : ∀ i < run.queue.length, faults (run.nextSeq + i) = none) :
    run.drain faults = (run.drained, none) := by
  refine perform_of_sound ?_
  rwa [length_reportActs]

theorem drain_none (run : Run) : run.drain Faults.none = (run.drained, none) :=
  drain_of_sound fun _ _ => rfl

/-! ## Readings of entries -/

section Reading

variable {β : Type} {f : Entry → Option β} {g : Message → Option β}

/-- What is read off acts that were performed is what their messages show. -/
theorem filterMap_performed (hsent : ∀ seq m, f (.sent seq m true) = g m) (htrace : f .traceOn = none)
    (run : Run) (acts : List Act) :
    (run.performed acts).entries.filterMap f =
      run.entries.filterMap f ++ (messages acts).filterMap g := by
  rw [performed, List.filterMap_append, filterMap_recorded hsent htrace]

/-- Reporting adds nothing to a reading that passes over lines of output. -/
theorem filterMap_drained (hsent : ∀ seq m, f (.sent seq m true) = g m) (htrace : f .traceOn = none)
    (houtput : ∀ text handle, g (.event (.output text handle)) = none) (run : Run) :
    run.drained.entries.filterMap f = run.entries.filterMap f := by
  rw [drained, filterMap_performed hsent htrace, filterMap_reportActs houtput, List.append_nil]

end Reading

end Run

/-! ## Requests -/

theorem Command.ofRequest_disconnect {req : Request} (h : req.command = "disconnect") :
    Command.ofRequest req = .ok .disconnect := by
  simp [Command.ofRequest, h]

/-- How requests name a command. -/
def Command.name : Command → String
  | .initializeAdapter _ => "initialize"
  | .launch _ => "launch"
  | .setBreakpoints _ => "setBreakpoints"
  | .configurationDone => "configurationDone"
  | .threads => "threads"
  | .stackTrace _ => "stackTrace"
  | .scopes _ => "scopes"
  | .variables _ => "variables"
  | .continueForward => "continue"
  | .continueBackward => "reverseContinue"
  | .stepForward => "next"
  | .stepBackward => "stepBack"
  | .evaluate _ => "evaluate"
  | .terminate => "terminate"
  | .disconnect => "disconnect"

/-- A request is carried out as the command it names. -/
theorem Command.ofRequest_name {req : Request} {command : Command}
    (h : Command.ofRequest req = .ok command) : req.command = command.name := by
  -- Decoding arguments makes one kind of command only.
  have decoded : ∀ {σ : Type} {make : σ → Command} {read : Except CommandError σ},
      (do return make (← read)) = Except.ok command → ∃ args, make args = command := by
    intro σ make read hread
    cases read with
    | error e => cases hread
    | ok args => exact ⟨args, Except.ok.inj hread⟩
  unfold ofRequest at h
  dsimp only at h
  split at h
  case h_16 => cases h
  all_goals
    rename_i hname
    rw [hname]
  case h_4 | h_5 | h_9 | h_10 | h_11 | h_12 | h_14 | h_15 =>
    cases h
    rfl
  all_goals
    obtain ⟨args, rfl⟩ := decoded h
    rfl

theorem Session.plan_disconnect (s : Session) (files : Files.View) {req : Request}
    (h : req.command = "disconnect") : ∃ acts, s.plan files req = .ok acts :=
  ⟨_, by simp only [plan, Command.ofRequest_disconnect h]; rfl⟩

/-- The command that a turn brings. -/
def Turn.command? (turn : Turn) : Option Command :=
  match turn.inbound with
  | .error _ => none
  | .ok message => (Run.request? message).bind fun req => (Command.ofRequest req).toOption

theorem Turn.request_of_command {turn : Turn} {command : Command} (h : turn.command? = some command) :
    ∃ message req, turn.inbound = .ok message ∧ Run.request? message = some req ∧
      Command.ofRequest req = .ok command := by
  unfold command? at h
  split at h
  · cases h
  · rename_i message hread
    obtain ⟨req, hreq, hcommand⟩ := Option.bind_eq_some_iff.1 h
    refine ⟨message, req, hread, hreq, ?_⟩
    cases hof : Command.ofRequest req <;> rw [hof] at hcommand <;> cases hcommand
    rfl

namespace Run

/-- How a turn that brings a request ends while no write fails, unless the program crashes. -/
def outcomeOf (req : Request) : Outcome :=
  if req.command = "disconnect" then .disconnected else .goOn

theorem performed_nil (run : Run) : run.performed [] = run := by
  simp [performed, finalSession, recorded]

theorem handle_panic {run : Run} {files : Files.View} {req : Request}
    (panics : run.session.Panics req) (faults : Faults) :
    run.handle faults files req = (run, .panicked) := by
  simp only [handle, Session.stackTrace_of_panics panics]

theorem handle_none {run : Run} {req : Request} (sound : ¬ run.session.Panics req)
    (files : Files.View) :
    run.handle Faults.none files req =
      (run.performed (run.session.reaction files req), outcomeOf req) := by
  unfold handle Session.reaction
  cases hplan : run.session.plan files req with
  | ok acts =>
    simp only [perform_none]
    rfl
  | error obstacle =>
    have hcommand : req.command ≠ "disconnect" := by
      intro h
      obtain ⟨acts, hacts⟩ := run.session.plan_disconnect files h
      rw [hplan] at hacts
      cases hacts
    cases Session.hindered_of_plan hplan with
    | refused why =>
      simp [fail, write, Faults.none, performed, finalSession, recorded, outcomeOf, hcommand]
    | panicked panics => exact absurd panics sound

/-- Whatever comes of a request, its reaction is what is performed. -/
theorem run_handle_none (run : Run) (files : Files.View) (req : Request) :
    (run.handle Faults.none files req).1 = run.performed (run.session.reaction files req) := by
  by_cases panics : run.session.Panics req
  · rw [handle_panic panics, Session.reaction, Session.stackTrace_of_panics panics]
    exact run.performed_nil.symm
  · rw [handle_none panics]

theorem fail_run (run : Run) (faults : Faults) (req : Request) (reason : String) :
    (run.fail faults req reason).1 =
      { run with
        nextSeq := run.nextSeq + 1
        entries := run.entries ++
          [.sent run.nextSeq (.failure req.answered reason) (faults run.nextSeq).isNone] } := by
  unfold fail write
  cases faults run.nextSeq <;> simp

/-- How handling a request can go. -/
inductive Handled (faults : Faults) (run : Run) (files : Files.View) (req : Request) :
    Run × Outcome → Prop
  | refused {refusal : Refusal}
      (refuses : run.session.plan files req = .error (.refused run.session refusal)) :
      Handled faults run files req (run.fail faults req refusal.message)
  | panicked (panics : run.session.Panics req) : Handled faults run files req (run, .panicked)
  | done {acts : List Act} (plans : run.session.plan files req = .ok acts)
      (sound : ∀ i < (messages acts).length, faults (run.nextSeq + i) = none) :
      Handled faults run files req (run.performed acts, outcomeOf req)
  | broken {before rest : List Act} {after : Session} {m : Message} {failure : String}
      (plans : run.session.plan files req = .ok (before ++ .write after m :: rest))
      (sound : ∀ i < (messages before).length, faults (run.nextSeq + i) = none)
      (fault : faults (run.nextSeq + (messages before).length) = some failure) :
      Handled faults run files req (((run.performed before).missed after m).fail faults req failure)

/-- **Handling a request**: it is refused, carried out, or broken off at a write that fails; or it
crashes the program. -/
theorem handle_cases (faults : Faults) (run : Run) (files : Files.View) (req : Request) :
    Handled faults run files req (run.handle faults files req) := by
  unfold handle
  cases hplan : run.session.plan files req with
  | error obstacle =>
    cases Session.hindered_of_plan hplan with
    | refused why => exact .refused hplan
    | panicked panics => exact .panicked panics
  | ok acts =>
    dsimp only
    generalize hresult : run.perform faults acts = result
    cases hresult ▸ perform_cases faults run acts with
    | through sound => exact .done hplan sound
    | broken split sound fault => exact .broken (split ▸ hplan) sound fault

theorem delivered_none (run : Run) (files : Files.View) (req : Request) (seq : Nat) (m : Message) :
    .sent seq m false ∉ (run.handle Faults.none files req).1.entries.drop run.entries.length := by
  rw [run_handle_none]
  simp only [performed, List.drop_left]
  exact missed_not_mem_recorded _ _ _ _

/-- **Handling a request without faults**: when all that was written was delivered, the request was
handled as if nothing could fail, whatever faults would have come later. -/
theorem handle_of_delivered {faults : Faults} {run : Run} {files : Files.View} {req : Request}
    (h : ∀ seq m, .sent seq m false ∉
      (run.handle faults files req).1.entries.drop run.entries.length) :
    run.handle faults files req = run.handle Faults.none files req := by
  generalize hresult : run.handle faults files req = result at h ⊢
  cases hresult ▸ handle_cases faults run files req with
  | @refused refusal refuses =>
    rw [fail_run, List.drop_left] at h
    cases hfault : faults run.nextSeq with
    | none => simp only [handle, refuses, fail, write, hfault, Faults.none]
    | some failure =>
      refine absurd ?_ (h run.nextSeq (.failure req.answered refusal.message))
      simp [hfault]
  | panicked panics => rw [handle_panic panics]
  | done plans sound =>
    simp only [handle, plans, perform_none]
    rfl
  | @broken before rest after m failure plans sound fault =>
    -- The write that broke the plan off stands among the entries.
    rw [fail_run] at h
    simp only [missed, performed, List.append_assoc, List.drop_left] at h
    exact absurd (by simp) (h (run.nextSeq + (messages before).length) m)

theorem run_handle_of_delivered {faults : Faults} {run : Run} {files : Files.View} {req : Request}
    (h : ∀ seq m, .sent seq m false ∉
      (run.handle faults files req).1.entries.drop run.entries.length) :
    (run.handle faults files req).1 = run.performed (run.session.reaction files req) := by
  rw [handle_of_delivered h, run_handle_none]

/-- The run once a message has been read, after the reports that come first. -/
def heard (run : Run) (turn : Turn) (message : Json) : Run :=
  { run.drained with
    queue := run.drained.queue ++ turn.arrivals
    entries := run.drained.entries ++ [.received message] }

theorem panics_heard (run : Run) (turn : Turn) (message : Json) (req : Request) :
    (run.heard turn message).session.Panics req ↔ run.session.Panics req := by
  obtain ⟨handles, hsession⟩ := run.session_drained
  exact Session.panics_congr (by rw [heard, hsession])

theorem serve_none_request (run : Run) {turn : Turn} {message : Json} {req : Request}
    (hread : turn.inbound = .ok message) (hreq : request? message = some req)
    (sound : ¬ run.session.Panics req) :
    run.serve Faults.none turn =
      (((run.heard turn message).performed
        ((run.heard turn message).session.reaction turn.files req)).drained, outcomeOf req) := by
  unfold serve
  simp only [drain_none, hread, hreq]
  rw [show ({ run.drained with
      queue := run.drained.queue ++ turn.arrivals
      entries := run.drained.entries ++ [.received message] } : Run) = run.heard turn message
    from rfl, handle_none (mt (run.panics_heard turn message req).1 sound)]
  by_cases hlast : req.command = "disconnect" <;>
    simp only [outcomeOf, hlast, if_true, if_false, serve.afterwards]

/-- A request that crashes the program ends the session at once. -/
theorem serve_none_panic (run : Run) {turn : Turn} {message : Json} {req : Request}
    (hread : turn.inbound = .ok message) (hreq : request? message = some req)
    (panics : run.session.Panics req) :
    run.serve Faults.none turn = (run.heard turn message, .panicked) := by
  unfold serve
  simp only [drain_none, hread, hreq]
  rw [show ({ run.drained with
      queue := run.drained.queue ++ turn.arrivals
      entries := run.drained.entries ++ [.received message] } : Run) = run.heard turn message
    from rfl, handle_panic ((run.panics_heard turn message req).2 panics)]

theorem serve_none_other (run : Run) {turn : Turn} {message : Json}
    (hread : turn.inbound = .ok message) (hreq : request? message = none) :
    run.serve Faults.none turn = (run.heard turn message, .goOn) := by
  unfold serve
  simp only [drain_none, hread, hreq]
  rfl

theorem serve_none_error (run : Run) {turn : Turn} {cause : Wire.ReadError}
    (hread : turn.inbound = .error cause) :
    run.serve Faults.none turn =
      ({ run.drained with queue := run.drained.queue ++ turn.arrivals }, .readFailed cause) := by
  unfold serve
  simp only [drain_none, hread]

/-! ## Induction over turns -/

/-- **One turn keeps what its parts keep**, where a request is heard and handled in one go. -/
theorem serve_induction_asked {P : Run → Prop} {faults : Faults}
    (queue : ∀ run queue, P run → P { run with queue })
    (pass : ∀ run message, request? message = none → P run →
      P { run with entries := run.entries ++ [.received message] })
    (report : ∀ run events, P run → P (run.perform faults (reportActs run.session events)).1)
    (handle : ∀ run message files req, request? message = some req → P run →
      P (handle { run with entries := run.entries ++ [.received message] } faults files req).1)
    {run : Run} (h : P run) (turn : Turn) : P (run.serve faults turn).1 := by
  have drain : ∀ run, P run → P (run.drain faults).1 := fun run hrun =>
    report _ _ (queue run [] hrun)
  have hdrained := drain run h
  unfold serve
  split
  · rename_i drained failure heq
    rwa [heq] at hdrained
  · rename_i drained heq
    rw [heq] at hdrained
    have hqueued := queue _ (drained.queue ++ turn.arrivals) hdrained
    split
    · exact hqueued
    · rename_i message _
      dsimp only
      split
      · rename_i hreq
        exact pass _ message hreq hqueued
      · rename_i req hreq
        have hhandled := handle _ message turn.files req hreq hqueued
        have hafter : ∀ (next : Run) outcome, P next →
            P (serve.afterwards (next.drain faults) outcome).1 := by
          intro next outcome hnext
          have := drain next hnext
          unfold serve.afterwards
          split <;> simp_all
        split
        · rename_i next heq
          rw [heq] at hhandled
          exact hafter next _ hhandled
        · rename_i next heq
          rw [heq] at hhandled
          exact hafter next _ hhandled
        · exact hhandled

/-- **One turn keeps what its parts keep.** -/
theorem serve_induction {P : Run → Prop} {faults : Faults}
    (queue : ∀ run queue, P run → P { run with queue })
    (hear : ∀ run message, P run → P { run with entries := run.entries ++ [.received message] })
    (report : ∀ run events, P run → P (run.perform faults (reportActs run.session events)).1)
    (handle : ∀ run files req, P run → P (run.handle faults files req).1)
    {run : Run} (h : P run) (turn : Turn) : P (run.serve faults turn).1 :=
  serve_induction_asked queue (fun run message _ hrun => hear run message hrun) report
    (fun run message files req _ hrun => handle _ files req (hear run message hrun)) h turn

theorem serveAll_goOn {faults : Faults} {run next : Run} {turn : Turn}
    (h : run.serve faults turn = (next, .goOn)) (rest : List Turn) :
    serveAll faults run (turn :: rest) = serveAll faults next rest := by
  simp only [serveAll, h]

theorem serveAll_ended {faults : Faults} {run next : Run} {turn : Turn} {outcome : Outcome}
    (h : run.serve faults turn = (next, outcome)) (hended : outcome ≠ .goOn) (rest : List Turn) :
    serveAll faults run (turn :: rest) = (next, outcome) := by
  cases outcome with
  | goOn => exact (hended rfl).elim
  | _ => simp only [serveAll, h]

theorem serveAll_induction {P : Run → Prop} {faults : Faults}
    (step : ∀ run turn, P run → P (run.serve faults turn).1) {run : Run} (h : P run)
    (turns : List Turn) : P (serveAll faults run turns).1 := by
  induction turns generalizing run with
  | nil => exact h
  | cons turn rest ih =>
    have hturn := step run turn h
    unfold serveAll
    split
    · rename_i next heq
      rw [heq] at hturn
      exact ih hturn
    · exact hturn

end Run

end TabTools.Debug
