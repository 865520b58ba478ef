import TabTools.Proofs.Debug.Crash
import TabTools.Proofs.Json.Object

/-!
# Requests and responses

**Responses** (`responses`). The delivered messages whose `type` is `response`, as the objects that the
client gets.

**Without faults** (`responses_of_requests_iff`). Unless it crashes, a session writes one response for
each well-formed request up to the first request to disconnect, in the order of the requests, and
nothing else that is a response. It ends by such a request, or by the failing read after the last
message. A session that crashes leaves the request that crashes it without a response, and all after
it (`stackTrace_unanswered`).

**With faults** (`answered_twice_iff`). A request gets a second response exactly when the first was
delivered, an event after it was not, and the next write succeeds: then the failure is reported in a
response of its own.
-/

namespace TabTools.Debug

/-! ## Responses among messages -/

/-- Whether a message answers its request with success. -/
def Message.accepted? : Message → Option Bool
  | .event _ => none
  | .success _ _ => some true
  | .failure _ _ => some false

theorem toJson_type (seq : Nat) (m : Message) :
    (m.toJson seq).get? "type" =
      some (.str (if m.answered?.isSome then "response" else "event")) := by
  cases m with
  | event e => cases hbody : e.body <;> simp [Message.toJson, Message.answered?, optionalField, hbody,
      lookup_cons_ite]
  | success request body => cases hbody : body.toJson <;> simp [Message.toJson, Message.answered?,
      responseFields, optionalField, hbody, lookup_cons_ite]
  | failure request reason => simp [Message.toJson, Message.answered?, responseFields,
      lookup_cons_ite]

theorem toJson_request {m : Message} {request : Answered} (h : m.answered? = some request)
    (seq : Nat) :
    (m.toJson seq).get? "request_seq" = some (.int request.seq) ∧
      (m.toJson seq).get? "command" = some (.str request.command) := by
  cases m with
  | event e => cases h
  | success r body =>
    cases h
    cases hbody : body.toJson <;> simp [Message.toJson, responseFields, optionalField, hbody,
      lookup_cons_ite]
  | failure r reason =>
    cases h
    simp [Message.toJson, responseFields, lookup_cons_ite]

theorem toJson_success {m : Message} {accepted : Bool} (h : m.accepted? = some accepted)
    (seq : Nat) : (m.toJson seq).get? "success" = some (.bool accepted) := by
  cases m with
  | event e => cases h
  | success r body =>
    cases h
    cases hbody : body.toJson <;> simp [Message.toJson, responseFields, optionalField, hbody,
      lookup_cons_ite]
  | failure r reason =>
    cases h
    simp [Message.toJson, responseFields, lookup_cons_ite]

/-- The object of a delivered message, if its type is `response`. -/
def Entry.response? : Entry → Option Json
  | .sent seq m true =>
    if ((m.toJson seq).get? "type").bind Json.str? = some "response" then some (m.toJson seq)
    else none
  | _ => none

def responses (entries : List Entry) : List Json := entries.filterMap Entry.response?

/-- The message that was read. -/
def Entry.received? : Entry → Option Json
  | .received message => some message
  | _ => none

@[simp] theorem responses_append (xs ys : List Entry) :
    responses (xs ++ ys) = responses xs ++ responses ys := List.filterMap_append

theorem response?_sent (seq : Nat) (m : Message) :
    (Entry.sent seq m true).response? = if m.answered?.isSome then some (m.toJson seq) else none := by
  simp only [Entry.response?, toJson_type, Option.bind_some, Json.str?, Option.some.injEq]
  cases m.answered? <;> simp

/-- The number and the command of the request that a response answers. -/
def answeredBy (response : Json) : Option Json × Option Json :=
  (response.get? "request_seq", response.get? "command")

/-- Number and command as a response to the request gives them. -/
def Answered.fields (request : Answered) : Option Json × Option Json :=
  (some (.int request.seq), some (.str request.command))

theorem map_responses_recorded {β : Type} {f : Json → β} {g : Message → Option β}
    (h : ∀ seq m, (Entry.sent seq m true).response?.map f = g m) (seq : Nat) (acts : List Act) :
    (responses (recorded seq acts)).map f = (messages acts).filterMap g := by
  rw [responses, List.map_filterMap]
  exact filterMap_recorded h rfl seq acts

theorem answeredBy_recorded (seq : Nat) (acts : List Act) :
    (responses (recorded seq acts)).map answeredBy =
      ((messages acts).filterMap Message.answered?).map Answered.fields := by
  rw [List.map_filterMap]
  refine map_responses_recorded (fun seq m => ?_) seq acts
  rw [response?_sent]
  cases hm : m.answered? with
  | none => rfl
  | some request =>
    obtain ⟨hseq, hcommand⟩ := toJson_request hm seq
    simp [answeredBy, Answered.fields, hseq, hcommand]

/-! ## What plans and reports answer -/

/-- Events are not seen by a reading of responses. -/
theorem filterMap_events {β : Type} {g : Message → Option β} (h : ∀ e, g (.event e) = none)
    (events : List Event) : (events.map Message.event).filterMap g = [] := by
  induction events with
  | nil => rfl
  | cons e events ih => rw [List.map_cons, List.filterMap_cons, h, ih]

theorem filterMap_answered_events (events : List Event) :
    (events.map Message.event).filterMap Message.answered? = [] :=
  filterMap_events (fun _ => rfl) events

theorem answered_ne_nil {request : Answered} {body : Body} {list : List Message}
    (h : .success request body ∈ list) : list.filterMap Message.answered? ≠ [] := by
  have hmem : request ∈ list.filterMap Message.answered? := List.mem_filterMap.2 ⟨_, h, rfl⟩
  exact List.ne_nil_of_mem hmem

theorem Session.OneAnswer.answered {req : Request} {list : List Message}
    (h : Session.OneAnswer req list) : list.filterMap Message.answered? = [req.answered] := by
  obtain ⟨early, late, body, rfl, -⟩ := h
  rw [List.filterMap_append, List.filterMap_cons, filterMap_answered_events,
    filterMap_answered_events]
  rfl

/-- **Every request is answered once**, by its plan or by the refusal, unless it crashes the program. -/
theorem answered_reaction {s : Session} {req : Request} (sound : ¬ s.Panics req)
    (files : Files.View) :
    (messages (s.reaction files req)).filterMap Message.answered? = [req.answered] := by
  unfold Session.reaction
  cases hplan : s.plan files req with
  | ok acts => exact (Session.messages_plan hplan).answered
  | error obstacle =>
    cases Session.hindered_of_plan hplan with
    | refused why => rfl
    | panicked panics => exact absurd panics sound

/-! ## One response per request -/

/-- Requests up to the first one to disconnect, that one included. -/
def upToDisconnect : List Request → List Request
  | [] => []
  | req :: rest => if req.command = "disconnect" then [req] else req :: upToDisconnect rest

namespace Run

/-- The requests among messages. -/
def requests (inbound : List Json) : List Request := inbound.filterMap request?

/-- What the responses of a run answer. -/
def answers (run : Run) : List (Option Json × Option Json) :=
  (responses run.entries).map answeredBy

/-- The messages a run has read. -/
def received (run : Run) : List Json := run.entries.filterMap Entry.received?

theorem answers_performed (run : Run) (acts : List Act) :
    (run.performed acts).answers =
      run.answers ++ ((messages acts).filterMap Message.answered?).map Answered.fields := by
  simp only [answers, performed, responses_append, List.map_append, answeredBy_recorded]

theorem received_performed (run : Run) (acts : List Act) :
    (run.performed acts).received = run.received := by
  rw [received, filterMap_performed (g := fun _ => none) (fun _ _ => rfl) rfl,
    List.filterMap_eq_nil_iff.2 fun _ _ => rfl, List.append_nil, received]

theorem answers_drained (run : Run) : run.drained.answers = run.answers := by
  rw [drained, answers_performed, filterMap_reportActs (fun _ _ => rfl), List.map_nil,
    List.append_nil]
  rfl

theorem received_drained (run : Run) : run.drained.received = run.received :=
  received_performed _ _

theorem answers_heard (run : Run) (turn : Turn) (message : Json) :
    (run.heard turn message).answers = run.answers := by
  rw [← answers_drained run]
  simp [heard, answers, responses, Entry.response?]

theorem received_heard (run : Run) (turn : Turn) (message : Json) :
    (run.heard turn message).received = run.received ++ [message] := by
  rw [← received_drained run]
  simp [heard, received, Entry.received?]

/-- **A turn with a request** adds the answer to that request and nothing else. -/
theorem serve_none_answer (run : Run) {turn : Turn} {message : Json} {req : Request}
    (hread : turn.inbound = .ok message) (hreq : request? message = some req)
    (sound : ¬ run.session.Panics req) :
    ∃ next, run.serve Faults.none turn = (next, outcomeOf req) ∧
      next.answers = run.answers ++ [req.answered.fields] ∧
      next.received = run.received ++ [message] := by
  refine ⟨_, serve_none_request run hread hreq sound, ?_, ?_⟩
  · rw [answers_drained, answers_performed, answers_heard,
      answered_reaction (mt (run.panics_heard turn message req).1 sound)]
    rfl
  · rw [received_drained, received_performed, received_heard]

/-- **A turn without a request** adds no answer. -/
theorem serve_none_silent (run : Run) {turn : Turn} {message : Json}
    (hread : turn.inbound = .ok message) (hreq : request? message = none) :
    ∃ next, run.serve Faults.none turn = (next, .goOn) ∧
      next.answers = run.answers ∧ next.received = run.received ++ [message] :=
  ⟨_, serve_none_other run hread hreq, answers_heard run turn message, received_heard run turn message⟩

theorem requests_silent {message : Json} (h : request? message = none) (rest : List Json) :
    requests (message :: rest) = requests rest := List.filterMap_cons_none h

theorem requests_some {message : Json} {req : Request} (h : request? message = some req)
    (rest : List Json) : requests (message :: rest) = req :: requests rest :=
  List.filterMap_cons_some h

/-- The turn that brings a message, the files there are and the events that arrive meanwhile. -/
def turnOf (scene : Json × Files.View × List Link.Event) : Turn :=
  { inbound := .ok scene.1, files := scene.2.1, arrivals := scene.2.2 }

/-- How a run that reads messages and then fails to read is related to what it was asked, if it does
not crash. -/
structure Answering (run : Run) (inbound : List Json) (cause : Wire.ReadError)
    (ended : Run × Outcome) : Prop where
  answers : ended.1.answers =
    run.answers ++ (upToDisconnect (requests inbound)).map (·.answered.fields)
  disconnected : (∃ req ∈ requests inbound, req.command = "disconnect") → ended.2 = .disconnected
  readFailed : (∀ req ∈ requests inbound, req.command ≠ "disconnect") →
    ended.2 = .readFailed cause ∧ ended.1.received = run.received ++ inbound

/-- **A whole run**: the turns of some messages, and then one whose read fails. -/
theorem answering_serveAll (run : Run) (scenes : List (Json × Files.View × List Link.Event))
    {last : Turn} {cause : Wire.ReadError} (hlast : last.inbound = .error cause)
    (sound : (serveAll Faults.none run (scenes.map turnOf ++ [last])).2 ≠ .panicked) :
    Answering run (scenes.map (·.1)) cause
      (serveAll Faults.none run (scenes.map turnOf ++ [last])) := by
  induction scenes generalizing run with
  | nil =>
    rw [show ([] : List (Json × Files.View × List Link.Event)).map turnOf ++ [last] = [last] from rfl,
      serveAll_ended (serve_none_error run hlast) (by simp)]
    exact {
      answers := (answers_drained run).trans (List.append_nil _).symm
      disconnected := by simp [requests]
      readFailed := fun _ => ⟨rfl, (received_drained run).trans (List.append_nil _).symm⟩ }
  | cons scene scenes ih =>
    rw [show (scene :: scenes).map turnOf ++ [last] = turnOf scene :: (scenes.map turnOf ++ [last])
      from rfl] at sound ⊢
    have hread : (turnOf scene).inbound = .ok scene.1 := rfl
    cases hreq : request? scene.1 with
    | none =>
      obtain ⟨next, hserve, hanswers, hreceived⟩ := serve_none_silent run hread hreq
      rw [serveAll_goOn hserve] at sound ⊢
      obtain ⟨ihanswers, ihdisconnected, ihreadFailed⟩ := ih next sound
      have hrequests := requests_silent hreq (scenes.map (·.1))
      rw [← List.map_cons] at hrequests
      exact {
        answers := by rw [ihanswers, hanswers, hrequests]
        disconnected := by rw [hrequests]; exact ihdisconnected
        readFailed := by
          rw [hrequests]
          intro h
          refine ⟨(ihreadFailed h).1, ?_⟩
          rw [(ihreadFailed h).2, hreceived, List.append_assoc]
          rfl }
    | some req =>
      have hsound : ¬ run.session.Panics req := fun panics => by
        rw [serveAll_ended (serve_none_panic run hread hreq panics) (by simp)] at sound
        exact sound rfl
      obtain ⟨next, hserve, hanswers, hreceived⟩ := serve_none_answer run hread hreq hsound
      have hrequests := requests_some hreq (scenes.map (·.1))
      rw [← List.map_cons] at hrequests
      by_cases hlastreq : req.command = "disconnect"
      · rw [outcomeOf, if_pos hlastreq] at hserve
        rw [serveAll_ended hserve (by simp)]
        exact {
          answers := by rw [hanswers, hrequests, upToDisconnect, if_pos hlastreq]; rfl
          disconnected := fun _ => rfl
          readFailed := fun h => absurd hlastreq (h req (by rw [hrequests]; exact .head _)) }
      · rw [outcomeOf, if_neg hlastreq] at hserve
        rw [serveAll_goOn hserve] at sound ⊢
        obtain ⟨ihanswers, ihdisconnected, ihreadFailed⟩ := ih next sound
        exact {
          answers := by
            rw [ihanswers, hanswers, hrequests, upToDisconnect, if_neg hlastreq, List.append_assoc]
            rfl
          disconnected := by
            rw [hrequests]
            rintro ⟨r, hr, hcommand⟩
            rcases List.mem_cons.1 hr with rfl | hr
            · exact absurd hcommand hlastreq
            · exact ihdisconnected ⟨r, hr, hcommand⟩
          readFailed := by
            rw [hrequests]
            intro h
            have hrest := ihreadFailed fun r hr => h r (List.mem_cons_of_mem _ hr)
            refine ⟨hrest.1, ?_⟩
            rw [hrest.2, hreceived, List.append_assoc]
            rfl }

/-- **A run that crashes** has answered the requests before the one that crashes it. -/
theorem answers_of_panicked (run : Run) (scenes : List (Json × Files.View × List Link.Event))
    {last : Turn} {cause : Wire.ReadError} (hlast : last.inbound = .error cause)
    (h : (serveAll Faults.none run (scenes.map turnOf ++ [last])).2 = .panicked) :
    ∃ n < (upToDisconnect (requests (scenes.map (·.1)))).length,
      (serveAll Faults.none run (scenes.map turnOf ++ [last])).1.answers =
        run.answers ++
          ((upToDisconnect (requests (scenes.map (·.1)))).take n).map (·.answered.fields) := by
  induction scenes generalizing run with
  | nil =>
    rw [show ([] : List (Json × Files.View × List Link.Event)).map turnOf ++ [last] = [last] from rfl,
      serveAll_ended (serve_none_error run hlast) (by simp)] at h
    cases h
  | cons scene scenes ih =>
    rw [show (scene :: scenes).map turnOf ++ [last] = turnOf scene :: (scenes.map turnOf ++ [last])
      from rfl] at h ⊢
    rw [List.map_cons]
    have hread : (turnOf scene).inbound = .ok scene.1 := rfl
    cases hreq : request? scene.1 with
    | none =>
      obtain ⟨next, hserve, hanswers, -⟩ := serve_none_silent run hread hreq
      rw [serveAll_goOn hserve] at h ⊢
      rw [requests_silent hreq, ← hanswers]
      exact ih next h
    | some req =>
      rw [requests_some hreq, upToDisconnect]
      by_cases panics : run.session.Panics req
      · refine ⟨0, by split <;> exact Nat.zero_lt_succ _, ?_⟩
        rw [serveAll_ended (serve_none_panic run hread hreq panics) (by simp), answers_heard]
        exact (List.append_nil _).symm
      · obtain ⟨next, hserve, hanswers, -⟩ := serve_none_answer run hread hreq panics
        by_cases hlastreq : req.command = "disconnect"
        · rw [outcomeOf, if_pos hlastreq] at hserve
          rw [serveAll_ended hserve (by simp)] at h
          cases h
        · rw [outcomeOf, if_neg hlastreq] at hserve
          rw [serveAll_goOn hserve] at h ⊢
          obtain ⟨n, hn, hrest⟩ := ih next h
          rw [if_neg hlastreq]
          refine ⟨n + 1, Nat.succ_lt_succ hn, ?_⟩
          rw [hrest, hanswers, List.append_assoc]
          rfl

end Run

/-- **Requests and responses.** Over a fresh session that reads some messages, whatever the files are
at each of them and whatever events arrive, and whose next read fails: exactly if no message crashes
the session, the responses are one for each well-formed request up to the first to disconnect, in
this order and with the number and command of the request, and the session ends regularly exactly
when there is such a request, and otherwise by the failed read, after all the messages.

A session that crashes has answered the requests before the one that crashes it, and no other. -/
theorem responses_of_requests_iff (link : Link) (queue : List Link.Event)
    (scenes : List (Json × Files.View × List Link.Event)) (cause : Wire.ReadError)
    (files : Files.View) (arrivals : List Link.Event) :
    let inbound := scenes.map (·.1)
    let requests := inbound.filterMap Run.request?
    let turns := scenes.map Run.turnOf ++ [{ inbound := .error cause, files, arrivals }]
    let ended := Run.serveAll Faults.none { Run.start link with queue } turns
    let answers := (responses ended.1.entries).map fun v => (v.get? "request_seq", v.get? "command")
    let due := (upToDisconnect requests).map fun req =>
      (some (.int req.seq), some (.str req.command))
    ((answers = due ∧
        (ended.2 = .disconnected ↔ ∃ req ∈ requests, req.command = "disconnect") ∧
        ((∀ req ∈ requests, req.command ≠ "disconnect") →
          ended.2 = .readFailed cause ∧ ended.1.received = inbound)) ↔
      ¬ Crashing none turns) ∧
    (Crashing none turns → ended.2 = .panicked ∧ ∃ n < due.length, answers = due.take n) := by
  intro inbound requests turns ended answers due
  have hcrashes : ended.2 = .panicked ↔ Crashing none turns := Run.panicked_iff _ turns
  refine ⟨⟨?_, fun hsound => ?_⟩, fun hcrash => ?_⟩
  · rintro ⟨-, hdisconnected, hreadFailed⟩ hcrash
    have hpanicked := hcrashes.2 hcrash
    by_cases hsome : ∃ req ∈ requests, req.command = "disconnect"
    · rw [hdisconnected.2 hsome] at hpanicked
      cases hpanicked
    · have hnone : ∀ req ∈ requests, req.command ≠ "disconnect" := fun req hreq hcommand =>
        hsome ⟨req, hreq, hcommand⟩
      rw [(hreadFailed hnone).1] at hpanicked
      cases hpanicked
  · have h : Run.Answering { Run.start link with queue } inbound cause ended :=
      Run.answering_serveAll _ scenes rfl (mt hcrashes.1 hsound)
    refine ⟨h.answers, ⟨fun hended => ?_, h.disconnected⟩, h.readFailed⟩
    by_cases hsome : ∃ req ∈ requests, req.command = "disconnect"
    · exact hsome
    · have hnone : ∀ req ∈ requests, req.command ≠ "disconnect" := fun req hreq hcommand =>
        hsome ⟨req, hreq, hcommand⟩
      rw [(h.readFailed hnone).1] at hended
      cases hended
  · have hpanicked := hcrashes.2 hcrash
    obtain ⟨n, hn, hanswers⟩ := Run.answers_of_panicked _ scenes rfl hpanicked
    refine ⟨hpanicked, n, by rw [List.length_map]; exact hn, ?_⟩
    rw [← List.map_take]
    exact hanswers

/-- A program that was reached through a directory whose name is no text is launched, and a stack
trace is asked for. There are two requests and one response, and the session crashes. -/
theorem stackTrace_unanswered :
    let message (command : String) (seq : Int) (arguments : Json) : Json := .obj
      [("arguments", arguments), ("command", .str command), ("seq", .int seq),
       ("type", .str "request")]
    let inbound := [message "launch" 1 (.obj [("program", .str "/tmp/l/p.tab")]),
      message "stackTrace" 2 .null]
    let turns := inbound.map (fun m => Run.turnOf (m, straying, [])) ++
      [{ inbound := .error .closed, files := straying }]
    let ended := Run.serveAll Faults.none (Run.start .absent) turns
    (upToDisconnect (inbound.filterMap Run.request?)).map Request.seq = [1, 2] ∧
      (responses ended.1.entries).map (·.get? "request_seq") = [some (.int 1)] ∧
      ended.2 = .panicked := by
  exact ⟨by decide +kernel, rfl, rfl⟩

/-! ## Two responses to one request -/

theorem success_recorded (seq : Nat) (acts : List Act) :
    (responses (recorded seq acts)).map (·.get? "success") =
      ((messages acts).filterMap Message.accepted?).map fun b => some (.bool b) := by
  rw [List.map_filterMap]
  refine map_responses_recorded (fun seq m => ?_) seq acts
  rw [response?_sent]
  cases m with
  | event e => rfl
  | success r body => exact congrArg some (toJson_success rfl seq)
  | failure r reason => exact congrArg some (toJson_success rfl seq)

/-- **Cutting a plan at a write**: nothing is answered before it, or it is an event that comes after
the response. -/
theorem Session.OneAnswer.cut {req : Request} {sent rest : List Message} {m : Message}
    (h : Session.OneAnswer req (sent ++ m :: rest)) :
    sent.filterMap Message.answered? = [] ∨
      (∃ e, m = .event e ∧ e.isVerdict) ∧ (∃ body, .success req.answered body ∈ sent) ∧
        sent.filterMap Message.accepted? = [true] := by
  obtain ⟨early, late, body, hlist, hlate⟩ := h
  rcases List.append_eq_append_iff.1 hlist with ⟨more, hearly, hm⟩ | ⟨more, hsent, hm⟩
  · -- The cut is at the response or before it.
    left
    have hnone := filterMap_answered_events early
    rw [hearly, List.filterMap_append] at hnone
    exact (List.append_eq_nil_iff.1 hnone).1
  · cases more with
    | nil =>
      left
      rw [hsent, List.append_nil]
      exact filterMap_answered_events early
    | cons response more =>
      right
      obtain ⟨rfl, hmore⟩ := List.cons_eq_cons.1 hm
      obtain ⟨before, after, rfl, rfl, hafter⟩ := List.map_eq_append_iff.1 hmore
      obtain ⟨e, events, rfl, rfl, -⟩ := List.map_eq_cons_iff.1 hafter
      refine ⟨⟨e, rfl, hlate e (by simp)⟩, ⟨body, by simp [hsent]⟩, ?_⟩
      have hnone : ∀ events : List Event,
          (events.map Message.event).filterMap Message.accepted? = [] :=
        filterMap_events fun _ => rfl
      rw [hsent, List.filterMap_append, List.filterMap_cons, hnone, hnone]
      rfl

namespace Run

/-- The response to a request has been delivered when the write of an event that follows it fails,
and the next write succeeds. -/
def FaultAfterAnswer (run : Run) (faults : Faults) (files : Files.View) (req : Request) : Prop :=
  ∃ acts sent e rest, run.session.plan files req = .ok acts ∧
    messages acts = sent ++ .event e :: rest ∧ e.isVerdict ∧
    (∃ body, .success req.answered body ∈ sent) ∧
    (∀ i < sent.length, faults (run.nextSeq + i) = none) ∧
    (faults (run.nextSeq + sent.length)).isSome ∧
    faults (run.nextSeq + sent.length + 1) = none

/-- In a plan that breaks off at a write, that write is the only one `FaultAfterAnswer` can mean. -/
theorem faultAfterAnswer_iff {run : Run} {faults : Faults} {files : Files.View} {req : Request}
    {before rest : List Act} {after : Session} {m : Message} {failure : String}
    (plans : run.session.plan files req = .ok (before ++ .write after m :: rest))
    (sound : ∀ i < (messages before).length, faults (run.nextSeq + i) = none)
    (fault : faults (run.nextSeq + (messages before).length) = some failure) :
    run.FaultAfterAnswer faults files req ↔
      (∃ body, .success req.answered body ∈ messages before) ∧
        faults (run.nextSeq + (messages before).length + 1) = none := by
  constructor
  · rintro ⟨acts, sent, e, more, hplan, hmessages, -, hsuccess, hsound, hfault, hnext⟩
    rw [plans] at hplan
    cases hplan
    rw [messages_append, messages_write] at hmessages
    -- Both are cut at the first write that fails.
    have hlength : sent.length = (messages before).length := by
      rcases Nat.lt_trichotomy sent.length (messages before).length with hlt | heq | hgt
      · rw [sound _ hlt] at hfault
        cases hfault
      · exact heq
      · rw [hsound _ hgt] at fault
        cases fault
    obtain ⟨rfl, -⟩ := List.append_inj hmessages hlength.symm
    exact ⟨hsuccess, hnext⟩
  · rintro ⟨⟨body, hbody⟩, hnext⟩
    have honce := Session.messages_plan plans
    rw [messages_append, messages_write] at honce
    rcases honce.cut with hnone | ⟨⟨e, rfl, he⟩, hsuccess, -⟩
    · exact absurd hnone (answered_ne_nil hbody)
    · exact ⟨_, messages before, e, messages rest, plans, by rw [messages_append, messages_write], he,
        hsuccess, sound, by rw [fault]; rfl, hnext⟩

/-- What handling a request adds to the entries, read as responses. -/
structure AnswersOf (req : Request) (twice : Prop) (written : List Entry) : Prop where
  named : ∀ v ∈ responses written, answeredBy v = req.answered.fields
  once : ¬ twice → (responses written).length ≤ 1
  both : twice → (responses written).map (·.get? "success") = [some (.bool true), some (.bool false)]

theorem responses_failure (seq : Nat) (request : Answered) (reason : String) (delivered : Bool) :
    responses [.sent seq (.failure request reason) delivered] =
      if delivered then [(Message.failure request reason).toJson seq] else [] := by
  cases delivered with
  | false => rfl
  | true => simp [responses, response?_sent, Message.answered?]

theorem answeredBy_failure (seq : Nat) (request : Answered) (reason : String) :
    answeredBy ((Message.failure request reason).toJson seq) = request.fields := by
  obtain ⟨hseq, hcommand⟩ := toJson_request (m := .failure request reason) rfl seq
  rw [answeredBy, hseq, hcommand, Answered.fields]

theorem answersOf_refusal (req : Request) (seq : Nat) (reason : String) (delivered : Bool)
    {twice : Prop} (htwice : ¬ twice) :
    AnswersOf req twice [.sent seq (.failure req.answered reason) delivered] where
  named := by
    rw [responses_failure]
    split
    · intro v hv
      rw [List.mem_singleton.1 hv, answeredBy_failure]
    · simp
  once _ := by rw [responses_failure]; split <;> simp
  both h := absurd h htwice

theorem answersOf_recorded {s : Session} {files : Files.View} {req : Request} {acts : List Act}
    (hplan : s.plan files req = .ok acts) (seq : Nat) {twice : Prop} (htwice : ¬ twice) :
    AnswersOf req twice (recorded seq acts) := by
  have hmap := answeredBy_recorded seq acts
  rw [(Session.messages_plan hplan).answered] at hmap
  refine ⟨fun v hv => ?_, fun _ => ?_, fun h => absurd h htwice⟩
  · have := List.mem_map_of_mem (f := answeredBy) hv
    rw [hmap] at this
    exact List.mem_singleton.1 this
  · rw [← List.length_map (f := answeredBy), hmap]
    simp

theorem answersOf_broken {run : Run} {faults : Faults} {files : Files.View} {req : Request}
    {before rest : List Act} {after : Session} {m : Message} {failure : String}
    (plans : run.session.plan files req = .ok (before ++ .write after m :: rest))
    (sound : ∀ i < (messages before).length, faults (run.nextSeq + i) = none)
    (fault : faults (run.nextSeq + (messages before).length) = some failure) :
    AnswersOf req (run.FaultAfterAnswer faults files req)
      (recorded run.nextSeq before ++
        [.sent (run.nextSeq + (messages before).length) m false,
         .sent (run.nextSeq + (messages before).length + 1) (.failure req.answered failure)
          (faults (run.nextSeq + (messages before).length + 1)).isNone]) := by
  have htwice := faultAfterAnswer_iff plans sound fault
  have honce := Session.messages_plan plans
  rw [messages_append, messages_write] at honce
  generalize run.nextSeq + (messages before).length = k at htwice ⊢
  have hresponses : responses (recorded run.nextSeq before ++ [.sent k m false,
      .sent (k + 1) (.failure req.answered failure) (faults (k + 1)).isNone]) =
      responses (recorded run.nextSeq before) ++
        if (faults (k + 1)).isNone then
          [(Message.failure req.answered failure).toJson (k + 1)] else [] := by
    rw [responses_append, ← responses_failure]
    rfl
  rcases honce.cut with hnone | ⟨-, ⟨body, hbody⟩, haccepted⟩
  · -- Only the failure can be a response.
    have hbefore : responses (recorded run.nextSeq before) = [] := by
      have := answeredBy_recorded run.nextSeq before
      rw [hnone] at this
      exact List.map_eq_nil_iff.1 this
    have hnot : ¬ run.FaultAfterAnswer faults files req := by
      rw [htwice]
      rintro ⟨⟨body, hbody⟩, -⟩
      exact answered_ne_nil hbody hnone
    obtain ⟨named, once, -⟩ := answersOf_refusal req (k + 1) failure (faults (k + 1)).isNone hnot
    rw [hbefore, List.nil_append, ← responses_failure] at hresponses
    exact ⟨by rw [hresponses]; exact named, by rw [hresponses]; exact once,
      fun h => absurd h hnot⟩
  · -- The response stands among the writes before; it is followed by the failure if that arrives.
    have hsuccess := success_recorded run.nextSeq before
    rw [haccepted] at hsuccess
    refine ⟨fun v hv => ?_, fun hnot => ?_, fun hboth => ?_⟩
    · rw [hresponses] at hv
      rcases List.mem_append.1 hv with hv | hv
      · have hanswered := honce.answered
        rw [List.filterMap_append] at hanswered
        have hmem := List.mem_map_of_mem (f := answeredBy) hv
        rw [answeredBy_recorded] at hmem
        obtain ⟨request, hrequest, heq⟩ := List.mem_map.1 hmem
        have : request ∈ [req.answered] := by
          rw [← hanswered]
          exact List.mem_append_left _ hrequest
        rw [← heq, List.mem_singleton.1 this]
      · split at hv
        · rw [List.mem_singleton.1 hv, answeredBy_failure]
        · cases hv
    · have hfails : (faults (k + 1)).isNone = false := by
        rw [htwice] at hnot
        cases hnext : faults (k + 1) with
        | none => exact absurd ⟨⟨body, hbody⟩, hnext⟩ hnot
        | some _ => rfl
      rw [hresponses, hfails, ← List.length_map (f := (·.get? "success")), List.map_append, hsuccess]
      simp
    · have hnext := (htwice.1 hboth).2
      rw [hresponses, List.map_append, hsuccess, hnext]
      simp [toJson_success (m := .failure req.answered failure) rfl]

/-- **The responses to one request**, whatever writes fail. -/
theorem answersOf_handle (run : Run) (faults : Faults) (files : Files.View) (req : Request) :
    ∃ written, (run.handle faults files req).1.entries = run.entries ++ written ∧
      AnswersOf req (run.FaultAfterAnswer faults files req) written := by
  generalize hresult : run.handle faults files req = result
  cases hresult ▸ handle_cases faults run files req with
  | refused refuses =>
    refine ⟨_, by rw [fail_run], answersOf_refusal req _ _ _ ?_⟩
    rintro ⟨acts, _, _, _, hplan, -⟩
    rw [refuses] at hplan
    cases hplan
  | panicked panics =>
    have hnot : ¬ run.FaultAfterAnswer faults files req := by
      rintro ⟨acts, _, _, _, hplan, -⟩
      rw [Session.stackTrace_of_panics panics] at hplan
      cases hplan
    exact ⟨[], (List.append_nil _).symm, nofun, fun _ => Nat.zero_le 1, fun h => absurd h hnot⟩
  | done plans sound =>
    refine ⟨_, rfl, answersOf_recorded plans _ ?_⟩
    rintro ⟨acts, sent, e, rest, hplan, hmessages, -, -, -, hfault, -⟩
    rw [plans] at hplan
    cases hplan
    rw [sound sent.length (by rw [hmessages]; simp)] at hfault
    cases hfault
  | broken plans sound fault =>
    refine ⟨_, ?_, answersOf_broken plans sound fault⟩
    rw [fail_run]
    simp [missed, performed]

end Run

/-- **When a request is answered twice.** Whatever the state of the session and whichever writes fail,
all responses that are delivered for a request name that request, and there is at most one of them
unless a `stopped`, `terminated` or `breakpoint` event fails to be written after the response was
delivered and the write after that succeeds. Then there are two, a success and a failure. -/
theorem answered_twice_iff (run : Run) (faults : Faults) (files : Files.View) (req : Request) :
    let written := (run.handle faults files req).1.entries.drop run.entries.length
    (∀ v ∈ responses written, v.get? "request_seq" = some (.int req.seq) ∧
        v.get? "command" = some (.str req.command)) ∧
      ((responses written).length ≤ 1 ↔ ¬ run.FaultAfterAnswer faults files req) ∧
      (run.FaultAfterAnswer faults files req →
        (responses written).map (·.get? "success") =
          [some (.bool true), some (.bool false)]) := by
  obtain ⟨written, hentries, named, once, both⟩ := run.answersOf_handle faults files req
  rw [hentries, List.drop_left]
  refine ⟨fun v hv => Prod.mk.inj (named v hv), ⟨fun hle htwice => ?_, once⟩, both⟩
  have hlength := congrArg List.length (both htwice)
  rw [List.length_map] at hlength
  simp only [List.length_cons, List.length_nil] at hlength
  omega

/-- Launching a program of one line that stops on entry writes the line, the response and the stop.
When the third write fails, the launch is also answered with a failure. -/
theorem launch_answered_twice :
    let message : Json := .obj
      [("arguments", .obj [("program", .str "p.tab"), ("stopOnEntry", .bool true)]),
       ("command", .str "launch"), ("seq", .int 7), ("type", .str "request")]
    let files : Files.View :=
      { read := fun _ => .ok (Text.encode "start\n".toList), canonical := fun _ => none }
    let faults : Faults := fun number =>
      if number = 3 then some "transport: write 3 failed" else none
    let served := (Run.start .absent).serve faults { inbound := .ok message, files }
    (responses served.1.entries).map (·.get? "success") =
      [some (.bool true), some (.bool false)] := by
  rfl

end TabTools.Debug
