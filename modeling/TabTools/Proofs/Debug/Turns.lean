import TabTools.Debug.Steps
import TabTools.Proofs.Debug.Run

/-!
# Turns and interleavings

In a turn of `Run.serve` events arrive at one moment, in a schedule of `Steps` they do at any.

**Turns are schedules** (`reachable_serveAll`). Every run of `serveAll` without faults comes about
in a schedule.

**Schedules show what turns show** (`Reachable.shown`). Whenever a schedule is about to read a
message or has ended, what it has done so far is what `serveAll` does in some turns, once the events
that are left have been reported. So it does not matter when events arrive, only between which
messages they are reported: an event that is reported in a schedule could as well have arrived during
the last turn before (`serve_late`).
-/

namespace TabTools.Debug

namespace Run

/-! ## Reports, one after the other -/

/-- The run without the events that wait. -/
def idle (run : Run) : Run := { run with queue := [] }

theorem idle_of_queue_nil {run : Run} (h : run.queue = []) : run.idle = run := by
  obtain ⟨session, nextSeq, entries, queue⟩ := run
  subst h
  rfl

/-- The run after an event was reported. -/
def saying (run : Run) (event : Link.Event) : Run :=
  run.performed [(run.session.sayLine event.line).2]

theorem performed_reportActs_cons (run : Run) (event : Link.Event) (events : List Link.Event) :
    run.performed (reportActs run.session (event :: events)) =
      (run.saying event).performed (reportActs (run.saying event).session events) :=
  run.performed_cons _ _

theorem reportActs_append (s : Session) (xs ys : List Link.Event) :
    reportActs s (xs ++ ys) =
      reportActs s xs ++ reportActs (finalSession s (reportActs s xs)) ys := by
  induction xs generalizing s with
  | nil => rfl
  | cons event xs ih => exact congrArg (_ :: ·) (ih _)

/-- An event that is queued last is reported last. -/
theorem drained_queue_append (run : Run) (event : Link.Event) :
    ({ run with queue := run.queue ++ [event] } : Run).drained = run.drained.saying event := by
  unfold drained
  dsimp only
  rw [reportActs_append, performed_append]
  rfl

theorem drained_idle (run : Run) : run.idle.drained = run.idle := performed_nil _

theorem drained_drained (run : Run) : run.drained.drained = run.drained := drained_idle run.drained

/-- **An event that arrives in a turn** is reported after all others. -/
theorem serve_late (run : Run) (turn : Turn) (event : Link.Event) :
    let late := run.serve Faults.none { turn with arrivals := turn.arrivals ++ [event] }
    late.2 = (run.serve Faults.none turn).2 ∧
      late.1.drained = (run.serve Faults.none turn).1.drained.saying event := by
  intro late
  cases hread : turn.inbound with
  | error cause =>
    rw [show late = _ from serve_none_error run hread, serve_none_error run hread]
    refine ⟨rfl, ?_⟩
    rw [← drained_queue_append, List.append_assoc]
  | ok message =>
    cases hreq : request? message with
    | none =>
      rw [show late = _ from serve_none_other run hread hreq, serve_none_other run hread hreq]
      refine ⟨rfl, ?_⟩
      rw [← drained_queue_append, heard, heard]
      dsimp only
      rw [List.append_assoc]
    | some req =>
      by_cases panics : run.session.Panics req
      · rw [show late = _ from serve_none_panic run hread hreq panics,
          serve_none_panic run hread hreq panics]
        refine ⟨rfl, ?_⟩
        rw [← drained_queue_append, heard, heard]
        dsimp only
        rw [List.append_assoc]
      · generalize hwritten : (run.heard turn message).performed
          ((run.heard turn message).session.reaction turn.files req) = written
        -- Carrying out the request does not look at the queue.
        have hlate : late = (({ written with queue := written.queue ++ [event] } : Run).drained,
            outcomeOf req) := by
          rw [show late = _ from serve_none_request run hread hreq panics, ← hwritten]
          simp only [heard, performed, List.append_assoc]
        rw [hlate, serve_none_request run hread hreq panics, hwritten]
        refine ⟨rfl, ?_⟩
        rw [drained_drained, drained_drained, drained_queue_append]

/-- The run once a message has been read. -/
def hearing (run : Run) (message : Json) : Run :=
  { run with entries := run.entries ++ [.received message] }

theorem heard_idle (run : Run) {turn : Turn} (quiet : turn.arrivals = []) (message : Json) :
    run.idle.heard turn message = run.idle.hearing message := by
  rw [heard, drained_idle, quiet]
  rfl

theorem serveAll_single (faults : Faults) (run : Run) (turn : Turn) :
    serveAll faults run [turn] = run.serve faults turn := by
  generalize hserve : run.serve faults turn = served
  obtain ⟨next, outcome⟩ := served
  by_cases goesOn : outcome = .goOn
  · rw [goesOn] at hserve ⊢
    exact serveAll_goOn hserve []
  · exact serveAll_ended hserve goesOn []

theorem serveAll_append {faults : Faults} {run next : Run} {turns : List Turn}
    (h : serveAll faults run turns = (next, .goOn)) (rest : List Turn) :
    serveAll faults run (turns ++ rest) = serveAll faults next rest := by
  induction turns generalizing run with
  | nil =>
    cases h
    rfl
  | cons turn turns ih =>
    generalize hserve : run.serve faults turn = served
    obtain ⟨after, outcome⟩ := served
    by_cases goesOn : outcome = .goOn
    · rw [goesOn] at hserve
      rw [serveAll_goOn hserve] at h
      rw [List.cons_append, serveAll_goOn hserve]
      exact ih h
    · rw [serveAll_ended hserve goesOn] at h
      exact absurd (congrArg Prod.snd h) goesOn

/-- An event that arrives in the last of some turns. -/
theorem serveAll_late (run : Run) {turns : List Turn} (nonempty : turns ≠ [])
    (event : Link.Event) :
    ∃ turns', (serveAll Faults.none run turns').2 = (serveAll Faults.none run turns).2 ∧
      (serveAll Faults.none run turns').1.drained =
        (serveAll Faults.none run turns).1.drained.saying event := by
  induction turns generalizing run with
  | nil => exact absurd rfl nonempty
  | cons turn rest ih =>
    have late := run.serve_late turn event
    generalize hserve : run.serve Faults.none turn = served at late
    -- When no turn follows this one, the event arrives in it.
    have last (h : serveAll Faults.none run (turn :: rest) = served) :
        ∃ turns', (serveAll Faults.none run turns').2 =
            (serveAll Faults.none run (turn :: rest)).2 ∧
          (serveAll Faults.none run turns').1.drained =
            (serveAll Faults.none run (turn :: rest)).1.drained.saying event := by
      refine ⟨[{ turn with arrivals := turn.arrivals ++ [event] }], ?_⟩
      rw [h, serveAll_single]
      exact late
    obtain ⟨next, outcome⟩ := served
    by_cases goesOn : outcome = .goOn
    · rw [goesOn] at hserve last
      cases rest with
      | nil => exact last (serveAll_goOn hserve [])
      | cons second rest =>
        obtain ⟨turns', h⟩ := ih next (List.cons_ne_nil _ _)
        refine ⟨turn :: turns', ?_⟩
        rwa [serveAll_goOn hserve, serveAll_goOn hserve]
    · exact last (serveAll_ended hserve goesOn rest)

/-- A turn starts by reporting, so it may as well start after that. -/
theorem serve_drained (run : Run) (turn : Turn) :
    run.drained.serve Faults.none turn = run.serve Faults.none turn := by
  have heard_drained (message : Json) :
      run.drained.heard turn message = run.heard turn message := by
    rw [heard, heard, drained_drained]
  cases hread : turn.inbound with
  | error cause => rw [serve_none_error _ hread, serve_none_error _ hread, drained_drained]
  | ok message =>
    cases hreq : request? message with
    | none => rw [serve_none_other _ hread hreq, serve_none_other _ hread hreq, heard_drained]
    | some req =>
      have hsame : run.drained.session.Panics req ↔ run.session.Panics req := by
        obtain ⟨handles, hsession⟩ := run.session_drained
        exact Session.panics_congr (by rw [hsession])
      by_cases panics : run.session.Panics req
      · rw [serve_none_panic _ hread hreq (hsame.2 panics), serve_none_panic _ hread hreq panics,
          heard_drained]
      · rw [serve_none_request _ hread hreq (mt hsame.1 panics),
          serve_none_request _ hread hreq panics, heard_drained]

/-- A turn without arrivals leaves no event behind. -/
theorem queue_serve (run : Run) {turn : Turn} (quiet : turn.arrivals = []) :
    (run.serve Faults.none turn).1.queue = [] := by
  cases hread : turn.inbound with
  | error cause =>
    rw [serve_none_error _ hread, quiet]
    rfl
  | ok message =>
    cases hreq : request? message with
    | none =>
      rw [serve_none_other _ hread hreq, heard, quiet]
      rfl
    | some req =>
      by_cases panics : run.session.Panics req
      · rw [serve_none_panic _ hread hreq panics, heard, quiet]
        rfl
      · rw [serve_none_request _ hread hreq panics]
        rfl

end Run

namespace Steps

variable {link : Link} {s t u : State}

/-! ## Turns are schedules -/

/-- The second state can come about after the first. -/
def Reaches (s t : State) : Prop := ∃ moves, Schedule s moves t

theorem Reaches.refl (s : State) : Reaches s s := ⟨[], .nil⟩

theorem Reaches.step {move : Move} (first : Step s move t) (rest : Reaches t u) : Reaches s u := by
  obtain ⟨moves, schedule⟩ := rest
  exact ⟨move :: moves, .cons first schedule⟩

theorem Reaches.trans (first : Reaches s t) (second : Reaches t u) : Reaches s u := by
  obtain ⟨moves, before⟩ := first
  obtain ⟨more, after⟩ := second
  exact ⟨moves ++ more, before.append after⟩

theorem reaches_queued (run : Run) (stage : Stage) (queued events : List Link.Event) :
    Reaches ⟨run, stage, queued⟩
      ⟨{ run with queue := run.queue ++ events }, stage, queued ++ events⟩ := by
  induction events generalizing run queued with
  | nil =>
    rw [List.append_nil, List.append_nil]
    exact .refl _
  | cons event rest ih =>
    have later := ih { run with queue := run.queue ++ [event] } (queued ++ [event])
    simp only [List.append_assoc, List.singleton_append] at later
    exact .step (.queue event) later

theorem reaches_taken (run : Run) (taken queued : List Link.Event) (ahead : Ahead) :
    Reaches ⟨run, .taking taken ahead, queued⟩
      ⟨{ run with queue := [] }, .reporting (taken ++ run.queue) ahead, queued⟩ := by
  obtain ⟨session, nextSeq, entries, queue⟩ := run
  induction queue generalizing taken with
  | nil =>
    rw [List.append_nil]
    exact .step (.allTaken rfl rfl) (.refl _)
  | cons event rest ih =>
    have later := ih (taken ++ [event])
    simp only [List.append_assoc, List.singleton_append] at later
    exact .step (.take rfl rfl) later

theorem reaches_reported (run : Run) (left queued : List Link.Event) (ahead : Ahead) :
    Reaches ⟨run, .reporting left ahead, queued⟩
      ⟨run.performed (Run.reportActs run.session left), ahead.stage, queued⟩ := by
  induction left generalizing run with
  | nil =>
    rw [show Run.reportActs run.session [] = [] from rfl, Run.performed_nil]
    exact .step (.allReported rfl) (.refl _)
  | cons event rest ih =>
    refine .step (.report rfl) ?_
    rw [Run.performed_reportActs_cons]
    dsimp only
    rw [Run.perform_none]
    exact ih _

/-- Taking events and reporting them. -/
theorem reaches_drained (run : Run) (queued : List Link.Event) (ahead : Ahead) :
    Reaches ⟨run, .taking [] ahead, queued⟩ ⟨run.drained, ahead.stage, queued⟩ :=
  (reaches_taken run [] queued ahead).trans (reaches_reported _ _ queued ahead)

theorem reaches_performed (run : Run) (req : Request) (acts : List Act)
    (queued : List Link.Event) :
    Reaches ⟨run, .handling req acts, queued⟩ ⟨run.performed acts, .handling req [], queued⟩ := by
  induction acts generalizing run with
  | nil =>
    rw [Run.performed_nil]
    exact .refl _
  | cons act rest ih =>
    refine .step (.act rfl) ?_
    rw [Run.performed_cons]
    dsimp only
    rw [Run.perform_none]
    exact ih _

/-- Where a session is after turns that ended like this. -/
def Stage.following : Outcome → Stage
  | .goOn => .opening
  | outcome => .ended outcome

theorem stage_after (req : Request) :
    (Ahead.after req).stage = Stage.following (Run.outcomeOf req) := by
  unfold Ahead.after Run.outcomeOf
  split <;> rfl

/-- **A turn is a schedule**, in which its events are queued when it comes to read. -/
theorem reaches_serve (run : Run) (turn : Turn) (queued : List Link.Event) :
    Reaches ⟨run, .opening, queued⟩
      ⟨(run.serve Faults.none turn).1, .following (run.serve Faults.none turn).2,
        queued ++ turn.arrivals⟩ := by
  have reading := (reaches_drained run queued .reading).trans
    (reaches_queued run.drained .reading queued turn.arrivals)
  refine reading.trans ?_
  cases hread : turn.inbound with
  | error cause =>
    rw [Run.serve_none_error run hread]
    exact .step (.readNothing cause rfl) (.refl _)
  | ok message =>
    cases hreq : Run.request? message with
    | none =>
      rw [Run.serve_none_other run hread hreq]
      exact .step (.passOver rfl hreq) (.refl _)
    | some req =>
      have hplan : ∀ queue, ({ run.drained with queue } : Run).session.plan turn.files req =
          .error .panic ↔ run.session.Panics req := fun queue =>
        Session.plan_eq_panic_iff.trans (run.panics_heard turn message req)
      by_cases panics : run.session.Panics req
      · rw [Run.serve_none_panic run hread hreq panics]
        exact .step (.crash turn.files rfl hreq ((hplan _).2 panics)) (.refl _)
      · rw [Run.serve_none_request run hread hreq panics, ← stage_after]
        refine .step (.hear turn.files rfl hreq (mt (hplan _).1 panics))
          ((reaches_performed _ _ _ _).trans ?_)
        exact .step (.allDone rfl) (reaches_drained _ _ _)

/-- **Turns are schedules.** -/
theorem reaches_serveAll (run : Run) (turns : List Turn) (queued : List Link.Event) :
    ∃ arrived, arrived <+: turns.flatMap Turn.arrivals ∧
      Reaches ⟨run, .opening, queued⟩
        ⟨(Run.serveAll Faults.none run turns).1, .following (Run.serveAll Faults.none run turns).2,
          queued ++ arrived⟩ := by
  induction turns generalizing run queued with
  | nil => exact ⟨[], List.nil_prefix, by rw [List.append_nil]; exact .refl _⟩
  | cons turn rest ih =>
    have first := reaches_serve run turn queued
    generalize hserve : run.serve Faults.none turn = served at first
    obtain ⟨next, outcome⟩ := served
    by_cases goesOn : outcome = .goOn
    · subst goesOn
      obtain ⟨arrived, among, later⟩ := ih next (queued ++ turn.arrivals)
      rw [Run.serveAll_goOn hserve]
      refine ⟨turn.arrivals ++ arrived, ?_, first.trans ?_⟩
      · rw [List.flatMap_cons]
        exact (List.prefix_append_right_inj _).2 among
      · rw [← List.append_assoc]
        exact later
    · rw [Run.serveAll_ended hserve goesOn]
      exact ⟨turn.arrivals, List.flatMap_cons ▸ List.prefix_append _ _, first⟩

/-- **Every run of turns without faults comes about in a schedule**, in which no other events are
queued than those of the turns. -/
theorem reachable_serveAll (link : Link) (queue : List Link.Event) (turns : List Turn) :
    let result := Run.serveAll Faults.none { Run.start link with queue } turns
    ∃ arrived, arrived <+: turns.flatMap Turn.arrivals ∧
      Reachable link ⟨result.1, .following result.2, queue ++ arrived⟩ := by
  intro result
  obtain ⟨arrived, among, later⟩ :=
    reaches_serveAll { Run.start link with queue } turns queue
  exact ⟨arrived, among, (reaches_queued (.start link) .opening [] queue).trans later⟩

/-! ## Schedules show what turns show -/

/-- What a run has done is done in some turns, once all events are reported. -/
def Shown (link : Link) (outcome : Outcome) (run : Run) : Prop :=
  ∃ queue turns next,
    Run.serveAll Faults.none { Run.start link with queue } turns = (next, outcome) ∧
      run.idle = next.drained

/-- A run has heard a request and has performed some of the acts it takes. -/
def Midway (link : Link) (req : Request) (left : List Act) (run : Run) : Prop :=
  ∃ before message files done,
    Shown link .goOn before ∧ Run.request? message = some req ∧ ¬ before.session.Panics req ∧
      before.session.reaction files req = done ++ left ∧
      run.idle = (before.idle.hearing message).performed done

/-- The outcome of the turns up to now, when this is ahead. -/
def Ahead.outcome : Ahead → Outcome
  | .leaving => .disconnected
  | _ => .goOn

theorem outcome_after (req : Request) : (Ahead.after req).outcome = Run.outcomeOf req := by
  unfold Ahead.after Run.outcomeOf
  split <;> rfl

/-- What a session has done is done in some turns, at every stage. -/
def Accounted (link : Link) (s : State) : Prop :=
  match s.stage with
  | .taking _ ahead => Shown link ahead.outcome s.run
  | .reporting _ ahead => Shown link ahead.outcome s.run
  | .reading => Shown link .goOn s.run
  | .handling req left => Midway link req left s.run
  | .ended outcome => Shown link outcome s.run

variable {run run' : Run} {outcome : Outcome}

theorem shown_start (link : Link) : Shown link .goOn (.start link) :=
  ⟨[], [], .start link, rfl, (Run.drained_idle (.start link)).symm⟩

/-- Waiting events do not count. -/
theorem Shown.congr (h : Shown link outcome run) (same : run'.idle = run.idle) :
    Shown link outcome run' := by
  unfold Shown
  rwa [same]

/-- Reporting an event. -/
theorem Shown.saying (h : Shown link outcome run) (event : Link.Event) :
    Shown link outcome (run.saying event) := by
  obtain ⟨queue, turns, next, serves, same⟩ := h
  have told : (run.saying event).idle = next.drained.saying event :=
    congrArg (Run.saying · event) same
  by_cases none : turns = []
  · subst none
    cases serves
    refine ⟨queue ++ [event], [], _, rfl, ?_⟩
    rw [told]
    exact (Run.drained_queue_append { Run.start link with queue } event).symm
  · obtain ⟨turns', outcome', drained'⟩ :=
      Run.serveAll_late { Run.start link with queue } none event
    rw [serves] at outcome' drained'
    exact ⟨queue, turns', _, Prod.ext rfl outcome', told.trans drained'.symm⟩

/-- One more turn, in which no events arrive. -/
theorem Shown.serve (h : Shown link .goOn run) (turn : Turn) (quiet : turn.arrivals = []) :
    Shown link (run.idle.serve Faults.none turn).2 (run.idle.serve Faults.none turn).1 := by
  obtain ⟨queue, turns, next, serves, same⟩ := h
  rw [same, Run.serve_drained]
  refine ⟨queue, turns ++ [turn], (next.serve Faults.none turn).1, ?_, ?_⟩
  · rw [Run.serveAll_append serves, Run.serveAll_single]
  · rw [← Run.drained_idle, Run.idle_of_queue_nil (next.queue_serve quiet)]

theorem idle_perform (run : Run) (act : Act) :
    (run.perform Faults.none [act]).1.idle = run.idle.performed [act] := by
  rw [Run.perform_none]
  rfl

/-- No files, for turns that look at none. -/
def noFiles : Files.View := { read := fun _ => .error .notFound, canonical := fun _ => none }

theorem Shown.readNothing (h : Shown link .goOn run) (cause : Wire.ReadError) :
    Shown link (.readFailed cause) run := by
  have turn := h.serve ⟨.error cause, noFiles, []⟩ rfl
  rw [Run.serve_none_error _ rfl] at turn
  exact turn.congr (Run.drained_idle run).symm

theorem Shown.passOver (h : Shown link .goOn run) {message : Json}
    (other : Run.request? message = none) : Shown link .goOn (run.hearing message) := by
  have turn := h.serve ⟨.ok message, noFiles, []⟩ rfl
  rw [Run.serve_none_other _ rfl other] at turn
  rw [Run.heard_idle _ rfl] at turn
  exact turn.congr rfl

theorem Shown.crash (h : Shown link .goOn run) {message : Json} {req : Request}
    (asks : Run.request? message = some req) (panics : run.session.Panics req) :
    Shown link .panicked (run.hearing message) := by
  have turn := h.serve ⟨.ok message, noFiles, []⟩ rfl
  rw [Run.serve_none_panic run.idle rfl asks panics] at turn
  rw [Run.heard_idle _ rfl] at turn
  exact turn.congr rfl

/-- A request is carried out. -/
theorem Midway.shown {req : Request} (h : Midway link req [] run) :
    Shown link (Run.outcomeOf req) run := by
  obtain ⟨before, message, files, done, shown, asks, sound, reacts, same⟩ := h
  rw [List.append_nil] at reacts
  have turn := shown.serve ⟨.ok message, files, []⟩ rfl
  rw [Run.serve_none_request before.idle rfl asks sound, Run.heard_idle _ rfl] at turn
  rw [← reacts] at same
  have written := Run.drained_idle run
  rw [same] at written
  refine turn.congr (same.trans ?_)
  exact (congrArg Run.idle written).symm

/-- **One step** is accounted for in turns. -/
theorem accounted_step {move : Move} (step : Step s move t) (h : Accounted link s) :
    Accounted link t := by
  unfold Accounted at h
  cases step with
  | queue event => exact h
  | take turn next =>
    rw [turn] at h
    exact h
  | allTaken turn empty =>
    rw [turn] at h
    exact h
  | @report event left ahead turn =>
    -- As if the event had arrived during the last turn.
    rw [turn] at h
    rw [Run.perform_none]
    exact h.saying event
  | @allReported ahead turn =>
    rw [turn] at h
    cases ahead <;> exact h
  | readNothing cause turn =>
    rw [turn] at h
    exact h.readNothing cause
  | passOver turn other =>
    rw [turn] at h
    exact h.passOver other
  | hear files turn asks sound =>
    rw [turn] at h
    exact ⟨s.run, _, files, [], h, asks, mt Session.plan_eq_panic_iff.2 sound, rfl,
      (Run.performed_nil _).symm⟩
  | crash files turn asks panics =>
    rw [turn] at h
    exact h.crash asks (Session.plan_eq_panic_iff.1 panics)
  | @act req first left turn =>
    rw [turn] at h
    obtain ⟨before, message, files, done, shown, asks, sound, reacts, same⟩ := h
    refine ⟨before, message, files, done ++ [first], shown, asks, sound, ?_, ?_⟩
    · rw [reacts, List.append_assoc]
      rfl
    · rw [Run.performed_append, ← same]
      exact idle_perform _ _
  | @allDone req turn =>
    rw [turn] at h
    show Shown link (Ahead.after req).outcome s.run
    rw [outcome_after]
    exact h.shown

/-- **Schedules show what turns show.** When a message is about to be read or the session has ended,
the session and all that happened are those of some turns with the same outcome. -/
theorem Reachable.shown (h : Reachable link s) :
    (s.stage = .reading → Shown link .goOn s.run) ∧
      ∀ outcome, s.stage = .ended outcome → Shown link outcome s.run := by
  obtain ⟨moves, schedule⟩ := h
  have accounted : Accounted link s := schedule.invariant accounted_step (shown_start link)
  unfold Accounted at accounted
  constructor
  · intro reads
    rwa [reads] at accounted
  · intro outcome ends
    rwa [ends] at accounted

end Steps

end TabTools.Debug
