import TabTools.Proofs.Debug.Answers

/-!
# Turns one by one

**One turn** (`serve_cases`). Whatever writes fail, a turn handles at most one request. All else
that happens in it is beside the point (`Idles`): a message is heard, events of the tab server are
reported, and the session changes in its handles only.

**One request** (`handle_played`). What a request does is the beginning of its plan, up to the write
that fails if there is one, and perhaps a failure that is answered.

**Scenes** (`Run.scenes`). A run as the list of its turns, each with the run before and after it.
Together they hold all that happens (`entries_serveAll`); what the turns after a scene keep still
holds when a later one begins (`scenes_kept`).
-/

namespace TabTools.Debug

/-- Whether an entry tells nothing of requests: something was heard, or a line of output written. -/
def Entry.isAside : Entry → Bool
  | .received _ => true
  | .sent _ (.event (.output _ _)) _ => true
  | _ => false

/-- The messages that were read, as entries show them. -/
def heardIn (entries : List Entry) : List Json := entries.filterMap Entry.received?

/-- The message that was tried to be written, delivered or not. -/
def Entry.attempt? : Entry → Option Message
  | .sent _ m _ => some m
  | _ => none

def attempted (entries : List Entry) : List Message := entries.filterMap Entry.attempt?

/-- The well-formed request that a turn brings. -/
def Turn.request? (turn : Turn) : Option Request :=
  match turn.inbound with
  | .error _ => none
  | .ok message => Run.request? message

namespace Run

/-! ## Beside the point -/

/-- Nothing but hearing and reporting leads from one run to the next; `more` is what was added. -/
structure Idles (run next : Run) (more : List Entry) : Prop where
  session : ∃ handles, next.session = { run.session with handles }
  entries : next.entries = run.entries ++ more
  aside : ∀ e ∈ more, e.isAside = true

theorem Idles.trans {run next last : Run} {more rest : List Entry} (h : run.Idles next more)
    (h' : next.Idles last rest) : run.Idles last (more ++ rest) where
  session := by
    obtain ⟨handles, hnext⟩ := h.session
    obtain ⟨handles', hlast⟩ := h'.session
    exact ⟨handles', by rw [hlast, hnext]⟩
  entries := by rw [h'.entries, h.entries, List.append_assoc]
  aside e he := (List.mem_append.1 he).elim (h.aside e) (h'.aside e)

theorem idles_queue (run : Run) (queue : List Link.Event) : run.Idles { run with queue } [] :=
  ⟨⟨_, rfl⟩, (List.append_nil _).symm, by simp⟩

theorem idles_hear (run : Run) (message : Json) :
    run.Idles { run with entries := run.entries ++ [.received message] } [.received message] :=
  ⟨⟨_, rfl⟩, rfl, by simp [Entry.isAside]⟩

theorem traceOn_not_mem_reportActs (s : Session) (events : List Link.Event) :
    .traceOn ∉ reportActs s events := by
  induction events generalizing s with
  | nil => simp [reportActs]
  | cons event rest ih => simp [reportActs, Session.sayLine, ih]

theorem aside_recorded {s : Session} {events : List Link.Event} {acts : List Act}
    (h : ∀ act ∈ acts, act ∈ reportActs s events) (seq : Nat) :
    ∀ e ∈ recorded seq acts, e.isAside = true := by
  induction acts generalizing seq with
  | nil => intro e he; cases he
  | cons act acts ih =>
    have hrest := ih fun act hact => h act (List.mem_cons_of_mem _ hact)
    cases act with
    | traceOn => exact absurd (h _ (.head _)) (traceOn_not_mem_reportActs s events)
    | write after m =>
      obtain ⟨-, text, handle, rfl⟩ := write_mem_reportActs (h _ (.head _))
      intro e he
      rcases List.mem_cons.1 he with rfl | he
      · rfl
      · exact hrest (seq + 1) e he

theorem heardIn_recorded (seq : Nat) (acts : List Act) : heardIn (recorded seq acts) = [] := by
  rw [heardIn, filterMap_recorded (g := fun _ => none) (fun _ _ => rfl) rfl]
  simp

theorem attempted_recorded (seq : Nat) (acts : List Act) :
    attempted (recorded seq acts) = messages acts := by
  rw [attempted, filterMap_recorded (g := some) (fun _ _ => rfl) rfl]
  simp

/-- Reports are beside the point, also when one of them fails. -/
theorem idles_drain (run : Run) (faults : Faults) :
    ∃ more, run.Idles (run.drain faults).1 more ∧ heardIn more = [] := by
  unfold drain
  generalize hresult : ({ run with queue := [] } : Run).perform faults
    (reportActs run.session run.queue) = result
  cases hresult ▸
    perform_cases faults { run with queue := [] } (reportActs run.session run.queue) with
  | through sound =>
    exact ⟨recorded run.nextSeq (reportActs run.session run.queue),
      ⟨finalSession_reportActs run.session run.queue, rfl, aside_recorded (fun _ h => h) _⟩,
      heardIn_recorded _ _⟩
  | @broken before rest after m failure split sound fault =>
    have hmem : .write after m ∈ reportActs run.session run.queue := by
      rw [split]
      exact List.mem_append_right _ (.head _)
    obtain ⟨hsession, text, handle, rfl⟩ := write_mem_reportActs hmem
    have hbefore : ∀ act ∈ before, act ∈ reportActs run.session run.queue := fun act hact => by
      rw [split]
      exact List.mem_append_left _ hact
    refine ⟨recorded run.nextSeq before ++
      [.sent (run.nextSeq + (messages before).length) (.event (.output text handle)) false],
      ⟨hsession, ?_, ?_⟩, ?_⟩
    · simp only [missed, performed, List.append_assoc]
    · intro e he
      rcases List.mem_append.1 he with he | he
      · exact aside_recorded hbefore _ e he
      · rw [List.mem_singleton.1 he]
        rfl
    · rw [heardIn, List.filterMap_append, ← heardIn, heardIn_recorded]
      rfl

/-! ## One turn -/

/-- How a turn can go. -/
inductive Served (faults : Faults) (run : Run) (turn : Turn) : Run → Prop
  /-- Nothing is asked, or the session ends before it is heard. -/
  | idle {next : Run} {more : List Entry} (idles : run.Idles next more)
      (unasked : turn.request? = none ∨ heardIn more = []) : Served faults run turn next
  | handled {req : Request} {message : Json} {before next : Run} {early late : List Entry}
      (asks : turn.request? = some req) (hears : heardIn early = [message])
      (idles : run.Idles before early)
      (closes : (before.handle faults turn.files req).1.Idles next late) :
      Served faults run turn next

/-- **A turn handles one request at most.** -/
theorem serve_cases (run : Run) (faults : Faults) (turn : Turn) :
    Served faults run turn (run.serve faults turn).1 := by
  obtain ⟨reports, hdrain, hdeaf⟩ := run.idles_drain faults
  unfold serve
  split
  · rename_i drained failure heq
    rw [heq] at hdrain
    exact .idle hdrain (.inr hdeaf)
  · rename_i drained heq
    rw [heq] at hdrain
    have hqueued := hdrain.trans (drained.idles_queue (drained.queue ++ turn.arrivals))
    split
    · rename_i cause hread
      exact .idle hqueued (.inl (by simp [Turn.request?, hread]))
    · rename_i message hread
      have hheard := hqueued.trans (idles_hear _ message)
      have hearing : heardIn (reports ++ [] ++ [.received message]) = [message] := by
        simp only [heardIn, List.append_nil, List.filterMap_append] at hdeaf ⊢
        rw [hdeaf]
        rfl
      have hrequest : turn.request? = request? message := by simp [Turn.request?, hread]
      dsimp only
      split
      · rename_i hreq
        exact .idle hheard (.inl (hrequest.trans hreq))
      · rename_i req hreq
        -- What follows the handling, if anything does, is one more report.
        have hafter : ∀ (next : Run) (outcome : Outcome),
            ∃ late, next.Idles (serve.afterwards (next.drain faults) outcome).1 late := by
          intro next outcome
          obtain ⟨late, hlate, -⟩ := next.idles_drain faults
          refine ⟨late, ?_⟩
          unfold serve.afterwards
          split <;> simp_all
        have handled : ∀ {next : Run} {late : List Entry}, (handle _ faults turn.files req).1.Idles
            next late → Served faults run turn next :=
          .handled (hrequest.trans hreq) hearing hheard
        split
        · rename_i next hnext
          rw [hnext] at handled
          obtain ⟨late, hlate⟩ := hafter next .goOn
          exact handled hlate
        · rename_i next hnext
          rw [hnext] at handled
          obtain ⟨late, hlate⟩ := hafter next .disconnected
          exact handled hlate
        · exact handled (idles_queue _ _)

/-! ## One request -/

/-- What a request does: the session it leaves and the messages that were tried to be written. -/
inductive Played (s : Session) (files : Files.View) (req : Request) : Session → List Message → Prop
  | refused {refusal : Refusal} (refuses : s.plan files req = .error (.refused s refusal)) :
      Played s files req s [.failure req.answered refusal.message]
  | panicked (panics : s.Panics req) : Played s files req s []
  | done {acts : List Act} (plans : s.plan files req = .ok acts) :
      Played s files req (finalSession s acts) (messages acts)
  | broken {before rest : List Act} {after : Session} {m : Message} {failure : String}
      (plans : s.plan files req = .ok (before ++ .write after m :: rest)) :
      Played s files req after (messages before ++ [m, .failure req.answered failure])

/-- **A request is played from the beginning of its plan.** -/
theorem handle_played (run : Run) (faults : Faults) (files : Files.View) (req : Request) :
    ∃ more, (run.handle faults files req).1.entries = run.entries ++ more ∧
      Played run.session files req (run.handle faults files req).1.session (attempted more) := by
  generalize hresult : run.handle faults files req = result
  cases hresult ▸ handle_cases faults run files req with
  | @refused refusal refuses =>
    rw [fail_run]
    exact ⟨_, rfl, .refused refuses⟩
  | panicked panics => exact ⟨[], (List.append_nil _).symm, .panicked panics⟩
  | @done acts plans sound =>
    refine ⟨recorded run.nextSeq acts, rfl, ?_⟩
    rw [attempted_recorded]
    exact .done plans
  | @broken before rest after m failure plans sound fault =>
    rw [fail_run]
    generalize (faults ((run.performed before).missed after m).nextSeq).isNone = delivered
    refine ⟨recorded run.nextSeq before ++
      [.sent (run.performed before).nextSeq m false,
        .sent ((run.performed before).nextSeq + 1) (.failure req.answered failure) delivered],
      ?_, ?_⟩
    · simp only [missed, performed, List.append_assoc, List.cons_append, List.nil_append]
    · rw [attempted, List.filterMap_append, ← attempted, attempted_recorded]
      exact .broken plans

end Run

/-! ## Scenes -/

/-- One turn of a run, with the run before and after it. -/
structure Scene where
  before : Run
  turn : Turn
  after : Run

/-- What happened in a scene. -/
def Scene.entries (scene : Scene) : List Entry :=
  scene.after.entries.drop scene.before.entries.length

/-- Whether the turn's message was read. -/
def Scene.hears (scene : Scene) : Bool := !(heardIn scene.entries).isEmpty

namespace Run

/-- The turns that are served, up to the one that ends the session. -/
def scenes (faults : Faults) : Run → List Turn → List Scene
  | _, [] => []
  | run, turn :: rest =>
    match run.serve faults turn with
    | (next, .goOn) => ⟨run, turn, next⟩ :: scenes faults next rest
    | (next, _) => [⟨run, turn, next⟩]

theorem scenes_goOn {faults : Faults} {run next : Run} {turn : Turn}
    (h : run.serve faults turn = (next, .goOn)) (rest : List Turn) :
    run.scenes faults (turn :: rest) = ⟨run, turn, next⟩ :: next.scenes faults rest := by
  simp only [scenes, h]

theorem scenes_ended {faults : Faults} {run next : Run} {turn : Turn} {outcome : Outcome}
    (h : run.serve faults turn = (next, outcome)) (hended : outcome ≠ .goOn) (rest : List Turn) :
    run.scenes faults (turn :: rest) = [⟨run, turn, next⟩] := by
  cases outcome with
  | goOn => exact (hended rfl).elim
  | _ => simp only [scenes, h]

theorem scenes_cons (faults : Faults) (run : Run) (turn : Turn) (rest : List Turn) :
    ∃ more, run.scenes faults (turn :: rest) =
      ⟨run, turn, (run.serve faults turn).1⟩ :: (run.serve faults turn).1.scenes faults more := by
  obtain ⟨⟨next, outcome⟩, hserve⟩ : ∃ result, run.serve faults turn = result := ⟨_, rfl⟩
  rw [hserve]
  by_cases hended : outcome = .goOn
  · subst hended
    exact ⟨rest, scenes_goOn hserve rest⟩
  · exact ⟨[], scenes_ended hserve hended rest⟩

/-- The first scene is a turn of the run, and what follows is the rest of the run. -/
theorem scenes_eq_cons {faults : Faults} {run : Run} {turns : List Turn} {scene : Scene}
    {late : List Scene} (h : run.scenes faults turns = scene :: late) :
    scene.before = run ∧ scene.after = (scene.before.serve faults scene.turn).1 ∧
      ∃ rest, scene.after.scenes faults rest = late := by
  cases turns with
  | nil => cases h
  | cons turn rest =>
    obtain ⟨more, hmore⟩ := run.scenes_cons faults turn rest
    rw [hmore] at h
    cases h
    exact ⟨rfl, rfl, more, rfl⟩

/-- From any scene on, the scenes of a run are those of a run. -/
theorem scenes_suffix {faults : Faults} {run : Run} {turns : List Turn} {early late : List Scene}
    (h : run.scenes faults turns = early ++ late) :
    ∃ (start : Run) (rest : List Turn), start.scenes faults rest = late := by
  induction early generalizing run turns with
  | nil => exact ⟨run, turns, h⟩
  | cons first early ih =>
    obtain ⟨-, -, rest, hrest⟩ := scenes_eq_cons h
    exact ih hrest

/-- So it is with any later scene. -/
theorem scenes_split {faults : Faults} {run : Run} {turns : List Turn} {early late : List Scene}
    {scene : Scene} (h : run.scenes faults turns = early ++ scene :: late) :
    scene.after = (scene.before.serve faults scene.turn).1 ∧
      ∃ rest, scene.after.scenes faults rest = late := by
  obtain ⟨start, turns, hstart⟩ := scenes_suffix h
  exact (scenes_eq_cons hstart).2

/-- **What turns keep**: it holds when a later scene begins. -/
theorem scenes_kept {faults : Faults} {P : Run → Prop} {Q : Scene → Prop}
    (step : ∀ scene : Scene, scene.after = (scene.before.serve faults scene.turn).1 →
      P scene.before → Q scene → P scene.after)
    {run : Run} {turns : List Turn} {between later : List Scene} {next : Scene} (hrun : P run)
    (h : run.scenes faults turns = between ++ next :: later)
    (hbetween : ∀ scene ∈ between, Q scene) : P next.before := by
  induction between generalizing run turns with
  | nil =>
    rw [(scenes_eq_cons h).1]
    exact hrun
  | cons first between ih =>
    obtain ⟨rfl, hafter, rest, hrest⟩ := scenes_eq_cons h
    have hkept := step first hafter hrun (hbetween _ (.head _))
    exact ih hkept hrest fun scene hscene => hbetween scene (List.mem_cons_of_mem _ hscene)

theorem entries_serve (run : Run) (faults : Faults) (turn : Turn) :
    ∃ more, (run.serve faults turn).1.entries = run.entries ++ more := by
  cases run.serve_cases faults turn with
  | idle idles _ => exact ⟨_, idles.entries⟩
  | @handled req message before next early late asks hears idles closes =>
    obtain ⟨more, hmore, -⟩ := before.handle_played faults turn.files req
    exact ⟨early ++ more ++ late, by
      rw [closes.entries, hmore, idles.entries, List.append_assoc, List.append_assoc,
        List.append_assoc]⟩

/-- **The scenes hold all that happens.** -/
theorem entries_serveAll (faults : Faults) (run : Run) (turns : List Turn) :
    (run.serveAll faults turns).1.entries =
      run.entries ++ (run.scenes faults turns).flatMap Scene.entries := by
  induction turns generalizing run with
  | nil => simp [serveAll, scenes]
  | cons turn rest ih =>
    obtain ⟨more, hmore⟩ := run.entries_serve faults turn
    obtain ⟨⟨next, outcome⟩, hserve⟩ : ∃ result, run.serve faults turn = result := ⟨_, rfl⟩
    have hscene : Scene.entries ⟨run, turn, next⟩ = more := by
      rw [hserve] at hmore
      rw [Scene.entries, show next.entries = run.entries ++ more from hmore, List.drop_left]
    rw [hserve] at hmore
    by_cases hended : outcome = .goOn
    · subst hended
      rw [serveAll_goOn hserve, scenes_goOn hserve, ih, List.flatMap_cons, hscene,
        show next.entries = run.entries ++ more from hmore, List.append_assoc]
    · rw [serveAll_ended hserve hended, scenes_ended hserve hended, List.flatMap_cons, hscene,
        List.flatMap_nil, List.append_nil]
      exact hmore

end Run

/-! ## What a scene shows -/

/-- How a scene can go: all of it is beside the point, or a request is played between two such
parts. -/
inductive Scene.Plays (scene : Scene) : Prop
  | idle (session : ∃ handles, scene.after.session = { scene.before.session with handles })
      (aside : ∀ e ∈ scene.entries, e.isAside = true)
      (unasked : scene.turn.request? = none ∨ scene.hears = false)
  | handled {req : Request} {s last : Session} {early late : List Entry} {sent : List Entry}
      (asks : scene.turn.request? = some req) (hears : scene.hears = true)
      (opens : ∃ handles, s = { scene.before.session with handles })
      (plays : Run.Played s scene.turn.files req last (attempted sent))
      (closes : ∃ handles, scene.after.session = { last with handles })
      (entries : scene.entries = early ++ sent ++ late)
      (aside_early : ∀ e ∈ early, e.isAside = true) (aside_late : ∀ e ∈ late, e.isAside = true)

/-- **A scene plays one request at most.** -/
theorem Scene.plays {faults : Faults} {scene : Scene}
    (h : scene.after = (scene.before.serve faults scene.turn).1) : scene.Plays := by
  have hserved := scene.before.serve_cases faults scene.turn
  rw [← h] at hserved
  cases hserved with
  | @idle _ more idles unasked =>
    have hentries : scene.entries = more := by rw [Scene.entries, idles.entries, List.drop_left]
    refine .idle idles.session (hentries ▸ idles.aside) (unasked.imp_right fun hdeaf => ?_)
    rw [Scene.hears, hentries, hdeaf]
    rfl
  | @handled req message before _ early late asks hears idles closes =>
    obtain ⟨sent, hsent, hplayed⟩ := before.handle_played faults scene.turn.files req
    have hentries : scene.entries = early ++ sent ++ late := by
      rw [Scene.entries, closes.entries, hsent, idles.entries, List.append_assoc, List.append_assoc,
        List.drop_left, List.append_assoc]
    have hheard : scene.hears = true := by
      rw [Scene.hears, hentries, heardIn, List.append_assoc, List.filterMap_append]
      rw [heardIn] at hears
      rw [hears]
      rfl
    exact .handled asks hheard idles.session hplayed closes.session hentries idles.aside
      closes.aside

theorem attempted_append (xs ys : List Entry) :
    attempted (xs ++ ys) = attempted xs ++ attempted ys := List.filterMap_append

/-- What is beside the point is not seen by a reading that passes over lines of output. -/
theorem filterMap_attempted_aside {β : Type} {g : Message → Option β}
    (houtput : ∀ text handle, g (.event (.output text handle)) = none) {entries : List Entry}
    (h : ∀ e ∈ entries, e.isAside = true) : (attempted entries).filterMap g = [] := by
  rw [attempted, List.filterMap_filterMap, List.filterMap_eq_nil_iff]
  intro e he
  have haside := h e he
  match e with
  | .received _ => rfl
  | .sent _ (.event (.output text handle)) _ => exact houtput text handle

theorem filterMap_attempted_played {β : Type} {g : Message → Option β}
    (houtput : ∀ text handle, g (.event (.output text handle)) = none)
    {early sent late : List Entry} (hearly : ∀ e ∈ early, e.isAside = true)
    (hlate : ∀ e ∈ late, e.isAside = true) :
    (attempted (early ++ sent ++ late)).filterMap g = (attempted sent).filterMap g := by
  rw [attempted_append, attempted_append, List.filterMap_append, List.filterMap_append,
    filterMap_attempted_aside houtput hearly, filterMap_attempted_aside houtput hlate,
    List.nil_append, List.append_nil]

end TabTools.Debug
