import TabTools.Proofs.Debug.Refusal
import TabTools.Proofs.Debug.Scenes

/-!
# Termination is final

**Theorem (`termination_final`).** Whatever is asked, whatever files there are and whatever writes
fail: from one program that is loaded to the next, the end of the program is told once at most, it
is the last thing told about the program, and every request to run on that comes after it is
refused.

The invariant is that the session is over (`Session.isOver`): its program has terminated, or the
client has disconnected, which ends the run unless the answer to that is lost. A request that loads
no program leaves the session over and tells nothing about a program (`plan_over`), and the plan
that tells of the end has nothing after it and leaves the session over, even when telling fails
(`plan_terminated`).
-/

namespace TabTools.Debug

/-- What a message tells about the program: that it stopped, that it ended, or that a breakpoint
became verified. -/
def Message.verdict? : Message → Option Event
  | .event e => if e.isVerdict then some e else none
  | _ => none

/-- What was told about the program, delivered or not. -/
def verdicts (entries : List Entry) : List Event :=
  (attempted entries).filterMap Message.verdict?

/-- Whether a command loads a program, given the files. -/
def Command.loads (files : Files.View) : Command → Bool
  | .launch args => args.program.any fun path => (Session.load files path).isOk
  | _ => false

namespace Scene

def verdicts (scene : Scene) : List Event := Debug.verdicts scene.entries

/-- Whether a program is loaded in a scene. -/
def loads (scene : Scene) : Bool :=
  scene.hears && scene.turn.command?.any (·.loads scene.turn.files)

/-- The responses of a scene, delivered or not. -/
def answers (scene : Scene) : List Message :=
  (attempted scene.entries).filterMap fun m => m.answered?.map fun _ => m

end Scene

/-! ## Plans of a session that is over -/

namespace Session

/-- Whether the program has ended and no other was loaded since. -/
def isOver (s : Session) : Bool :=
  match s.phase with
  | .terminated => true
  | .disconnected => true
  | _ => false

variable {s : Session} {files : Files.View} {req : Request} {acts : List Act}

theorem isOver_iff : s.isOver = true ↔ s.phase = .terminated ∨ s.phase = .disconnected := by
  unfold isOver
  cases s.phase <;> simp

theorem not_live_of_over (h : s.isOver = true) : s.isLive = false := by
  unfold isLive
  rcases isOver_iff.1 h with h | h <;> rw [h]

/-- What an act leaves as it is: nothing is told about the program, and the phase is the same. -/
structure Settled (s : Session) (acts : List Act) : Prop where
  silent : ∀ m ∈ messages acts, m.verdict? = none
  phase : ∀ after m, .write after m ∈ acts → after.phase = s.phase

theorem settled_succeed {t : Session} (h : t.phase = s.phase) (req : Request) (body : Body) :
    Settled s [t.succeed req body] where
  silent := by simp [succeed, Message.verdict?]
  phase := by simp [succeed, h]

theorem settled_initializeAdapter (h : s.isOver = true) (req : Request)
    (args : InitializeArguments) : Settled s (s.initializeAdapter req args) where
  silent := by simp [initializeAdapter, succeed, Message.verdict?, Event.isVerdict]
  phase := by
    have hphase : s.phase ≠ .uninitialized := by rcases isOver_iff.1 h with h | h <;> simp [h]
    intro after m hmem
    simp only [initializeAdapter, succeed, if_neg hphase, List.mem_cons, List.not_mem_nil, or_false,
      Act.write.injEq] at hmem
    rcases hmem with ⟨rfl, -⟩ | ⟨rfl, -⟩ <;> rfl

/-- A session that is over refuses to run on. -/
theorem refuses_over (hover : s.isOver = true) {command : Command}
    (decodes : Command.ofRequest req = .ok command) (runs : command.runsOn = true)
    (files : Files.View) :
    ∃ refusal, s.plan files req = .error (.refused s refusal) ∧
      (s.phase = .terminated → refusal = .terminated) := by
  by_cases hended : s.phase = .terminated
  · exact ⟨_, Refuses.plan_eq (.terminated decodes runs hended), fun _ => rfl⟩
  · have hrefuses : Refuses s files req .notLaunched :=
      .notLaunched decodes runs (not_live_of_over hover) hended
    exact ⟨_, hrefuses.plan_eq, fun h => absurd h hended⟩

/-- **A session that is over stays over**: without a program to load, a request changes nothing but
by disconnecting. -/
theorem plan_over {command : Command} (hover : s.isOver = true)
    (decodes : Command.ofRequest req = .ok command) (hloads : command.loads files = false)
    (hplan : s.plan files req = .ok acts) :
    Settled s acts ∨ command = .disconnect ∧
      ∃ link, acts = [({ s with phase := .disconnected, link }).succeed req .nothing] := by
  have hruns : command.runsOn ≠ true := fun runs => by
    obtain ⟨refusal, hrefuses, -⟩ := refuses_over hover decodes runs files
    cases hplan.symm.trans hrefuses
  unfold plan at hplan
  rw [decodes] at hplan
  cases command with
  | initializeAdapter args => cases hplan; exact .inl (settled_initializeAdapter hover req args)
  | launch args =>
    dsimp only [launch] at hplan
    split at hplan
    · cases hplan
    · rename_i path hpath
      simp only [Command.loads, hpath, Option.any_some] at hloads
      split at hplan
      · cases hplan
      · rename_i source hsource
        rw [hsource] at hloads
        cases hloads
  | setBreakpoints args =>
    dsimp only [setBreakpoints] at hplan
    split at hplan
    · cases hplan
    · split at hplan <;> cases hplan
      exact .inl (settled_succeed (by rfl) req _)
  | stackTrace args =>
    have hplan : s.stackTrace req args = .ok acts := hplan
    generalize s.stackTrace req args = result, s.stackTrace_cases req args = traced at hplan
    cases traced with
    | refused | panicked => cases hplan
    | told => cases hplan; exact .inl (settled_succeed rfl req _)
  | «variables» args =>
    dsimp only [listVariables] at hplan
    split at hplan <;> cases hplan <;> exact .inl (settled_succeed (by rfl) req _)
  | continueForward | continueBackward | stepForward | stepBackward => exact absurd rfl hruns
  | terminate =>
    dsimp only at hplan
    rw [not_live_of_over hover] at hplan
    cases hplan
    exact .inl (settled_succeed (by rfl) req _)
  | disconnect => cases hplan; exact .inr ⟨rfl, _, rfl⟩
  | _ => cases hplan; exact .inl (settled_succeed (by rfl) req _)

/-! ## Plans that end a program -/

theorem terminated_not_mem_stopAt (s : Session) (req : Request) (line : Nat) (reason : StopReason)
    (hit : Option Nat) (verified : Option Breakpoint) :
    .event .terminated ∉ messages (s.stopAt req line reason hit verified) := by
  cases verified <;> simp [messages_stopAt]

/-- The end of a program: it is answered, then told, and the phase is `terminated` from then on. -/
structure Ends (req : Request) (s : Session) (acts : List Act) : Prop where
  messages_eq : messages acts = [.success req.answered .nothing, .event .terminated]
  phase : (finalSession s acts).phase = .terminated

theorem ends_resume {t : Session} {direction : Direction} {p : Probe}
    (h : .event .terminated ∈ messages (s.resume req direction p)) :
    Ends req t (s.resume req direction p) := by
  generalize hacts : s.resume req direction p = acts at h
  cases hacts ▸ resume_cases s req direction p with
  | halted _ => exact absurd h (terminated_not_mem_stopAt _ _ _ _ _ _)
  | ended _ => exact ⟨rfl, rfl⟩
  | rewound _ => exact absurd h (terminated_not_mem_stopAt _ _ _ _ _ _)

theorem ends_start {t : Session} {args : LaunchArguments}
    (h : .event .terminated ∈ messages (s.start req args)) : Ends req t (s.start req args) := by
  unfold start at h ⊢
  split at h
  · exact absurd h (terminated_not_mem_stopAt _ _ _ _ _ _)
  · rename_i hrun
    rw [if_neg hrun]
    exact ends_resume h

/-- **The plan that tells of the end tells nothing else.** -/
theorem plan_terminated (hplan : s.plan files req = .ok acts)
    (h : .event .terminated ∈ messages acts) : Ends req s acts := by
  cases plan_cases hplan with
  | answer handles body _ => simp [succeed] at h
  | setBreakpoints key source lines => simp [succeed] at h
  | initializeAdapter args => simp [initializeAdapter, succeed] at h
  | launch args _ _ => exact ends_start h
  | launchTraced args _ _ =>
    obtain ⟨hmessages, hphase⟩ := ends_start (t := s) h
    exact ⟨hmessages, hphase⟩
  | resume direction p _ => exact ends_resume h
  | terminate =>
    split at h
    · rename_i hlive
      rw [if_pos hlive]
      exact ⟨rfl, rfl⟩
    · simp [succeed] at h
  | disconnect link => simp [succeed] at h

end Session

/-! ## Requests -/

theorem finalSession_of_silent {s : Session} {acts : List Act} (h : messages acts = []) :
    finalSession s acts = s := by
  induction acts with
  | nil => rfl
  | cons act acts ih =>
    cases act with
    | traceOn => exact ih h
    | write after m => cases h

namespace Run

variable {s last : Session} {files : Files.View} {req : Request} {sent : List Message}

/-- **A request after the end**, if it loads no program, tells nothing about one and leaves the
phase as it is, or disconnects. -/
theorem played_over {command : Option Command} (hover : s.isOver = true)
    (hcommand : command = (Command.ofRequest req).toOption)
    (hloads : command.any (·.loads files) = false) (h : Played s files req last sent) :
    sent.filterMap Message.verdict? = [] ∧
      (last.phase = s.phase ∨ command = some .disconnect ∧ last.phase = .disconnected) := by
  -- What a plan does, it does from its beginning to any of its writes.
  have hplans : ∀ {acts}, s.plan files req = .ok acts →
      (messages acts).filterMap Message.verdict? = [] ∧ ∀ after m, .write after m ∈ acts →
        after.phase = s.phase ∨ command = some .disconnect ∧ after.phase = .disconnected := by
    intro acts hplan
    cases decodes : Command.ofRequest req with
    | error e => simp [Session.plan, decodes, Session.refuse] at hplan
    | ok name =>
      rw [decodes] at hcommand
      subst hcommand
      rcases Session.plan_over hover decodes hloads hplan with hsettled | ⟨rfl, link, rfl⟩
      · exact ⟨List.filterMap_eq_nil_iff.2 hsettled.silent, fun after m hmem =>
          .inl (hsettled.phase after m hmem)⟩
      · refine ⟨rfl, fun after m hmem => .inr ⟨rfl, ?_⟩⟩
        cases List.mem_singleton.1 hmem
        rfl
  cases h with
  | refused | panicked => exact ⟨rfl, .inl rfl⟩
  | done plans =>
    obtain ⟨hsilent, hphase⟩ := hplans plans
    exact ⟨hsilent, finalSession_induction (.inl rfl) hphase⟩
  | @broken before rest after m failure plans =>
    obtain ⟨hsilent, hphase⟩ := hplans plans
    rw [messages_append, messages_write, List.filterMap_append, List.append_eq_nil_iff,
      List.filterMap_cons] at hsilent
    refine ⟨?_, hphase last m (List.mem_append_right _ (.head _))⟩
    rw [List.filterMap_append, hsilent.1, List.nil_append, List.filterMap_cons]
    cases hm : m.verdict? with
    | none => rfl
    | some e => simp [hm] at hsilent

/-- **A request that tells of the end** tells nothing else, and the program has terminated from then
on. -/
theorem played_terminated (h : Played s files req last sent)
    (hterminated : .event .terminated ∈ sent) :
    sent.filterMap Message.verdict? = [.terminated] ∧ last.phase = .terminated := by
  cases h with
  | refused | panicked => simp at hterminated
  | done plans =>
    obtain ⟨hmessages, hphase⟩ := Session.plan_terminated plans hterminated
    rw [hmessages]
    exact ⟨rfl, hphase⟩
  | @broken before rest after m failure plans =>
    have hmem : .event .terminated ∈ messages (before ++ .write last m :: rest) := by
      rw [messages_append, messages_write]
      simp only [List.mem_append, List.mem_cons, List.not_mem_nil, or_false, reduceCtorEq]
        at hterminated ⊢
      exact hterminated.imp_right .inl
    obtain ⟨hmessages, hphase⟩ := Session.plan_terminated plans hmem
    rw [messages_append, messages_write] at hmessages
    rw [finalSession_append] at hphase
    -- The write that failed is the one that tells of the end, for it is the last of the plan.
    match hbefore : messages before, hmessages with
    | [], hmessages =>
      obtain ⟨rfl, -⟩ := List.cons.inj hmessages
      simp [hbefore] at hterminated
    | [_], hmessages =>
      obtain ⟨rfl, hrest⟩ := List.cons.inj hmessages
      obtain ⟨rfl, hsilent⟩ := List.cons.inj hrest
      refine ⟨rfl, ?_⟩
      rwa [finalSession, finalSession_of_silent hsilent] at hphase
    | _ :: _ :: early, hmessages => simp at hmessages

end Run

/-! ## Scenes -/

theorem Turn.command?_of_request {turn : Turn} {req : Request} (h : turn.request? = some req) :
    turn.command? = (Command.ofRequest req).toOption := by
  cases hread : turn.inbound with
  | error cause => simp [Turn.request?, hread] at h
  | ok message =>
    simp only [Turn.request?, hread] at h
    simp [Turn.command?, hread, h]

namespace Scene

variable {faults : Faults} {scene : Scene}

theorem verdicts_idle (h : ∀ e ∈ scene.entries, e.isAside = true) : scene.verdicts = [] :=
  filterMap_attempted_aside (fun _ _ => rfl) h

theorem verdicts_handled {early sent late : List Entry}
    (hentries : scene.entries = early ++ sent ++ late) (hearly : ∀ e ∈ early, e.isAside = true)
    (hlate : ∀ e ∈ late, e.isAside = true) :
    scene.verdicts = (attempted sent).filterMap Message.verdict? := by
  rw [verdicts, hentries]
  exact filterMap_attempted_played (fun _ _ => rfl) hearly hlate

/-- **After the end** a scene that loads no program tells nothing about one, and the session stays
over; only disconnecting changes the phase. -/
theorem over_kept (hplays : scene.Plays) (hover : scene.before.session.isOver = true)
    (hloads : scene.loads = false) :
    scene.verdicts = [] ∧ (scene.after.session.phase = scene.before.session.phase ∨
      scene.turn.command? = some .disconnect ∧ scene.after.session.phase = .disconnected) := by
  cases hplays with
  | idle session aside _ =>
    obtain ⟨handles, hsession⟩ := session
    exact ⟨verdicts_idle aside, .inl (by rw [hsession])⟩
  | @handled req s last early late sent asks hears opens plays closes entries hearly hlate =>
    obtain ⟨handles, rfl⟩ := opens
    obtain ⟨handles', hafter⟩ := closes
    rw [loads, hears, Bool.true_and] at hloads
    obtain ⟨hsilent, hphase⟩ := Run.played_over (s := { scene.before.session with handles }) hover
      (Turn.command?_of_request asks) hloads plays
    rw [verdicts_handled entries hearly hlate, hafter]
    exact ⟨hsilent, hphase⟩

/-- **The end** is all that is told in its scene, and the program has terminated when the scene is
over. -/
theorem terminated_only (hplays : scene.Plays) (h : .terminated ∈ scene.verdicts) :
    scene.verdicts = [.terminated] ∧ scene.after.session.phase = .terminated := by
  cases hplays with
  | idle _ aside _ =>
    rw [verdicts_idle aside] at h
    cases h
  | @handled req s last early late sent asks hears opens plays closes entries hearly hlate =>
    obtain ⟨handles', hafter⟩ := closes
    rw [verdicts_handled entries hearly hlate] at h ⊢
    obtain ⟨m, hm, hverdict⟩ := List.mem_filterMap.1 h
    have hterminated : m = .event .terminated := by
      cases m with
      | event e => simp_all [Message.verdict?]
      | success | failure => cases hverdict
    obtain ⟨honly, hphase⟩ := Run.played_terminated plays (hterminated ▸ hm)
    rw [hafter]
    exact ⟨honly, hphase⟩

/-- **A request to run on after the end** is refused. -/
theorem refused_over (hplays : scene.Plays) (hover : scene.before.session.isOver = true)
    {req : Request} (hreq : scene.turn.request? = some req) {command : Command}
    (decodes : Command.ofRequest req = .ok command) (runs : command.runsOn = true) :
    scene.after.session.cursor = scene.before.session.cursor ∧
      scene.after.session.breakpoints = scene.before.session.breakpoints ∧
      (scene.hears = true → ∃ refusal : Refusal,
        scene.answers = [.failure req.answered refusal.message] ∧
          (scene.before.session.phase = .terminated → refusal = .terminated)) := by
  cases hplays with
  | idle session aside unasked =>
    obtain ⟨handles, hsession⟩ := session
    refine ⟨by rw [hsession], by rw [hsession], fun hears => ?_⟩
    rcases unasked with hnone | hdeaf
    · cases hnone.symm.trans hreq
    · cases hdeaf.symm.trans hears
  | @handled req' s last early late sent asks hears opens plays closes entries hearly hlate =>
    cases asks.symm.trans hreq
    obtain ⟨handles, rfl⟩ := opens
    obtain ⟨handles', hafter⟩ := closes
    obtain ⟨refusal, hrefuses, hterminated⟩ := Session.refuses_over
      (s := { scene.before.session with handles }) hover decodes runs scene.turn.files
    have hanswers : scene.answers =
        (attempted sent).filterMap fun m => m.answered?.map fun _ => m := by
      rw [answers, entries]
      exact filterMap_attempted_played (fun _ _ => rfl) hearly hlate
    generalize hattempted : attempted sent = attempts at plays
    cases plays with
    | refused refuses =>
      cases hrefuses.symm.trans refuses
      refine ⟨by rw [hafter], by rw [hafter], fun _ => ⟨refusal, ?_, hterminated⟩⟩
      rw [hanswers, hattempted]
      rfl
    | panicked panics => cases hrefuses.symm.trans (Session.stackTrace_of_panics panics)
    | done plans => cases hrefuses.symm.trans plans
    | broken plans => cases hrefuses.symm.trans plans

end Scene

/-! ## Runs -/

/-- The requests to run on. -/
def runningCommands : List String := ["continue", "reverseContinue", "next", "stepBack"]

theorem Command.runsOn_of_name {req : Request} (h : req.command ∈ runningCommands) :
    ∃ command, Command.ofRequest req = .ok command ∧ command.runsOn = true := by
  simp only [runningCommands, List.mem_cons, List.not_mem_nil, or_false] at h
  rcases h with h | h | h | h <;> exact ⟨_, by simp [Command.ofRequest, h]; rfl, rfl⟩

namespace Run

variable {faults : Faults} {run : Run} {turns : List Turn}

/-- **Over until a program is loaded**: what a session that is over shows later. -/
theorem scenes_over {between later : List Scene} {next : Scene} (hover : run.session.isOver = true)
    (h : run.scenes faults turns = between ++ next :: later)
    (hloads : ∀ scene ∈ between, scene.loads = false) : next.before.session.isOver = true := by
  refine scenes_kept (P := fun run => run.session.isOver = true)
    (fun scene hplayed hbefore hscene => ?_) hover h hloads
  rw [Session.isOver_iff] at hbefore ⊢
  rcases (Scene.over_kept (Scene.plays hplayed) (Session.isOver_iff.2 hbefore) hscene).2 with
    hphase | ⟨-, hphase⟩
  · rwa [hphase]
  · exact .inr hphase

/-- Terminated until a program is loaded or the client disconnects. -/
theorem scenes_terminated {between later : List Scene} {next : Scene}
    (hended : run.session.phase = .terminated)
    (h : run.scenes faults turns = between ++ next :: later)
    (hbetween : ∀ scene ∈ between, scene.loads = false ∧ scene.turn.command? ≠ some .disconnect) :
    next.before.session.phase = .terminated := by
  refine scenes_kept (P := fun run => run.session.phase = .terminated)
    (fun scene hplayed hbefore hscene => ?_) hended h hbetween
  have hover : scene.before.session.isOver = true := Session.isOver_iff.2 (.inl hbefore)
  rcases (Scene.over_kept (Scene.plays hplayed) hover hscene.1).2 with hphase | ⟨hleaves, -⟩
  · rw [hphase, hbefore]
  · exact absurd hleaves hscene.2

theorem verdicts_over {stretch late : List Scene} (hover : run.session.isOver = true)
    (h : run.scenes faults turns = stretch ++ late)
    (hloads : ∀ scene ∈ stretch, scene.loads = false) : stretch.flatMap Scene.verdicts = [] := by
  rw [List.flatMap_eq_nil_iff]
  intro scene hscene
  obtain ⟨between, later, rfl⟩ := List.append_of_mem hscene
  rw [List.append_assoc, List.cons_append] at h
  have hbefore := scenes_over hover h fun scene hmem => hloads scene (List.mem_append_left _ hmem)
  exact (Scene.over_kept (Scene.plays (scenes_split h).1) hbefore (hloads scene hscene)).1

/-- **The end is the last thing told** while no further program is loaded. -/
theorem terminated_last {stretch late : List Scene} (h : run.scenes faults turns = stretch ++ late)
    (hloads : ∀ scene ∈ stretch.tail, scene.loads = false) :
    .terminated ∉ (stretch.flatMap Scene.verdicts).dropLast := by
  induction stretch generalizing run turns with
  | nil => simp
  | cons first stretch ih =>
    have hsplit : run.scenes faults turns = [] ++ first :: (stretch ++ late) := h
    obtain ⟨hplayed, rest, hrest⟩ := scenes_split hsplit
    rw [List.flatMap_cons]
    by_cases hends : .terminated ∈ first.verdicts
    · obtain ⟨honly, hphase⟩ := Scene.terminated_only (Scene.plays hplayed) hends
      have hsilent := verdicts_over (Session.isOver_iff.2 (.inl hphase)) hrest hloads
      rw [honly, hsilent]
      simp
    · have hlater := ih hrest fun scene hscene => hloads scene (List.mem_of_mem_tail hscene)
      intro hmem
      by_cases hnil : stretch.flatMap Scene.verdicts = []
      · rw [hnil, List.append_nil] at hmem
        exact hends (List.dropLast_subset _ hmem)
      · rw [List.dropLast_append_of_ne_nil hnil] at hmem
        exact (List.mem_append.1 hmem).elim hends hlater

end Run

/-- **Termination is told once and is final until a program is loaded.** Take any run of a fresh
session, with any messages, files, events of the tab server and failing writes, as the list of its
scenes. In a stretch of scenes of which none but the first loads a program, that the program ended
is told once at most and is the last that is told of it. If a scene tells so, a later request to run
on, without a program loaded in between, leaves cursor and breakpoints as they are. Once heard it is
answered by a refusal and nothing else, which says that the program has terminated unless there was
a request to disconnect. -/
theorem termination_final (link : Link) (queue : List Link.Event) (faults : Faults)
    (turns : List Turn) :
    let scenes := ({ Run.start link with queue } : Run).scenes faults turns
    (Run.serveAll faults { Run.start link with queue } turns).1.entries =
        scenes.flatMap Scene.entries ∧
      (∀ early stretch late, scenes = early ++ (stretch ++ late) →
        (∀ scene ∈ stretch.tail, scene.loads = false) →
          .terminated ∉ (stretch.flatMap Scene.verdicts).dropLast) ∧
      ∀ early scene between next late, scenes = early ++ scene :: (between ++ next :: late) →
        .terminated ∈ scene.verdicts → (∀ other ∈ between, other.loads = false) →
          ∀ req, next.turn.request? = some req → req.command ∈ runningCommands →
            next.after.session.cursor = next.before.session.cursor ∧
              next.after.session.breakpoints = next.before.session.breakpoints ∧
              (next.hears = true → ∃ reason, next.answers = [.failure req.answered reason] ∧
                ((∀ other ∈ between, other.turn.command? ≠ some .disconnect) →
                  reason = "program has terminated")) := by
  intro scenes
  refine ⟨Run.entries_serveAll faults _ turns, ?_, ?_⟩
  · intro early stretch late hsplit hloads
    obtain ⟨start, rest, hstart⟩ := Run.scenes_suffix hsplit
    exact Run.terminated_last hstart hloads
  · intro early scene between next late hsplit hends hloads req hreq hcommand
    obtain ⟨hplayed, rest, hrest⟩ := Run.scenes_split hsplit
    have hphase := (Scene.terminated_only (Scene.plays hplayed) hends).2
    have hover := Run.scenes_over (Session.isOver_iff.2 (.inl hphase)) hrest hloads
    obtain ⟨command, decodes, runs⟩ := Command.runsOn_of_name hcommand
    have hnext := (Run.scenes_split hrest).1
    obtain ⟨hcursor, htable, hrefused⟩ :=
      Scene.refused_over (Scene.plays hnext) hover hreq decodes runs
    refine ⟨hcursor, htable, fun hears => ?_⟩
    obtain ⟨refusal, hanswers, hterminated⟩ := hrefused hears
    refine ⟨refusal.message, hanswers, fun hstays => ?_⟩
    have hended := Run.scenes_terminated hphase hrest fun other hother =>
      ⟨hloads other hother, hstays other hother⟩
    rw [hterminated hended]
    rfl

/-- A program runs off its end, but the write that tells so fails. Another one cannot be loaded, and
a request to continue is refused. -/
theorem refused_after_lost_end :
    let message (seq : Int) (command : String) (arguments : Json) : Json := .obj
      [("arguments", arguments), ("command", .str command), ("seq", .int seq),
       ("type", .str "request")]
    let files : Files.View :=
      { read := fun path =>
          if path = "p.tab" then .ok (Text.encode "one".toList) else .error .notFound
        canonical := fun _ => none }
    let turn (message : Json) : Turn := { inbound := .ok message, files }
    let launch := turn (message 1 "launch" (.obj [("program", .str "p.tab")]))
    let relaunch := turn (message 2 "launch" (.obj [("program", .str "q.tab")]))
    let continues := turn (message 3 "continue" .null)
    let faults : Faults := fun seq => if seq = 2 then some "broken pipe" else none
    let first := ((Run.start .absent).serve faults launch).1
    let second := (first.serve faults relaunch).1
    let scene : Scene := ⟨Run.start .absent, launch, first⟩
    let next : Scene := ⟨second, continues, (second.serve faults continues).1⟩
    scene.verdicts = [.terminated] ∧
      next.answers = [.failure ⟨3, "continue"⟩ "program has terminated"] := by
  intro message files turn launch relaunch continues faults first second scene next
  have hscenes : (Run.start .absent).scenes faults [launch, relaunch, continues] =
      [] ++ scene :: ([⟨first, relaunch, second⟩] ++ next :: []) := by rfl
  have hends : scene.verdicts = [.terminated] := by decide +kernel
  have hloads : (⟨first, relaunch, second⟩ : Scene).loads = false := by decide +kernel
  have hreq : next.turn.request? = some ⟨3, "request", "continue", .null⟩ := by rfl
  obtain ⟨-, -, hfinal⟩ := termination_final .absent [] faults [launch, relaunch, continues]
  obtain ⟨-, -, hrefused⟩ := hfinal _ _ _ _ _ hscenes (by rw [hends]; exact .head _)
    (by simpa using hloads) _ hreq (.head _)
  obtain ⟨reason, hanswers, hreason⟩ := hrefused (by decide +kernel)
  rw [hreason] at hanswers
  · exact ⟨hends, hanswers⟩
  · intro other hother
    cases List.mem_singleton.1 hother
    have hlaunch : relaunch.command? = some (.launch { program := some "q.tab" }) := by rfl
    rw [hlaunch]
    nofun

end TabTools.Debug
