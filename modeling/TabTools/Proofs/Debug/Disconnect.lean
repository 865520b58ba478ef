import TabTools.Proofs.Debug.Scenes
import TabTools.Proofs.Debug.Turns

/-!
# Disconnecting

A request to disconnect ends the session, since the turn that brings it has the outcome
`disconnected`. But that outcome is lost when the response cannot be written: the request then
counts as failed, and a session goes on after a failed request once the failure is answered.

**Theorem (`disconnect_final_iff`).** A request to disconnect always leaves the session disconnected
and its tab server closed. It ends the run unless the write of its response fails and the writes
after it, of the failure and of the events reported then, all succeed (`Lingers`). In that case the
session goes on and serves whatever comes next.
-/

namespace TabTools.Debug

/-- The session that the client has left. -/
def Session.left (s : Session) : Session :=
  { s with
    phase := .disconnected
    link := match s.link with
      | .absent => .absent
      | _ => .closed }

theorem Session.plan_left (s : Session) (files : Files.View) {req : Request}
    (h : req.command = "disconnect") :
    s.plan files req = .ok [.write s.left (.success req.answered .nothing)] := by
  simp only [plan, Command.ofRequest_disconnect h]
  rfl

namespace Run

variable {run : Run} {faults : Faults}

/-! ## A request to disconnect -/

/-- The response to a request to disconnect cannot be written, but what is written next can: the
failure instead of it, and the events that arrived. -/
def Lingers (run : Run) (faults : Faults) (turn : Turn) : Prop :=
  faults (run.nextSeq + run.queue.length) ≠ none ∧
    ∀ i ≤ turn.arrivals.length, faults (run.nextSeq + run.queue.length + 1 + i) = none

/-- What comes after a request was handled. -/
def closing (faults : Faults) : Run × Outcome → Run × Outcome
  | (run, .goOn) => serve.afterwards (run.drain faults) .goOn
  | (run, .disconnected) => serve.afterwards (run.drain faults) .disconnected
  | ended => ended

theorem serve_of_reported {turn : Turn} {message : Json} {req : Request}
    (reported : ∀ i < run.queue.length, faults (run.nextSeq + i) = none)
    (hread : turn.inbound = .ok message) (hreq : request? message = some req) :
    run.serve faults turn =
      closing faults ((run.heard turn message).handle faults turn.files req) := by
  unfold serve
  rw [drain_of_sound reported]
  simp only [hread, hreq]
  rfl

theorem afterwards_goOn_iff (run : Run) (faults : Faults) :
    (serve.afterwards (run.drain faults) .goOn).2 = .goOn ↔
      ∀ i < run.queue.length, faults (run.nextSeq + i) = none := by
  rw [← drain_eq_none_iff]
  unfold serve.afterwards
  split <;> simp_all

theorem afterwards_disconnected_ne (run : Run) (faults : Faults) :
    (serve.afterwards (run.drain faults) .disconnected).2 ≠ .goOn := by
  unfold serve.afterwards
  split <;> simp

theorem session_afterwards (run : Run) (faults : Faults) (outcome : Outcome) :
    ∃ handles, (serve.afterwards (run.drain faults) outcome).1.session =
      { run.session with handles } := by
  obtain ⟨more, idles, -⟩ := run.idles_drain faults
  obtain ⟨handles, hsession⟩ := idles.session
  refine ⟨handles, ?_⟩
  unfold serve.afterwards
  split <;> simp_all

theorem fail_of_sound {req : Request} (reason : String) (sound : faults run.nextSeq = none) :
    run.fail faults req reason =
      (run.performed [.write run.session (.failure req.answered reason)], .goOn) := by
  simp only [fail, write, sound]
  rfl

theorem fail_of_fault {req : Request} (reason : String) {failure : String}
    (fault : faults run.nextSeq = some failure) :
    run.fail faults req reason =
      (run.missed run.session (.failure req.answered reason), .writeFailed failure) := by
  simp only [fail, write, fault]
  rfl

/-- **Handling a request to disconnect**: the session is left, and goes on only if it lingers. -/
theorem closing_disconnect (run : Run) (faults : Faults) (files : Files.View) {req : Request}
    (h : req.command = "disconnect") :
    (∃ handles, (closing faults (run.handle faults files req)).1.session =
        { run.session.left with handles }) ∧
      ((closing faults (run.handle faults files req)).2 = .goOn ↔
        faults run.nextSeq ≠ none ∧
          ∀ i ≤ run.queue.length, faults (run.nextSeq + 1 + i) = none) := by
  have plan := run.session.plan_left files h
  generalize hresult : run.handle faults files req = result
  cases hresult ▸ handle_cases faults run files req with
  | refused refuses =>
    rw [plan] at refuses
    cases refuses
  | panicked panics =>
    rw [Session.stackTrace_of_panics panics] at plan
    cases plan
  | done plans sound =>
    rw [plan] at plans
    cases plans
    have answered : faults run.nextSeq = none := sound 0 (Nat.zero_lt_one)
    rw [outcomeOf, if_pos h]
    exact ⟨session_afterwards _ _ _, fun goesOn => absurd goesOn (afterwards_disconnected_ne _ _),
      fun lingers => absurd answered lingers.1⟩
  | @broken before rest after m failure plans _ fault =>
    -- There is no other write than that of the response.
    obtain ⟨rfl, rfl⟩ : before = [] ∧ after = run.session.left := by
      rw [plan] at plans
      cases before with
      | nil =>
        cases plans
        exact ⟨rfl, rfl⟩
      | cons act before => simp at plans
    cases refusal : faults (run.nextSeq + 1) with
    | none =>
      rw [fail_of_sound failure refusal]
      refine ⟨session_afterwards _ _ _, ?_⟩
      rw [closing, afterwards_goOn_iff]
      refine ⟨fun later => ⟨fun none => ?_, fun i hi => ?_⟩, fun lingers i hi => ?_⟩
      · exact Option.some_ne_none _ (fault.symm.trans none)
      · cases i with
        | zero => exact refusal
        | succ i => exact Nat.add_right_comm _ 1 i ▸ later i (Nat.lt_of_succ_le hi)
      · exact Nat.add_right_comm _ 1 i ▸ lingers.2 (i + 1) hi
    | some lost =>
      rw [fail_of_fault failure refusal]
      refine ⟨⟨_, rfl⟩, fun goesOn => Outcome.noConfusion goesOn, fun lingers => ?_⟩
      have written := lingers.2 0 (Nat.zero_le _)
      rw [Nat.add_zero, refusal] at written
      cases written

/-- **A turn that brings a request to disconnect.** -/
theorem serve_disconnect {turn : Turn} {req : Request}
    (reported : ∀ i < run.queue.length, faults (run.nextSeq + i) = none)
    (asks : turn.request? = some req) (disconnects : req.command = "disconnect") :
    (∃ handles, (run.serve faults turn).1.session = { run.session.left with handles }) ∧
      ((run.serve faults turn).2 = .goOn ↔ run.Lingers faults turn) := by
  unfold Turn.request? at asks
  split at asks
  · cases asks
  · rename_i message hread
    rw [serve_of_reported reported hread asks]
    obtain ⟨⟨handles, hsession⟩, goesOn⟩ :=
      (run.heard turn message).closing_disconnect faults turn.files disconnects
    obtain ⟨drained, hdrained⟩ := run.session_drained
    have hleft : (run.heard turn message).session.left =
        { run.session.left with handles := drained } := congrArg Session.left hdrained
    have hnext : (run.heard turn message).nextSeq = run.nextSeq + run.queue.length :=
      congrArg (run.nextSeq + ·) (length_reportActs _ _)
    rw [hnext] at goesOn
    rw [hleft] at hsession
    exact ⟨⟨handles, hsession⟩, goesOn⟩

/-- A session does not go on when nothing can be read. -/
theorem serve_unreadable (run : Run) (faults : Faults) {turn : Turn} {cause : Wire.ReadError}
    (hread : turn.inbound = .error cause) : (run.serve faults turn).2 ≠ .goOn := by
  unfold serve
  split <;> simp [hread]

end Run

/-- **When disconnecting is final.** Let a session come to a turn that brings a request to
disconnect, and let the events that wait be reported. Whatever writes fail, the turn leaves the
session disconnected and its tab server closed. The run ends with this turn, whatever comes next,
unless it lingers: then it goes on with the turns that come next. -/
theorem disconnect_final_iff {faults : Faults} {start run : Run} {early : List Turn}
    (comes : start.serveAll faults early = (run, .goOn))
    (reported : ∀ i < run.queue.length, faults (run.nextSeq + i) = none)
    {turn : Turn} {req : Request} (asks : turn.request? = some req)
    (disconnects : req.command = "disconnect") :
    let served := run.serve faults turn
    (served.1.session.phase = .disconnected ∧ served.1.session.link ≠ .listening) ∧
      ((∀ rest, start.serveAll faults (early ++ turn :: rest) = served) ↔
        ¬ run.Lingers faults turn) ∧
      (run.Lingers faults turn → ∀ rest,
        start.serveAll faults (early ++ turn :: rest) = served.1.serveAll faults rest) := by
  intro served
  obtain ⟨⟨handles, hsession⟩, goesOn⟩ := Run.serve_disconnect reported asks disconnects
  have onwards (lingers : run.Lingers faults turn) (rest : List Turn) :
      start.serveAll faults (early ++ turn :: rest) = served.1.serveAll faults rest := by
    rw [Run.serveAll_append comes]
    exact Run.serveAll_goOn (Prod.ext rfl (goesOn.2 lingers)) rest
  refine ⟨⟨?_, ?_⟩, ⟨fun final lingers => ?_, fun ends rest => ?_⟩, onwards⟩
  · rw [hsession]
    rfl
  · rw [hsession]
    show (match run.session.link with
      | .absent => Link.absent
      | _ => .closed) ≠ .listening
    split <;> simp
  · -- If the run went on, the next read might fail, and that would end it otherwise.
    have next := final [{ turn with inbound := .error .closed }]
    rw [onwards lingers, Run.serveAll_single] at next
    exact Run.serve_unreadable _ faults rfl ((congrArg Prod.snd next).trans (goesOn.2 lingers))
  · rw [Run.serveAll_append comes]
    exact Run.serveAll_ended rfl (fun h => ends (goesOn.1 h)) rest

/-- A request to disconnect, as a client sends it. -/
def goodbye : Json :=
  .obj [("command", .str "disconnect"), ("seq", .int 1), ("type", .str "request")]

/-- A request to launch a program and stop on its first line. -/
def launchOnEntry : Json :=
  .obj [("arguments", .obj [("program", .str "p.tab"), ("stopOnEntry", .bool true)]),
    ("command", .str "launch"), ("seq", .int 2), ("type", .str "request")]

/-- One program, whatever its path. -/
def oneProgram : Files.View :=
  { read := fun _ => .ok (Text.encode "start\nend".toList), canonical := fun _ => none }

/-- Neither the response to a request to disconnect nor the failure instead of it can be written.
The run ends with that, and the request to launch is not served. -/
theorem disconnected_by_two_lost_writes :
    let faults : Faults := fun number => if number ≤ 2 then some "lost" else none
    let disconnect : Turn := { inbound := .ok goodbye, files := oneProgram }
    let launch : Turn := { inbound := .ok launchOnEntry, files := oneProgram }
    let run := Run.start .listening
    ¬ run.Lingers faults disconnect ∧
      run.serveAll faults [disconnect, launch] = run.serve faults disconnect ∧
      attempted (run.serveAll faults [disconnect, launch]).1.entries =
        [.success ⟨1, "disconnect"⟩ .nothing, .failure ⟨1, "disconnect"⟩ "lost"] := by
  intro faults disconnect launch run
  have asks : disconnect.request? = some ⟨1, "request", "disconnect", .null⟩ := by rfl
  have comes : run.serveAll faults [] = (run, .goOn) := rfl
  have lost : ¬ run.Lingers faults disconnect := fun lingers =>
    absurd (lingers.2 0 (Nat.le_refl 0)) (by decide)
  obtain ⟨-, final, -⟩ := disconnect_final_iff comes nofun asks rfl
  exact ⟨lost, final.2 lost [launch], by decide +kernel⟩

/-- **The response to a request to disconnect cannot be written**, and the session goes on: the
failure is answered, a request to launch is carried out and answered, and the program stops on its
first line. -/
theorem launched_after_disconnect :
    let faults : Faults := fun number =>
      if number = 1 then some "transport: write 1 failed" else none
    let turns := [goodbye, launchOnEntry].map fun message =>
      ({ inbound := .ok message, files := oneProgram } : Turn)
    let left := ((Run.start .absent).serveAll faults (turns.take 1)).1
    let run := ((Run.start .absent).serveAll faults turns).1
    left.session.phase = .disconnected ∧ run.session.phase = .stopped .entry ∧
      attempted run.entries =
        [.success ⟨1, "disconnect"⟩ .nothing,
         .failure ⟨1, "disconnect"⟩ "transport: write 1 failed",
         .event (.output "line: 0" 1000), .success ⟨2, "launch"⟩ .nothing,
         .event (.stopped .entry none)] := by
  decide +kernel

end TabTools.Debug
