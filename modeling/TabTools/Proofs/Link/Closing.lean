import TabTools.Proofs.Link.Players
import Mathlib.Data.List.TakeWhile

/-!
# Players that closing leaves behind

Closing sets the closed flag, takes what is in the slot and waits for the acceptor. The acceptor
tests the flag before it accepts a connection and fills the slot after that, without another test.
So it can install a player when closing has been at the slot already, and nobody shuts that player
down (`installed_behind_closing`).

**Theorem (`nobody_left_iff`).** When closing has returned, every connection that was ever accepted
has been shut down, was refused or has ended, except for the one in the slot if there is one. The
slot is empty exactly if the reader of every player that was installed since closing took from the
slot has let its connection go.

Two invariants are added to those of the players. Accepted connections are accounted for
(`Accounted`): each is refused, installed or in the acceptor's hands. Once closing has been at the
slot (`Cleared`), a connection can be in the slot only if it was installed since then, and nothing
more is shut down.
-/

namespace TabTools.Link.Steps

variable {s t : State} {move : Move} {moves late : List Move}

/-! ## Where every connection is -/

/-- Every accepted connection is somewhere, and only streams that ended have a reader past their
end. -/
structure Accounted (s : State) : Prop where
  accepted : ∀ c < s.accepted, c ∈ s.refused ∨ (∃ peer, s.acceptor = .holding c peer) ∨
    c ∈ s.installed.map Live.connection
  ended : ∀ live, s.readers live ∉ [.absent, .reading] → live.connection ∈ s.ended

theorem Accounted.start : Accounted .start where
  accepted := by simp [State.start]
  ended := by simp [State.start]

/-- A reader goes on, past the end of its stream only if the stream has ended. -/
theorem Accounted.setReader (h : Accounted s) {live : Live} {stage : Stage}
    (ended : stage ∉ [.absent, .reading] → live.connection ∈ s.ended) :
    Accounted (s.setReader live stage) := by
  refine { h with ended := fun other past => ?_ }
  by_cases eq : other = live
  · subst eq
    exact ended (State.setReader_self s other stage ▸ past)
  · exact h.ended other (State.setReader_other eq s stage ▸ past)

/-- The acceptor goes on with empty hands. -/
theorem Accounted.setAcceptor (h : Accounted s) (empty : ∀ c peer, s.acceptor ≠ .holding c peer)
    (acceptor : Acceptor) : Accounted { s with acceptor } := by
  refine { h with accepted := fun c below => ?_ }
  rcases h.accepted c below with mem | ⟨peer, holds⟩ | mem
  · exact .inl mem
  · exact absurd holds (empty c peer)
  · exact .inr (.inr mem)

theorem Accounted.step (h : Accounted s) (step : Step s move t) : Accounted t := by
  cases step with
  | testOpen turn | testClosed turn | idle turn => exact h.setAcceptor (by simp [turn]) _
  | accept peer turn =>
    have before := h.setAcceptor (by simp [turn]) (.holding s.accepted peer)
    refine { h with accepted := fun c below => ?_ }
    rcases Nat.lt_succ_iff_lt_or_eq.1 below with below | rfl
    · exact before.accepted c below
    · exact .inr (.inl ⟨peer, rfl⟩)
  | refuse turn =>
    refine { h with accepted := fun c below => ?_ }
    rcases h.accepted c below with mem | ⟨_, holds⟩ | mem
    · exact .inl (List.mem_append_left _ mem)
    · rw [turn] at holds
      cases holds
      exact .inl (List.mem_append_right _ (List.mem_singleton.2 rfl))
    · exact .inr (.inr mem)
  | install id turn =>
    refine { h with accepted := fun c below => ?_ }
    rw [List.map_append]
    rcases h.accepted c below with mem | ⟨_, holds⟩ | mem
    · exact .inl mem
    · rw [turn] at holds
      cases holds
      exact .inr (.inr (List.mem_append_right _ (List.mem_singleton.2 rfl)))
    · exact .inr (.inr (List.mem_append_left _ mem))
  | @announce live _ turn => exact { h.setAcceptor (by simp [turn]) (.starting live) with }
  | startReader turn => exact (h.setAcceptor (by simp [turn]) .testing).setReader (by simp)
  | @endOfStream live turn =>
    have same : Accounted { s with ended := s.ended ++ [live.connection] } :=
      { h with ended := fun other past => List.mem_append_left _ (h.ended other past) }
    exact same.setReader fun _ => List.mem_append_right _ (List.mem_singleton.2 rfl)
  | clearOwn turn =>
    have same : Accounted { s with slot := none } := { h with }
    exact same.setReader fun _ => h.ended _ (by simp [turn])
  | clearOther turn => exact h.setReader fun _ => h.ended _ (by simp [turn])
  | @report live turn =>
    have same : Accounted (s.send [.disconnected live.id]) := { h with }
    exact same.setReader fun _ => h.ended _ (by simp [turn])
  | line | setFlag | takeLive | join | closeAgain => exact { h with }

/-! ## Since closing took from the slot -/

/-- The moves from the one on with which closing takes what is in the slot. -/
def sinceTaken (moves : List Move) : List Move := moves.dropWhile (· ≠ .takeLive)

theorem sinceTaken_eq_nil_iff : sinceTaken moves = [] ↔ .takeLive ∉ moves := by
  rw [sinceTaken, List.dropWhile_eq_nil_iff]
  simp only [decide_eq_true_eq]
  exact ⟨fun others mem => others _ mem rfl, fun untaken move mem eq => untaken (eq ▸ mem)⟩

theorem sinceTaken_snoc (taken : .takeLive ∈ moves) (move : Move) :
    sinceTaken (moves ++ [move]) = sinceTaken moves ++ [move] := by
  have some : ¬ (sinceTaken moves).isEmpty := by
    rw [List.isEmpty_iff, sinceTaken_eq_nil_iff]
    exact not_not_intro taken
  exact List.dropWhile_append.trans (if_neg some)

theorem sinceTaken_takeLive (untaken : .takeLive ∉ moves) :
    sinceTaken (moves ++ [.takeLive]) = [.takeLive] := by
  have none : (sinceTaken moves).isEmpty := List.isEmpty_iff.2 (sinceTaken_eq_nil_iff.2 untaken)
  exact List.dropWhile_append.trans (if_pos none)

/-- Closing has been at the slot, and the moves `late` were made since then. -/
structure Cleared (late : List Move) (s : State) : Prop where
  closer : s.closer = .taken ∨ s.closer = .returned ∧ s.acceptor = .finished
  newcomer : ∀ live, s.slot = some live → .install live.id ∈ late
  unshut : ∀ live ∈ s.installed, .install live.id ∈ late → live.connection ∉ s.shut

/-- A move that installs and shuts down nothing. -/
theorem Cleared.carry (h : Cleared late s) (other : ∀ id, move ≠ .install id)
    (closer : t.closer = .taken ∨ t.closer = .returned ∧ t.acceptor = .finished)
    (slot : ∀ live, t.slot = some live → s.slot = some live)
    (installed : t.installed = s.installed) (shut : t.shut = s.shut) :
    Cleared (late ++ [move]) t where
  closer := closer
  newcomer live holds := List.mem_append_left _ (h.newcomer live (slot live holds))
  unshut live mem recent := by
    rw [shut]
    refine h.unshut live (installed ▸ mem) ?_
    simpa [(other live.id).symm] using recent

theorem Cleared.step (h : Cleared late s) (orderly : Orderly s) (step : Step s move t) :
    Cleared (late ++ [move]) t := by
  cases step with
  | testOpen turn | testClosed turn | idle turn | accept _ turn | refuse turn | announce turn
  | startReader turn =>
    have closer : s.closer = .taken := by simpa [turn] using h.closer
    exact h.carry (by simp) (.inl closer) (fun _ holds => holds) rfl rfl
  | @install c _ id turn free fresh =>
    have closer : s.closer = .taken := by simpa [turn] using h.closer
    refine { closer := .inl closer, newcomer := ?_, unshut := ?_ }
    · rintro live ⟨⟩
      exact List.mem_append_right _ (List.mem_singleton.2 rfl)
    · intro live mem recent
      rcases List.mem_append.1 mem with mem | mem
      · refine h.unshut live mem ?_
        simpa [fresh live mem] using recent
      · obtain rfl := List.mem_singleton.1 mem
        exact fun shut => (orderly.registered.held _ _ turn).2.2 (orderly.occupied.shut _ shut)
  | line | endOfStream | clearOther | report | closeAgain =>
    exact h.carry (by simp) h.closer (fun _ holds => holds) rfl rfl
  | clearOwn => exact h.carry (by simp) h.closer (by simp) rfl rfl
  | setFlag turn | takeLive turn => exact absurd h.closer (by simp [turn])
  | join turn stopped =>
    exact h.carry (by simp) (.inr ⟨rfl, stopped⟩) (fun _ holds => holds) rfl rfl

/-- How far closing has come, with the moves so far. -/
inductive Progress (moves : List Move) (s : State) : Prop
  | before (untaken : .takeLive ∉ moves) (closer : s.closer = .idle ∨ s.closer = .flagged)
  | since (taken : .takeLive ∈ moves) (cleared : Cleared (sinceTaken moves) s)

theorem Progress.step (h : Progress moves s) (orderly : Orderly s) (step : Step s move t) :
    Progress (moves ++ [move]) t := by
  cases h with
  | before untaken closer =>
    by_cases takes : move = .takeLive
    · subst takes
      refine .since (List.mem_append_right _ (List.mem_singleton.2 rfl)) ?_
      rw [sinceTaken_takeLive untaken]
      cases step with
      | takeLive => exact { closer := .inl rfl, newcomer := by simp, unshut := by simp }
    · refine .before (by simpa [untaken] using Ne.symm takes) ?_
      cases step with
      | setFlag => exact .inr rfl
      | takeLive => exact absurd rfl takes
      | join turn => simp [turn] at closer
      | _ => exact closer
  | since taken cleared =>
    refine .since (List.mem_append_left _ taken) ?_
    rw [sinceTaken_snoc taken]
    exact cleared.step orderly step

theorem Schedule.progress (schedule : Schedule .start moves s) : Progress moves s := by
  refine (schedule.history (P := fun moves s => Progress moves s ∧ Orderly s)
    ⟨.before (by simp) (.inl rfl), .start⟩ fun h step => ?_).1
  exact ⟨h.1.step h.2 step, h.2.step step⟩

theorem Reachable.accounted (h : Reachable s) : Accounted s := by
  obtain ⟨moves, schedule⟩ := h
  exact schedule.history (P := fun _ => Accounted) .start .step

/-! ## Who is left -/

/-- No player is in the slot, and every accepted connection was shut down, refused or has ended. -/
def State.NobodyLeft (s : State) : Prop :=
  s.slot = none ∧ ∀ c < s.accepted, c ∈ s.shut ∨ c ∈ s.refused ∨ c ∈ s.ended

/-- When the acceptor has finished, only the player in the slot can be left. -/
theorem Reachable.left (h : Reachable s) (finished : s.acceptor = .finished) {c : Nat}
    (below : c < s.accepted) : c ∈ s.shut ∨ c ∈ s.refused ∨ c ∈ s.ended ∨
      s.slot.map Live.connection = some c := by
  rcases h.accounted.accepted c below with refused | ⟨peer, holds⟩ | installed
  · exact .inr (.inl refused)
  · simp [finished] at holds
  · obtain ⟨live, mem, rfl⟩ := List.mem_map.1 installed
    by_cases shut : live.connection ∈ s.shut
    · exact .inl shut
    by_cases past : s.readers live = .reporting ∨ s.readers live = .done
    · refine .inr (.inr (.inl (h.accounted.ended live ?_)))
      rcases past with stage | stage <;> simp [stage]
    · have holds := (h.orderly.occupied.slot live).2 ⟨mem, shut, not_or.1 past⟩
      exact .inr (.inr (.inr (by simp [holds])))

/-- **Who is left when closing has returned.** Every accepted connection was shut down, refused or
has ended, or is the one in the slot. Nobody is left exactly if each player that was installed since
closing took from the slot has a reader that has let it go. -/
theorem nobody_left_iff (schedule : Schedule .start moves s) (returned : s.closer = .returned) :
    (s.NobodyLeft ↔ ∀ live ∈ s.installed, .install live.id ∈ sinceTaken moves →
      s.readers live = .reporting ∨ s.readers live = .done) ∧
    ∀ c < s.accepted, c ∈ s.shut ∨ c ∈ s.refused ∨ c ∈ s.ended ∨
      s.slot.map Live.connection = some c := by
  have reachable : Reachable s := ⟨moves, schedule⟩
  have occupied := reachable.orderly.occupied
  cases schedule.progress with
  | before _ closer => simp [returned] at closer
  | since _ cleared =>
    have finished : s.acceptor = .finished := by simpa [returned] using cleared.closer
    refine ⟨⟨fun nobody live mem recent => ?_, fun gone => ?_⟩, fun c => reachable.left finished⟩
    · by_contra stays
      have holds := (occupied.slot live).2 ⟨mem, cleared.unshut live mem recent, not_or.1 stays⟩
      rw [nobody.1] at holds
      cases holds
    · have empty : s.slot = none := by
        refine Option.eq_none_iff_forall_ne_some.2 fun live holds => ?_
        obtain ⟨mem, -, stays⟩ := (occupied.slot live).1 holds
        exact (not_or.2 stays) (gone live mem (cleared.newcomer live holds))
      refine ⟨empty, fun c below => ?_⟩
      simpa [empty] using reachable.left finished below

/-- The acceptor has the second player in its hands when closing takes the first one from the slot.
The second player is installed, and leaves before the acceptor finishes. -/
theorem late_player_left_by_itself :
    ∃ s moves, Schedule .start moves s ∧ s.closer = .returned ∧
      .install "second" ∈ sinceTaken moves ∧ s.NobodyLeft := by
  have schedule := Schedule.cons (s := .start) (.testOpen rfl rfl) <| .cons (.accept "a" rfl) <|
    .cons (.install "first" rfl rfl (by simp [State.start])) <| .cons (.announce rfl) <|
    .cons (.startReader rfl) <| .cons (.testOpen rfl rfl) <| .cons (.accept "b" rfl) <|
    .cons (.setFlag rfl) <| .cons (.takeLive rfl) <|
    .cons (.install "second" rfl rfl (by simp [State.start, State.send, State.setReader])) <|
    .cons (.announce rfl) <| .cons (.startReader rfl) <|
    .cons (@Step.endOfStream _ ⟨"second", 1⟩ rfl) <|
    .cons (@Step.clearOwn _ ⟨"second", 1⟩ _ rfl rfl rfl) <|
    .cons (.testClosed rfl rfl) <| .cons (.join rfl rfl) .nil
  refine ⟨_, _, schedule, rfl, by decide, (nobody_left_iff schedule rfl).1.2 ?_⟩
  simp [State.start, State.send, State.setReader, sinceTaken]

/-- The acceptor has tested the flag and accepted a player when closing sets the flag and finds the
slot empty. The player is installed, closing returns, and the player is still there: nobody has shut
it down. -/
theorem installed_behind_closing :
    ∃ s, Schedule .start [.test, .accept "a", .setFlag, .takeLive, .install "late", .announce,
        .startReader, .test, .join] s ∧
      s.closer = .returned ∧ s.slot = some ⟨"late", 0⟩ ∧ s.accepted = 1 ∧ s.shut = [] ∧
      s.refused = [] ∧ s.ended = [] ∧ ¬ s.NobodyLeft := by
  refine ⟨_, .cons (.testOpen rfl rfl) <| .cons (.accept "a" rfl) <| .cons (.setFlag rfl) <|
    .cons (.takeLive rfl) <| .cons (.install "late" rfl rfl (by simp [State.start])) <|
    .cons (.announce rfl) <| .cons (.startReader rfl) <| .cons (.testClosed rfl rfl) <|
    .cons (.join rfl rfl) .nil, rfl, rfl, rfl, rfl, rfl, rfl, fun nobody => ?_⟩
  cases nobody.1

end TabTools.Link.Steps
