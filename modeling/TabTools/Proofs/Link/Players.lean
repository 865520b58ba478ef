import TabTools.Link.Steps
import Mathlib.Data.List.Nodup

/-!
# One player at a time

**Theorem (`players_kept_apart`).** However the acceptor, the readers and closing take turns, the
slot holds the one connection that was installed and that neither closing nor its own reader has let
go. The events of an identifier are the beginning of a connection's life: `connected`, messages,
`disconnected`. A refused player is behind no event and never in the slot, and only closing and the
reader of the connection in the slot take it out.

Four invariants carry this, each kept by every step:

* *registered*: connections are numbered by their arrival, no identifier is given twice, and no
  connection is both installed and refused;
* *staffed*: a connection has no reader until it was announced;
* *attached*: the slot can be read off the installed connections, those shut down and the stages
  of the readers;
* *told*: the events of a connection are the ones that the stage of its reader calls for.

An old reader may find a new connection in the slot: closing empties the slot under the old reader
while the acceptor is about to fill it. Identifiers tell the two apart.
-/

namespace TabTools.Link

/-! ## Events of a connection -/

/-- The identifier of the connection that an event is about. -/
def Event.id : Event → String
  | .connected id _ => id
  | .disconnected id => id
  | .message id _ => id

/-- The events about a connection, in order. -/
def eventsOf (id : String) (channel : List Event) : List Event :=
  channel.filter fun event => event.id = id

@[simp] theorem eventsOf_append (id : String) (xs ys : List Event) :
    eventsOf id (xs ++ ys) = eventsOf id xs ++ eventsOf id ys := List.filter_append xs ys

theorem eventsOf_own {id : String} {events : List Event} (own : ∀ event ∈ events, event.id = id) :
    eventsOf id events = events := List.filter_eq_self.2 (by simpa using own)

theorem eventsOf_other {id : String} {events : List Event}
    (other : ∀ event ∈ events, event.id ≠ id) : eventsOf id events = [] :=
  List.filter_eq_nil_iff.2 (by simpa using other)

namespace Steps

variable {s t : State} {move : Move}

/-! ## Fields after an update -/

@[simp] theorem State.setReader_self (s : State) (live : Live) (stage : Stage) :
    (s.setReader live stage).readers live = stage := if_pos rfl

theorem State.setReader_other {live other : Live} (differs : other ≠ live) (s : State)
    (stage : Stage) : (s.setReader live stage).readers other = s.readers other := if_neg differs

@[simp] theorem State.setReader_installed (s : State) (live : Live) (stage : Stage) :
    (s.setReader live stage).installed = s.installed := rfl

@[simp] theorem State.setReader_slot (s : State) (live : Live) (stage : Stage) :
    (s.setReader live stage).slot = s.slot := rfl

@[simp] theorem State.setReader_shut (s : State) (live : Live) (stage : Stage) :
    (s.setReader live stage).shut = s.shut := rfl

/-! ## Numbers and identifiers -/

/-- Identifiers are given once, and numbers in the order of arrival. -/
structure Registered (s : State) : Prop where
  ids : (s.installed.map Live.id).Nodup
  installed : ∀ live ∈ s.installed, live.connection < s.accepted
  refused : ∀ c ∈ s.refused, c < s.accepted ∧ c ∉ s.installed.map Live.connection
  held : ∀ c peer, s.acceptor = .holding c peer →
    c < s.accepted ∧ c ∉ s.refused ∧ c ∉ s.installed.map Live.connection

theorem Registered.start : Registered .start where
  ids := .nil
  installed := by simp [State.start]
  refused := by simp [State.start]
  held := by simp [State.start]

theorem Registered.step (h : Registered s) (step : Step s move t) : Registered t := by
  cases step with
  | testOpen | testClosed | idle | announce | startReader =>
    exact { h with held := by simp [State.send, State.setReader] }
  | accept peer =>
    refine { h with installed := ?_, refused := ?_, held := ?_ }
    · exact fun live mem => Nat.lt_succ_of_lt (h.installed live mem)
    · exact fun c mem => ⟨Nat.lt_succ_of_lt (h.refused c mem).1, (h.refused c mem).2⟩
    · rintro c peer ⟨⟩
      refine ⟨Nat.lt_succ_self _, fun mem => ?_, fun mem => ?_⟩
      · exact Nat.lt_irrefl _ (h.refused _ mem).1
      · obtain ⟨live, mem, eq⟩ := List.mem_map.1 mem
        exact Nat.lt_irrefl _ (eq ▸ h.installed live mem)
  | @refuse c _ _ turn =>
    refine { h with refused := ?_, held := by simp }
    intro other mem
    rcases List.mem_append.1 mem with mem | mem
    · exact h.refused other mem
    · obtain rfl := List.mem_singleton.1 mem
      exact ⟨(h.held _ _ turn).1, (h.held _ _ turn).2.2⟩
  | @install c _ id turn free fresh =>
    obtain ⟨below, unrefused, uninstalled⟩ := h.held _ _ turn
    refine { ids := ?_, installed := ?_, refused := ?_, held := by simp }
    · rw [List.map_append]
      exact List.nodup_append'.2 ⟨h.ids, List.nodup_singleton _, by simpa using fresh⟩
    · intro live mem
      rcases List.mem_append.1 mem with mem | mem
      · exact h.installed live mem
      · obtain rfl := List.mem_singleton.1 mem
        exact below
    · intro other mem
      have differs : other ≠ c := fun eq => unrefused (eq ▸ mem)
      exact ⟨(h.refused other mem).1, by simpa [differs] using (h.refused other mem).2⟩
  | line | endOfStream | clearOwn | clearOther | report | setFlag | takeLive | join | closeAgain =>
    exact { h with }

/-- An identifier is that of one connection. -/
theorem Registered.eq_of_id (h : Registered s) {live other : Live} (mem : live ∈ s.installed)
    (memOther : other ∈ s.installed) (same : live.id = other.id) : live = other :=
  List.inj_on_of_nodup_map h.ids mem memOther same

/-! ## Who has a reader -/

/-- A reader is started once, for an installed connection. -/
structure Staffed (s : State) : Prop where
  announcing : ∀ live peer, s.acceptor = .announcing live peer →
    live ∈ s.installed ∧ s.readers live = .absent
  starting : ∀ live, s.acceptor = .starting live → live ∈ s.installed ∧ s.readers live = .absent
  reader : ∀ live, s.readers live ≠ .absent → live ∈ s.installed

theorem Staffed.start : Staffed .start where
  announcing := by simp [State.start]
  starting := by simp [State.start]
  reader := by simp [State.start]

/-- A reader that is there goes on to another stage. -/
theorem Staffed.setReader (h : Staffed s) {live : Live} (present : s.readers live ≠ .absent)
    (stage : Stage) : Staffed (s.setReader live stage) := by
  have other {other : Live} (absent : s.readers other = .absent) : other ≠ live :=
    fun eq => present (eq ▸ absent)
  refine ⟨fun new peer turn => ?_, fun new turn => ?_, fun new stays => ?_⟩
  · obtain ⟨mem, absent⟩ := h.announcing new peer turn
    exact ⟨mem, (State.setReader_other (other absent) s stage).trans absent⟩
  · obtain ⟨mem, absent⟩ := h.starting new turn
    exact ⟨mem, (State.setReader_other (other absent) s stage).trans absent⟩
  · by_cases eq : new = live
    · exact eq ▸ h.reader live present
    · exact h.reader new (State.setReader_other eq s stage ▸ stays)

theorem Staffed.step (h : Staffed s) (step : Step s move t) : Staffed t := by
  cases step with
  | testOpen | testClosed | idle | accept | refuse =>
    exact { h with announcing := by simp, starting := by simp }
  | @install c _ id turn free fresh =>
    refine { announcing := ?_, starting := by simp, reader := ?_ }
    · rintro live peer ⟨⟩
      refine ⟨List.mem_append_right _ (List.mem_singleton.2 rfl), ?_⟩
      by_contra present
      exact fresh _ (h.reader _ present) rfl
    · exact fun live present => List.mem_append_left _ (h.reader live present)
  | @announce live peer turn =>
    refine { h with announcing := by simp [State.send], starting := ?_ }
    rintro other ⟨⟩
    exact h.announcing live peer turn
  | @startReader live turn =>
    refine { announcing := by simp [State.setReader], starting := by simp [State.setReader],
             reader := ?_ }
    intro other present
    by_cases eq : other = live
    · exact eq ▸ (h.starting live turn).1
    · exact h.reader other (State.setReader_other eq s .reading ▸ present)
  | line | setFlag | takeLive | join | closeAgain => exact { h with }
  | @endOfStream live turn =>
    have same : Staffed { s with ended := s.ended ++ [live.connection] } := { h with }
    exact same.setReader (by simp [turn]) .clearing
  | clearOwn turn =>
    have same : Staffed { s with slot := none } := { h with }
    exact same.setReader (by simp [turn]) .reporting
  | clearOther turn => exact h.setReader (by simp [turn]) .reporting
  | @report live turn =>
    have same : Staffed (s.send [.disconnected live.id]) := { h with }
    exact same.setReader (by simp [State.send, turn]) .done

/-! ## What is in the slot -/

/-- The connection was installed, and neither closing nor its own reader has let it go. -/
def State.Attached (s : State) (live : Live) : Prop :=
  live ∈ s.installed ∧ live.connection ∉ s.shut ∧ s.readers live ≠ .reporting ∧
    s.readers live ≠ .done

/-- The slot holds the connection that is attached. -/
structure Occupied (s : State) : Prop where
  slot : ∀ live, s.slot = some live ↔ s.Attached live
  shut : ∀ c ∈ s.shut, c ∈ s.installed.map Live.connection

theorem Occupied.start : Occupied .start where
  slot := by simp [State.start, State.Attached]
  shut := by simp [State.start]

theorem Occupied.installed (h : Occupied s) {live : Live} (holds : s.slot = some live) :
    live ∈ s.installed := ((h.slot live).1 holds).1

/-- A reader goes on to another stage: only its own connection can come to be let go. -/
theorem Occupied.setReader (h : Occupied s) {live : Live} {stage : Stage}
    (own : s.slot = some live ↔ (s.setReader live stage).Attached live) :
    Occupied (s.setReader live stage) := by
  refine { h with slot := fun other => ?_ }
  by_cases eq : other = live
  · exact eq ▸ own
  · simpa [State.Attached, State.setReader_other eq] using h.slot other

/-- The slot is emptied, and the connection in it is let go. -/
theorem Occupied.emptied (h : Occupied s) (empty : t.slot = none)
    (shut : ∀ c ∈ t.shut, c ∈ t.installed.map Live.connection)
    (gone : ∀ live, t.Attached live → s.Attached live ∧ s.slot ≠ some live) : Occupied t where
  slot live := by
    refine iff_of_false (by simp [empty]) fun attached => ?_
    exact (gone live attached).2 ((h.slot live).2 (gone live attached).1)
  shut := shut

theorem Occupied.step (h : Occupied s) (registered : Registered s) (staffed : Staffed s)
    (step : Step s move t) : Occupied t := by
  cases step with
  | testOpen | testClosed | idle | accept | refuse | announce | line | setFlag | join
  | closeAgain => exact { h with }
  | @install c _ id turn free fresh =>
    obtain ⟨-, -, uninstalled⟩ := registered.held _ _ turn
    have absent : s.readers ⟨id, c⟩ = .absent := by
      by_contra present
      exact fresh _ (staffed.reader _ present) rfl
    refine { slot := fun live => ⟨?_, ?_⟩, shut := fun c mem => ?_ }
    · rintro ⟨⟩
      refine ⟨List.mem_append_right _ (List.mem_singleton.2 rfl), ?_, by simp [absent]⟩
      exact fun mem => uninstalled (h.shut c mem)
    · rintro ⟨mem, unshut, stage⟩
      rcases List.mem_append.1 mem with mem | mem
      · have holds := (h.slot live).2 ⟨mem, unshut, stage⟩
        rw [free] at holds
        cases holds
      · rw [List.mem_singleton.1 mem]
    · rw [List.map_append]
      exact List.mem_append_left _ (h.shut c mem)
  | @startReader live turn =>
    have same : Occupied { s with acceptor := .testing } := { h with }
    refine same.setReader ((h.slot live).trans ?_)
    simp [State.Attached, (staffed.starting live turn).2]
  | @endOfStream live turn =>
    have same : Occupied { s with ended := s.ended ++ [live.connection] } := { h with }
    refine same.setReader ((h.slot live).trans ?_)
    simp [State.Attached, turn]
  | @clearOwn live held turn holds own =>
    obtain rfl : held = live :=
      registered.eq_of_id (h.installed holds) (staffed.reader live (by simp [turn])) own
    refine h.emptied rfl h.shut fun other attached => ?_
    have differs : other ≠ held := by
      rintro rfl
      simp [State.Attached] at attached
    refine ⟨by simpa [State.Attached, State.setReader_other differs] using attached, ?_⟩
    rw [holds]
    exact fun eq => differs (Option.some.inj eq).symm
  | @clearOther live turn other =>
    refine h.setReader (iff_of_false (fun holds => other live holds rfl) ?_)
    simp [State.Attached]
  | @report live turn =>
    have same : Occupied (s.send [.disconnected live.id]) := { h with }
    refine same.setReader ((h.slot live).trans ?_)
    simp [State.Attached, turn]
  | takeLive turn =>
    refine h.emptied rfl (fun c mem => ?_) fun live ⟨mem, unshut, stage⟩ => ⟨⟨mem, ?_, stage⟩, ?_⟩
    · rcases List.mem_append.1 mem with mem | mem
      · exact h.shut c mem
      · obtain ⟨live, holds, rfl⟩ := List.mem_map.1 mem
        exact List.mem_map_of_mem (h.installed (Option.mem_toList.1 holds))
    · exact fun mem => unshut (List.mem_append_left _ mem)
    · intro holds
      exact unshut (List.mem_append_right _ (by simp [holds]))

/-! ## What is told of a connection -/

/-- The events of a connection at each stage of its life. -/
inductive Told (s : State) (live : Live) : List Event → Prop
  | installed {peer : String} (turn : s.acceptor = .announcing live peer) : Told s live []
  | announced {peer : String} (turn : s.acceptor = .starting live) :
      Told s live [.connected live.id peer]
  | running {peer : String} (said : List Message) (present : s.readers live ≠ .absent)
      (before : s.readers live ≠ .done) :
      Told s live (.connected live.id peer :: said.map (.message live.id))
  | ended {peer : String} (said : List Message) (stage : s.readers live = .done) :
      Told s live
        (.connected live.id peer :: (said.map (.message live.id) ++ [.disconnected live.id]))

/-- The events of a connection are the beginning of a whole life. -/
theorem Told.beginning {live : Live} {events : List Event} (h : Told s live events) :
    ∃ (peer : String) (said : List Message), events <+:
      .connected live.id peer :: (said.map (.message live.id) ++ [.disconnected live.id]) := by
  cases h with
  | installed => exact ⟨"", [], List.nil_prefix⟩
  | @announced peer => exact ⟨peer, [], by simp⟩
  | @running peer said => exact ⟨peer, said, by simp⟩
  | @ended peer said => exact ⟨peer, said, List.prefix_rfl⟩

/-- The step was about something else. -/
theorem Told.carry {live : Live} {events : List Event} (h : Told s live events)
    (announcing : ∀ peer, s.acceptor = .announcing live peer → t.acceptor = .announcing live peer)
    (starting : s.acceptor = .starting live → t.acceptor = .starting live)
    (reader : t.readers live = s.readers live) : Told t live events := by
  cases h with
  | installed turn => exact .installed (announcing _ turn)
  | announced turn => exact .announced (starting turn)
  | running said present before => exact .running said (reader ▸ present) (reader ▸ before)
  | ended said stage => exact .ended said (reader.trans stage)

/-- Whose reader is at work has been announced, and its end has not been reported. -/
theorem Told.running_of_reader {live : Live} {events : List Event} (h : Told s live events)
    (staffed : Staffed s) (present : s.readers live ≠ .absent) (before : s.readers live ≠ .done) :
    ∃ (peer : String) (said : List Message),
      events = .connected live.id peer :: said.map (.message live.id) := by
  cases h with
  | installed turn => exact absurd (staffed.announcing _ _ turn).2 present
  | announced turn => exact absurd (staffed.starting _ turn).2 present
  | running said => exact ⟨_, said, rfl⟩
  | ended said stage => exact absurd stage before

/-- Every event is about an installed connection, and tells of it what has happened. -/
structure Reported (s : State) : Prop where
  known : ∀ event ∈ s.channel, ∃ live ∈ s.installed, live.id = event.id
  told : ∀ live ∈ s.installed, Told s live (eventsOf live.id s.channel)

theorem Reported.start : Reported .start where
  known := by simp [State.start]
  told := by simp [State.start]

/-- A step that adds events about one connection only. -/
theorem Reported.add (h : Reported s) (registered : Registered s) {live : Live}
    (mem : live ∈ s.installed) {events : List Event} (own : ∀ event ∈ events, event.id = live.id)
    (channel : t.channel = s.channel ++ events) (installed : t.installed = s.installed)
    (self : ∀ {seen}, Told s live seen → Told t live (seen ++ events))
    (others : ∀ {other seen}, other ≠ live → Told s other seen → Told t other seen) :
    Reported t where
  known event memEvent := by
    rw [channel] at memEvent
    rw [installed]
    rcases List.mem_append.1 memEvent with memEvent | memEvent
    · exact h.known event memEvent
    · exact ⟨live, mem, (own event memEvent).symm⟩
  told other memOther := by
    rw [installed] at memOther
    rw [channel, eventsOf_append]
    by_cases eq : other = live
    · rw [eq, eventsOf_own own]
      exact self (h.told live mem)
    · have silent : eventsOf other.id events = [] := by
        refine eventsOf_other fun event memEvent same => eq ?_
        exact registered.eq_of_id memOther mem (same.symm.trans (own event memEvent))
      rw [silent, List.append_nil]
      exact others eq (h.told other memOther)

/-- A step that adds no event and changes no reader. -/
theorem Reported.carry (h : Reported s) (channel : t.channel = s.channel)
    (installed : t.installed = s.installed)
    (told : ∀ {live seen}, Told s live seen → Told t live seen) : Reported t where
  known := by rw [channel, installed]; exact h.known
  told := by rw [channel, installed]; exact fun live mem => told (h.told live mem)

/-- A reader at work goes on, perhaps with events. -/
theorem Reported.read (h : Reported s) (registered : Registered s) (staffed : Staffed s)
    (live : Live) (present : s.readers live ≠ .absent) (before : s.readers live ≠ .done)
    {events : List Event} (own : ∀ event ∈ events, event.id = live.id)
    (channel : t.channel = s.channel ++ events) (installed : t.installed = s.installed)
    (acceptor : t.acceptor = s.acceptor)
    (others : ∀ other, other ≠ live → t.readers other = s.readers other)
    (self : ∀ (peer : String) (said : List Message),
      Told t live (.connected live.id peer :: said.map (.message live.id) ++ events)) :
    Reported t := by
  refine h.add registered (staffed.reader live present) own channel installed ?_ ?_
  · intro seen told
    obtain ⟨peer, said, rfl⟩ := told.running_of_reader staffed present before
    exact self peer said
  · intro other seen differs told
    exact told.carry (fun _ turn => acceptor.trans turn) acceptor.trans (others other differs)

theorem Reported.step (h : Reported s) (registered : Registered s) (staffed : Staffed s)
    (step : Step s move t) : Reported t := by
  cases step with
  | testOpen turn | testClosed turn | idle turn | accept peer turn | refuse turn =>
    exact h.carry rfl rfl fun told => told.carry (by simp [turn]) (by simp [turn]) rfl
  | setFlag | takeLive | join | closeAgain =>
    exact h.carry rfl rfl fun told => told.carry (fun _ turn => turn) (fun turn => turn) rfl
  | install id turn free fresh =>
    refine { known := fun event mem => ?_, told := fun live mem => ?_ }
    · obtain ⟨live, memLive, eq⟩ := h.known event mem
      exact ⟨live, List.mem_append_left _ memLive, eq⟩
    · rcases List.mem_append.1 mem with mem | mem
      · exact (h.told live mem).carry (by simp [turn]) (by simp [turn]) rfl
      · obtain rfl := List.mem_singleton.1 mem
        have silent : eventsOf id s.channel = [] := by
          refine eventsOf_other fun event memEvent same => ?_
          obtain ⟨live, memLive, eq⟩ := h.known event memEvent
          exact fresh live memLive (eq.trans same)
        exact silent ▸ .installed rfl
  | announce turn =>
    obtain ⟨mem, absent⟩ := staffed.announcing _ _ turn
    refine h.add registered mem (by simp [Event.id]) rfl rfl ?_ ?_
    · intro seen told
      cases told with
      | installed => exact .announced rfl
      | announced other => simp [turn] at other
      | running _ present => exact absurd absent present
      | ended _ stage => simp [absent] at stage
    · intro other seen differs told
      refine told.carry ?_ (by simp [turn]) rfl
      intro peer same
      rw [turn] at same
      cases same
      exact absurd rfl differs
  | @startReader live turn =>
    obtain ⟨mem, absent⟩ := staffed.starting _ turn
    refine h.add registered mem (List.forall_mem_nil _) (List.append_nil _).symm rfl ?_ ?_
    · intro seen told
      rw [List.append_nil]
      cases told with
      | installed other => simp [turn] at other
      | announced => exact .running [] (by simp) (by simp)
      | running _ present => exact absurd absent present
      | ended _ stage => simp [absent] at stage
    · intro other seen differs told
      refine told.carry (by simp [turn]) ?_ (State.setReader_other differs _ _)
      intro same
      rw [turn] at same
      cases same
      exact absurd rfl differs
  | @line live text turn =>
    refine h.read registered staffed live (by simp [turn]) (by simp [turn]) ?_ rfl rfl rfl
      (fun _ _ => rfl) fun peer said => ?_
    · simp [Event.id]
    · rw [List.cons_append, ← List.map_append]
      exact .running _ (by simp [State.send, turn]) (by simp [State.send, turn])
  | endOfStream turn | clearOwn turn | clearOther turn =>
    refine h.read registered staffed _ (by simp [turn]) (by simp [turn]) (List.forall_mem_nil _)
      (List.append_nil _).symm rfl rfl (fun _ differs => State.setReader_other differs _ _)
      fun peer said => ?_
    rw [List.append_nil]
    exact .running said (by simp) (by simp)
  | report turn =>
    refine h.read registered staffed _ (by simp [turn]) (by simp [turn]) ?_ rfl rfl rfl
      (fun _ differs => State.setReader_other differs _ _) fun peer said => ?_
    · simp [Event.id]
    · exact .ended said (by simp)

/-! ## Whole schedules -/

/-- All that is kept by every step. -/
structure Orderly (s : State) : Prop where
  registered : Registered s
  staffed : Staffed s
  occupied : Occupied s
  reported : Reported s

theorem Orderly.start : Orderly .start := ⟨.start, .start, .start, .start⟩

theorem Orderly.step (h : Orderly s) (step : Step s move t) : Orderly t where
  registered := h.registered.step step
  staffed := h.staffed.step step
  occupied := h.occupied.step h.registered h.staffed step
  reported := h.reported.step h.registered h.staffed step

theorem Reachable.orderly (h : Reachable s) : Orderly s := by
  obtain ⟨moves, schedule⟩ := h
  exact schedule.history (P := fun _ => Orderly) .start .step

/-- Events of any identifier, also of one that was never given. -/
theorem Reported.beginning (h : Reported s) (id : String) :
    ∃ (peer : String) (said : List Message), eventsOf id s.channel <+:
      .connected id peer :: (said.map (.message id) ++ [.disconnected id]) := by
  by_cases given : ∃ live ∈ s.installed, live.id = id
  · obtain ⟨live, mem, rfl⟩ := given
    exact (h.told live mem).beginning
  · have silent : eventsOf id s.channel = [] := by
      refine eventsOf_other fun event memEvent same => given ?_
      obtain ⟨live, mem, eq⟩ := h.known event memEvent
      exact ⟨live, mem, eq.trans same⟩
    exact ⟨"", [], silent ▸ List.nil_prefix⟩

/-- A connection leaves the slot by its own reader or by closing. -/
theorem Orderly.slot_step (h : Orderly s) (step : Step s move t) {live : Live}
    (holds : s.slot = some live) :
    t.slot = some live ∨ move = .clear live ∨ move = .takeLive := by
  cases step with
  | testOpen | testClosed | idle | accept | refuse | announce | startReader | line | endOfStream
  | clearOther | report | setFlag | join | closeAgain => exact .inl holds
  | install id turn free =>
    rw [free] at holds
    cases holds
  | @clearOwn reader held turn found own =>
    obtain rfl : held = live := Option.some.inj (found.symm.trans holds)
    have mem : reader ∈ s.installed := h.staffed.reader reader (by simp [turn])
    rw [h.registered.eq_of_id (h.occupied.installed holds) mem own]
    exact .inr (.inl rfl)
  | takeLive => exact .inr (.inr rfl)

/-- **Players are kept apart.** In every state that some interleaving leads to: the slot holds a
connection exactly if the connection was installed, was not shut down by closing and has not been
let go by its reader, so that at most one connection is in that condition; the events of every
identifier are the beginning of `connected`, messages, `disconnected`; a refused player is not in
the slot, and every event is about an installed connection that is not the refused one. Refusing
changes neither the slot nor the events; and a connection leaves the slot only when its own reader
clears the slot or closing takes it. -/
theorem players_kept_apart (reachable : Reachable s) :
    (∀ live, s.slot = some live ↔ s.Attached live) ∧
    (∀ id, ∃ (peer : String) (said : List Message), eventsOf id s.channel <+:
      .connected id peer :: (said.map (.message id) ++ [.disconnected id])) ∧
    (∀ c ∈ s.refused, (∀ live, s.slot = some live → live.connection ≠ c) ∧
      ∀ event ∈ s.channel, ∃ live ∈ s.installed, live.id = event.id ∧
        ∀ other ∈ s.installed, other.id = event.id → other.connection ≠ c) ∧
    ∀ move t, Step s move t →
      (t.refused ≠ s.refused → t.slot = s.slot ∧ t.channel = s.channel) ∧
      ∀ live, s.slot = some live →
        t.slot = some live ∨ move = .clear live ∨ move = .takeLive := by
  have h := reachable.orderly
  refine ⟨h.occupied.slot, h.reported.beginning, ?_, ?_⟩
  · intro c refused
    have uninstalled {live : Live} (mem : live ∈ s.installed) : live.connection ≠ c :=
      fun eq => (h.registered.refused c refused).2 (eq ▸ List.mem_map_of_mem mem)
    refine ⟨fun live holds => uninstalled (h.occupied.installed holds), fun event mem => ?_⟩
    obtain ⟨live, memLive, eq⟩ := h.reported.known event mem
    exact ⟨live, memLive, eq, fun other memOther _ => uninstalled memOther⟩
  · intro move t step
    refine ⟨fun changed => ?_, fun live holds => h.slot_step step holds⟩
    cases step with
    | refuse => exact ⟨rfl, rfl⟩
    | _ => exact absurd rfl changed

/-- Closing shuts the first player down while the acceptor is about to install the third one. The
first player's reader then finds the third player in the slot and lets it be; the second player was
refused. -/
theorem old_reader_spares_new_player :
    ∃ s, Reachable s ∧ s.refused = [1] ∧
      s.channel = [.connected "first" "a", .connected "third" "c", .disconnected "first"] ∧
      s.Attached ⟨"third", 2⟩ ∧ s.slot = some ⟨"third", 2⟩ ∧ ¬ s.Attached ⟨"first", 0⟩ ∧
      ∃ (peer : String) (said : List Message), eventsOf "first" s.channel <+:
        .connected "first" peer :: (said.map (.message "first") ++ [.disconnected "first"]) := by
  have schedule := Schedule.cons (s := .start) (.testOpen rfl rfl) <| .cons (.accept "a" rfl) <|
    .cons (.install "first" rfl rfl (by simp [State.start])) <| .cons (.announce rfl) <|
    .cons (.startReader rfl) <|
    .cons (.testOpen rfl rfl) <| .cons (.accept "b" rfl) <| .cons (.refuse rfl rfl) <|
    .cons (.testOpen rfl rfl) <| .cons (.accept "c" rfl) <|
    .cons (.setFlag rfl) <| .cons (.takeLive rfl) <|
    .cons (.install "third" rfl rfl (by simp [State.start, State.send, State.setReader])) <|
    .cons (@Step.endOfStream _ ⟨"first", 0⟩ rfl) <|
    .cons (@Step.clearOther _ ⟨"first", 0⟩ rfl (by simp [State.setReader])) <|
    .cons (.announce rfl) <| .cons (@Step.report _ ⟨"first", 0⟩ rfl) .nil
  obtain ⟨slot, events, -⟩ := players_kept_apart ⟨_, schedule⟩
  refine ⟨_, ⟨_, schedule⟩, rfl, rfl, (slot _).1 rfl, rfl, fun attached => ?_, events "first"⟩
  exact absurd ((slot _).2 attached) (by simp [State.send, State.setReader])

end Steps

end TabTools.Link
