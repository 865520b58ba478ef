import TabTools.Proofs.Debug.Scenes

/-!
# Numbers of messages

**Attempts are numbered** (`wellNumbered_serveAll`). Whatever messages, files and events of the tab
server a session meets, and whatever writes fail, the objects it tries to write carry the numbers 1,
2, 3 and so on.

The number is taken when a write is attempted, not when it succeeds, so the invariant (`Numbered`)
speaks of attempts only: the numbers used so far are those below the next one.
-/

namespace TabTools.Debug

/-- The object that was tried to be written, delivered or not. -/
def Entry.object? : Entry → Option Json
  | .sent seq m _ => some (m.toJson seq)
  | _ => none

/-- The objects of all attempts to write, in order. -/
def objects (entries : List Entry) : List Json := entries.filterMap Entry.object?

/-- Objects that are numbered from one, each a response or an event. -/
def WellNumbered (list : List Json) : Prop :=
  ∀ (i : Nat) (v : Json), list[i]? = some v → v.get? "seq" = some (.nat (i + 1)) ∧
    (v.get? "type" = some (.str "response") ∨ v.get? "type" = some (.str "event"))

theorem toJson_seq (seq : Nat) (m : Message) : (m.toJson seq).get? "seq" = some (.nat seq) := by
  cases m with
  | event e => cases hbody : e.body <;> simp [Message.toJson, optionalField, hbody, lookup_cons_ite]
  | success request body => cases hbody : body.toJson <;> simp [Message.toJson, responseFields,
      optionalField, hbody, lookup_cons_ite]
  | failure request reason => simp [Message.toJson, responseFields, lookup_cons_ite]

/-! ## The numbers used -/

/-- The number that an attempt used. -/
def Entry.number? : Entry → Option Nat
  | .sent seq _ _ => some seq
  | _ => none

def numbers (entries : List Entry) : List Nat := entries.filterMap Entry.number?

theorem numbers_append (xs ys : List Entry) : numbers (xs ++ ys) = numbers xs ++ numbers ys :=
  List.filterMap_append

theorem numbers_recorded (seq : Nat) (acts : List Act) :
    numbers (recorded seq acts) = List.range' seq (messages acts).length := by
  induction acts generalizing seq with
  | nil => rfl
  | cons act acts ih =>
    cases act with
    | traceOn => exact ih seq
    | write after m =>
      rw [messages_write, List.length_cons, List.range'_succ, ← ih (seq + 1)]
      rfl

theorem length_numbers (entries : List Entry) :
    (numbers entries).length = (attempted entries).length := by
  induction entries with
  | nil => rfl
  | cons e entries ih =>
    cases e with
    | sent seq m delivered => exact congrArg (· + 1) ih
    | received | traceOn => exact ih

/-- Attempts that used up the numbers from one on are well numbered. -/
theorem wellNumbered_of_numbers {entries : List Entry} {n : Nat}
    (h : numbers entries = List.range' 1 n) : WellNumbered (objects entries) := by
  -- Every object comes with the number it was written under.
  have hobjects : ∀ (entries : List Entry) (i : Nat) (v : Json), (objects entries)[i]? = some v →
      ∃ (seq : Nat) (m : Message), (numbers entries)[i]? = some seq ∧ v = m.toJson seq := by
    intro entries
    induction entries with
    | nil => simp [objects]
    | cons e entries ih =>
      cases e with
      | sent seq m delivered =>
        intro i v hv
        cases i with
        | zero =>
          cases hv
          exact ⟨seq, m, rfl, rfl⟩
        | succ i => exact ih i v hv
      | received | traceOn => exact ih
  intro i v hv
  obtain ⟨seq, m, hseq, rfl⟩ := hobjects entries i v hv
  rw [h] at hseq
  obtain ⟨hi, rfl⟩ := List.getElem?_eq_some_iff.1 hseq
  rw [List.getElem_range', toJson_seq, toJson_type]
  refine ⟨by rw [Nat.one_mul, Nat.add_comm], ?_⟩
  cases m.answered?.isSome <;> simp

/-! ## Runs -/

namespace Run

/-- The numbers used so far are those below the next one. -/
def Numbered (run : Run) : Prop :=
  ∃ n, run.nextSeq = n + 1 ∧ numbers run.entries = List.range' 1 n

theorem numbered_start (link : Link) (queue : List Link.Event) :
    Numbered { Run.start link with queue } := ⟨0, rfl, rfl⟩

theorem Numbered.wellNumbered {run : Run} (h : run.Numbered) :
    WellNumbered (objects run.entries) := by
  obtain ⟨n, -, hnumbers⟩ := h
  exact wellNumbered_of_numbers hnumbers

theorem Numbered.hear {run : Run} (h : run.Numbered) (message : Json) :
    Numbered { run with entries := run.entries ++ [.received message] } := by
  obtain ⟨n, hnext, hnumbers⟩ := h
  exact ⟨n, hnext, by rw [numbers_append, hnumbers]; exact List.append_nil _⟩

theorem Numbered.performed {run : Run} (h : run.Numbered) (acts : List Act) :
    (run.performed acts).Numbered := by
  obtain ⟨n, hnext, hnumbers⟩ := h
  refine ⟨n + (messages acts).length, ?_, ?_⟩
  · show run.nextSeq + (messages acts).length = _
    omega
  · rw [Run.performed, numbers_append, numbers_recorded, hnumbers, hnext, Nat.add_comm n 1,
      List.range'_append_1]

/-- One more attempt takes the next number, however it goes. -/
theorem Numbered.sent {run next : Run} (h : run.Numbered) {m : Message} {delivered : Bool}
    (hnext : next.nextSeq = run.nextSeq + 1)
    (hentries : next.entries = run.entries ++ [.sent run.nextSeq m delivered]) : next.Numbered := by
  obtain ⟨n, hseq, hnumbers⟩ := h
  refine ⟨n + 1, by rw [hnext, hseq], ?_⟩
  rw [hentries, numbers_append, hnumbers, hseq, List.range'_1_concat, Nat.add_comm n 1]
  rfl

theorem Numbered.missed {run : Run} (h : run.Numbered) (after : Session) (m : Message) :
    (run.missed after m).Numbered := h.sent rfl rfl

theorem Numbered.fail {run : Run} (h : run.Numbered) (faults : Faults) (req : Request)
    (reason : String) : (run.fail faults req reason).1.Numbered := by
  rw [fail_run]
  exact h.sent rfl rfl

theorem Numbered.perform {run : Run} (h : run.Numbered) (faults : Faults) (acts : List Act) :
    (run.perform faults acts).1.Numbered := by
  generalize hresult : run.perform faults acts = result
  cases hresult ▸ perform_cases faults run acts with
  | through sound => exact h.performed acts
  | @broken before rest after m failure split sound fault =>
    exact (h.performed before).missed after m

theorem Numbered.handle {run : Run} (h : run.Numbered) (faults : Faults) (files : Files.View)
    (req : Request) : (run.handle faults files req).1.Numbered := by
  generalize hresult : run.handle faults files req = result
  cases hresult ▸ handle_cases faults run files req with
  | refused refuses => exact h.fail faults req _
  | panicked panics => exact h
  | done plans sound => exact h.performed _
  | broken plans sound fault => exact ((h.performed _).missed _ _).fail faults req _

/-- **Every run is numbered**, whatever fails. -/
theorem numbered_serveAll {run : Run} (h : run.Numbered) (faults : Faults) (turns : List Turn) :
    (run.serveAll faults turns).1.Numbered := by
  refine serveAll_induction (fun run turn hrun => ?_) h turns
  exact serve_induction (fun run queue hrun => hrun) (fun run message hrun => hrun.hear message)
    (fun run events hrun => hrun.perform faults _)
    (fun run files req hrun => hrun.handle faults files req) hrun turn

/-- **Attempts are numbered from one.** -/
theorem wellNumbered_serveAll (link : Link) (queue : List Link.Event) (faults : Faults)
    (turns : List Turn) :
    WellNumbered (objects (serveAll faults { Run.start link with queue } turns).1.entries) :=
  (numbered_serveAll (numbered_start link queue) faults turns).wellNumbered

end Run

end TabTools.Debug
