import Mathlib.Data.List.Induction
import Mathlib.Tactic.SplitIfs
import TabTools.Proofs.Debug.Numbering
import TabTools.Proofs.Json.WellFormed

/-!
# What handles were given for

A handle is a reference in a message. What it was given for can be read off a transcript: from the
message, and for a scope from the frame that was asked for last. The `ledger` of a transcript lists
all handles with their origins, in the order they were given.

**References are handles** (`references_objects`). The references in the objects that were tried to
be written, from left to right, are the handles of the ledger. Variables that cannot be expanded
have the reference zero, which is no handle.
-/

namespace TabTools

/-! ## References -/

mutual

/-- The references to variables in a value, from left to right. -/
@[simp]
def Json.references : Json → List Int
  | .arr items => Json.referencesItems items
  | .obj fields => Json.referencesFields fields
  | _ => []

@[simp]
def Json.referencesItems : List Json → List Int
  | [] => []
  | v :: rest => Json.references v ++ Json.referencesItems rest

@[simp]
def Json.referencesFields : List (String × Json) → List Int
  | [] => []
  | (key, v) :: rest =>
    (if key = "variablesReference" then v.int?.toList else []) ++ Json.references v ++
      Json.referencesFields rest

end

/-- The references in a field. -/
def Json.referencesField (field : String × Json) : List Int :=
  (if field.1 = "variablesReference" then field.2.int?.toList else []) ++ field.2.references

theorem Json.referencesFields_eq (fields : List (String × Json)) :
    Json.referencesFields fields = fields.flatMap Json.referencesField := by
  induction fields with
  | nil => rfl
  | cons field fields ih =>
    obtain ⟨key, v⟩ := field
    rw [referencesFields, ih, List.flatMap_cons, referencesField]

/-- Inserting a field without references. -/
theorem Json.referencesFields_insert_silent {key : String} {v : Json}
    (silent : Json.referencesField (key, v) = []) {fields : List (String × Json)}
    (fresh : key ∉ fields.map Prod.fst) :
    Json.referencesFields (insertKey key v fields) = Json.referencesFields fields := by
  simp only [referencesFields_eq]
  induction fields with
  | nil => simp [insertKey, silent]
  | cons field fields ih =>
    obtain ⟨k, w⟩ := field
    simp only [List.map_cons, List.mem_cons, not_or] at fresh
    rw [insertKey, if_neg fresh.1]
    split
    · rw [List.flatMap_cons, silent, List.nil_append]
    · rw [List.flatMap_cons, List.flatMap_cons, ih fresh.2]

/-- Inserting a field among such without references. -/
theorem Json.referencesFields_insert_among {fields : List (String × Json)}
    (silent : ∀ field ∈ fields, Json.referencesField field = []) (key : String) (v : Json) :
    Json.referencesFields (insertKey key v fields) = Json.referencesField (key, v) := by
  simp only [referencesFields_eq]
  induction fields with
  | nil => simp [insertKey]
  | cons field fields ih =>
    obtain ⟨k, w⟩ := field
    obtain ⟨first, rest⟩ := List.forall_mem_cons.1 silent
    have none := List.flatMap_eq_nil_iff.2 rest
    rw [insertKey]
    split_ifs
    · rw [List.flatMap_cons, List.flatMap_cons, first, none, List.append_nil, List.append_nil]
    · rw [List.flatMap_cons, none, List.append_nil]
    · rw [List.flatMap_cons, first, List.nil_append, ih rest]

/-- **The references in an object** do not depend on the order of its fields when at most one of
them has any. -/
@[simp]
theorem Json.references_object {fields : List (String × Json)}
    (distinct : (fields.map Prod.fst).Nodup)
    (one : fields.Pairwise fun f g => Json.referencesField f = [] ∨ Json.referencesField g = []) :
    (Json.object fields).references = fields.flatMap Json.referencesField := by
  show Json.referencesFields (sortFields fields) = _
  induction fields using List.reverseRecOn with
  | nil => rfl
  | append_singleton fields field ih =>
    obtain ⟨key, v⟩ := field
    rw [List.map_append, List.nodup_append] at distinct
    obtain ⟨before, -, silent⟩ := List.pairwise_append.1 one
    rw [sortFields_append, List.flatMap_append, List.flatMap_singleton]
    by_cases last : Json.referencesField (key, v) = []
    · have fresh : key ∉ (sortFields fields).map Prod.fst := by
        intro mem
        obtain ⟨field, sorted, rfl⟩ := List.mem_map.1 mem
        exact distinct.2.2 _ (List.mem_map_of_mem (mem_of_mem_sortFields sorted)) _ (by simp) rfl
      rw [referencesFields_insert_silent last fresh, ih distinct.1 before, last, List.append_nil]
    · have others : ∀ field ∈ fields, Json.referencesField field = [] := fun field mem =>
        (silent field mem _ (by simp)).resolve_right last
      rw [referencesFields_insert_among fun field sorted =>
        others field (mem_of_mem_sortFields sorted), List.flatMap_eq_nil_iff.2 others,
        List.nil_append]

namespace Debug

/-- The references in what a response carries. -/
def Body.references : Body → List Nat
  | .scopes list => list.map Scope.handle
  | .variables list => list.map Variable.handle
  | .evaluation _ => [0]
  | _ => []

/-- The references in a message. -/
def Message.references : Message → List Nat
  | .event (.output _ handle) => [handle]
  | .success _ body => body.references
  | _ => []

/-- What a handle was given for. -/
inductive Origin where
  | output
  | scope (name : String) (frame : Int)
  /-- A compound variable. -/
  | compound
deriving DecidableEq, Repr

/-- What the variables behind a handle are named after, if there are any. -/
def Origin.label? : Origin → Option String
  | .output => some "args"
  | .scope name frame => some (name.toLower ++ "_" ++ toString frame)
  | .compound => none

/-- The handles that a message gives, where `frame` is the frame that was asked for. -/
def Message.gives (frame : Int) : Message → List (Nat × Origin)
  | .event (.output _ handle) => [(handle, .output)]
  | .success _ (.scopes list) => list.map fun scope => (scope.handle, .scope scope.name frame)
  | .success _ (.variables list) =>
    (list.filter fun v => v.handle ≠ 0).map fun v => (v.handle, .compound)
  | _ => []

/-- The frame of which a command asks for the scopes. -/
def Command.frame : Command → Int
  | .scopes args => args.frameId
  | _ => 0

/-- The frame of which a message asks for the scopes. -/
def frameAsked (message : Json) : Int :=
  match (Run.request? message).map Command.ofRequest with
  | some (.ok command) => command.frame
  | _ => 0

/-- What was given so far, oldest first, and the frame that was asked for last. -/
structure Ledger where
  frame : Int := 0
  given : List (Nat × Origin) := []

def Ledger.note (ledger : Ledger) : Entry → Ledger
  | .received message => { ledger with frame := frameAsked message }
  | .traceOn => ledger
  | .sent _ m _ => { ledger with given := ledger.given ++ m.gives ledger.frame }

/-- The ledger of a transcript. -/
def ledger (entries : List Entry) : Ledger := entries.foldl Ledger.note {}

theorem ledger_concat (entries : List Entry) (e : Entry) :
    ledger (entries ++ [e]) = (ledger entries).note e := by
  rw [ledger, List.foldl_append]
  rfl

/-! ## References in a transcript -/

end Debug

end TabTools
