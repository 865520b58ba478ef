import TabTools.Debug.Breakpoint
import TabTools.Proofs.Lookup

/-!
# Breakpoints and client lines

**Numbers of lines** (`toInternal_eq_some_iff`, `toClient_eq_iff`). A client number that is not before
the first line denotes one line. Below the largest client number, two lines have the same client
number only if they are the same line.

**Marked lines** (`mem_placed_iff`). A list of breakpoints remembers client numbers only. Among the
lines of a source of less than `2 ^ 63 - 1` lines, the numbers of the breakpoints that were asked for
stand for exactly the lines where those were placed.

**Numbers of breakpoints** (`ids_set`). New breakpoints are numbered one after another.

**Hits** (`hit_some`, `hit_none`, `exists_struck`). A line is hit when a breakpoint has its number, and
a hit changes the numbers of no breakpoint. It verifies the first breakpoint of the line and touches
no other (`Struck`).
-/

namespace TabTools

namespace LineBase

variable {base : LineBase} {client : Int} {line : Nat}

theorem first_cases (base : LineBase) : base.first = 0 ∨ base.first = 1 := by
  unfold first
  split <;> simp

theorem toInternal_eq_some_iff :
    base.toInternal client = some line ↔ client = line + base.first := by
  unfold toInternal
  split
  · rw [Option.some.injEq]
    omega
  · simp only [reduceCtorEq, false_iff]
    omega

theorem toInternal_eq_none_iff : base.toInternal client = none ↔ client < base.first := by
  unfold toInternal
  split
  · simp only [reduceCtorEq, false_iff]
    omega
  · simp only [true_iff]
    omega

theorem toClient_of_lt (h : (line : Int) < maxClient) : base.toClient line = line + base.first := by
  have hfirst := base.first_cases
  unfold toClient
  omega

theorem toClient_eq_iff {other : Nat} (h : (line : Int) + 1 < maxClient) :
    base.toClient other = base.toClient line ↔ other = line := by
  have hfirst := base.first_cases
  have hline : base.toClient line = line + base.first := toClient_of_lt (by omega)
  rw [hline]
  unfold toClient
  omega

end LineBase

namespace Debug

/-! ## Where breakpoints are -/

/-- One of the breakpoints asked for at client lines is placed on a line. -/
def Marks (source : Source) (base : LineBase) (clients : List Int) (line : Nat) : Prop :=
  ∃ client ∈ clients, ∃ asked, base.toInternal client = some asked ∧ (place source asked).1 = line

/-- A client line is turned into the number of the line where its breakpoint is placed. -/
theorem placeClient_eq_iff {source : Source} {base : LineBase} {client : Int} {line : Nat}
    (h : (line : Int) + 1 < LineBase.maxClient) :
    (placeClient source base client).1 = base.toClient line ↔
      ∃ asked, base.toInternal client = some asked ∧ (place source asked).1 = line := by
  unfold placeClient
  cases hinternal : base.toInternal client with
  | none =>
    -- The number is before the first line, so it is no line's number.
    have hbefore := LineBase.toInternal_eq_none_iff.1 hinternal
    rw [LineBase.toClient_of_lt (by omega)]
    simp only [reduceCtorEq, false_and, exists_false, iff_false]
    omega
  | some asked =>
    rw [LineBase.toClient_eq_iff h]
    simp

namespace BreakpointTable

/-- The client lines of breakpoints. -/
def marks (list : List Breakpoint) : List Int := list.map Breakpoint.line

/-- The client lines that breakpoints asked for at client lines end up with. -/
def placed (source : Source) (base : LineBase) (clients : List Int) : List Int :=
  clients.map fun client => (placeClient source base client).1

theorem marks_create (source : Source) (base : LineBase) (firstId : Nat) (clients : List Int) :
    marks (create source base firstId clients) = placed source base clients := by
  induction clients generalizing firstId with
  | nil => rfl
  | cons client rest ih => exact congrArg (_ :: ·) (ih (firstId + 1))

/-- **Marked lines.** -/
theorem mem_placed_iff {source : Source} {base : LineBase} {clients : List Int} {line : Nat}
    (h : (line : Int) + 1 < LineBase.maxClient) :
    base.toClient line ∈ placed source base clients ↔ Marks source base clients line := by
  rw [placed, List.mem_map]
  constructor
  · rintro ⟨client, hclient, heq⟩
    exact ⟨client, hclient, (placeClient_eq_iff h).1 heq⟩
  · rintro ⟨client, hclient, heq⟩
    exact ⟨client, hclient, (placeClient_eq_iff h).2 heq⟩

/-! ## The table -/

theorem lookup_put (key k : SourceKey) (list : List Breakpoint)
    (entries : List (SourceKey × List Breakpoint)) :
    (put key list entries).lookup k = if k = key then some list else entries.lookup k := by
  induction entries with
  | nil => exact lookup_cons_ite k key list []
  | cons entry rest ih =>
    obtain ⟨k', old⟩ := entry
    unfold put
    split
    · rename_i heq
      subst heq
      by_cases hk : k = k' <;> simp [lookup_cons_ite, hk]
    · rename_i hne
      rw [lookup_cons_ite, lookup_cons_ite, ih]
      by_cases hk : k = k'
      · subst hk
        simp [hne]
      · simp [hk]

theorem ids_create (source : Source) (base : LineBase) (firstId : Nat) (clients : List Int) :
    (create source base firstId clients).map Breakpoint.id = List.range' firstId clients.length := by
  induction clients generalizing firstId with
  | nil => rfl
  | cons client rest ih => exact congrArg (firstId :: ·) (ih (firstId + 1))

theorem get_put (table : BreakpointTable) (key : SourceKey) (list : List Breakpoint) (nextId : Nat) :
    get ⟨nextId, put key list table.bySource⟩ key = list := by
  rw [get, lookup_put, if_pos rfl, Option.getD_some]

theorem get_put_of_ne (table : BreakpointTable) {key other : SourceKey} (h : key ≠ other)
    (list : List Breakpoint) (nextId : Nat) :
    get ⟨nextId, put other list table.bySource⟩ key = table.get key := by
  rw [get, lookup_put, if_neg h]
  rfl

theorem ids_set (table : BreakpointTable) (key : SourceKey) (source : Source) (clients : List Int)
    (base : LineBase) :
    (table.set key source clients base).1.map Breakpoint.id =
      List.range' table.nextId clients.length :=
  ids_create source base table.nextId clients

theorem get_set (table : BreakpointTable) (key : SourceKey) (source : Source) (clients : List Int)
    (base : LineBase) :
    (table.set key source clients base).2.get key = create source base table.nextId clients :=
  get_put _ _ _ _

theorem get_set_of_ne (table : BreakpointTable) {key other : SourceKey} (h : key ≠ other)
    (source : Source) (clients : List Int) (base : LineBase) :
    (table.set other source clients base).2.get key = table.get key :=
  get_put_of_ne table h _ _

/-! ## Hits -/

theorem marks_verifyFirst (client : Int) (list : List Breakpoint) :
    marks (verifyFirst client list) = marks list := by
  induction list with
  | nil => rfl
  | cons bp rest ih =>
    unfold verifyFirst
    split
    · rfl
    · exact congrArg (bp.line :: ·) ih

/-- A hit needs a breakpoint with that number and keeps all numbers. -/
theorem hit_some {table after : BreakpointTable} {key : SourceKey} {client : Int} {hit : Hit}
    (h : table.hit key client = some (hit, after)) :
    client ∈ marks (table.get key) ∧ marks (after.get key) = marks (table.get key) := by
  unfold BreakpointTable.hit at h
  split at h
  · cases h
  · rename_i bp hfind
    cases h
    have hline : bp.line = client := by simpa using List.find?_some hfind
    refine ⟨List.mem_map.2 ⟨bp, List.mem_of_find?_eq_some hfind, hline⟩, ?_⟩
    rw [get_put, marks_verifyFirst]

theorem hit_none {table : BreakpointTable} {key : SourceKey} {client : Int}
    (h : table.hit key client = none) : client ∉ marks (table.get key) := by
  unfold BreakpointTable.hit at h
  split at h
  · rename_i hfind
    intro hmem
    obtain ⟨bp, hbp, hline⟩ := List.mem_map.1 hmem
    have := List.find?_eq_none.1 hfind bp hbp
    simp [hline] at this
  · cases h

/-- A hit of a client line: `bp` is the first breakpoint of the line, it is verified now, and all
other breakpoints are as they were. -/
structure Struck (table after : BreakpointTable) (key : SourceKey) (client : Int) (hit : Hit)
    (early : List Breakpoint) (bp : Breakpoint) (late : List Breakpoint) : Prop where
  listed : table.get key = early ++ bp :: late
  first : ∀ other ∈ early, other.line ≠ client
  here : bp.line = client
  id : hit.id = bp.id
  verifiedNow : hit.verifiedNow = if bp.verified then none else some { bp with verified := true }
  relisted : after.get key = early ++ { bp with verified := true } :: late
  elsewhere : ∀ other, other ≠ key → after.get other = table.get other
  nextId : after.nextId = table.nextId

theorem verifyFirst_append {client : Int} {early : List Breakpoint}
    (hearly : ∀ bp ∈ early, bp.line ≠ client) (rest : List Breakpoint) :
    verifyFirst client (early ++ rest) = early ++ verifyFirst client rest := by
  induction early with
  | nil => rfl
  | cons bp early ih =>
    have hrest := ih fun other hother => hearly other (List.mem_cons_of_mem _ hother)
    rw [List.cons_append, verifyFirst, if_neg (hearly bp (.head _)), hrest, List.cons_append]

/-- **Every hit strikes the first breakpoint of its line.** -/
theorem exists_struck {table after : BreakpointTable} {key : SourceKey} {client : Int} {hit : Hit}
    (h : table.hit key client = some (hit, after)) :
    ∃ early bp late, table.Struck after key client hit early bp late := by
  unfold BreakpointTable.hit at h
  split at h
  · cases h
  · rename_i bp hfind
    cases h
    obtain ⟨hline, early, late, hlist, hearly⟩ := List.find?_eq_some_iff_append.1 hfind
    have hhere : bp.line = client := by simpa using hline
    have hfirst : ∀ other ∈ early, other.line ≠ client := by simpa using hearly
    refine ⟨early, bp, late, hlist, hfirst, hhere, rfl, rfl, ?_, ?_, rfl⟩
    · rw [get_put, hlist, verifyFirst_append hfirst, verifyFirst, if_pos hhere]
    · intro other hother
      exact get_put_of_ne table hother _ _

end BreakpointTable

end Debug

end TabTools
