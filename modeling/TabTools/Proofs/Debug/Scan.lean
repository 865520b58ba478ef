import TabTools.Debug.Session
import TabTools.Proofs.Text

/-!
# Scanning

**Probing** (`probe_cases`). A line halts a step when it is not blank; it halts a continue when a
breakpoint is hit there, or else when it mentions an exception.

**Scanning** (`firstStop_of_filter_nil`, `firstStop_of_filter_cons`). A scan stops at the first of its
candidates that halts.

**Candidates** (`candidates_onLine`). Of the candidates with some property, the nearest comes first; the
others are those of a scan that starts from it. So repeated scans visit them one by one.
-/

namespace TabTools

theorem Source.lt_length_of_get? {source : Source} {line : Nat} {text : List Char}
    (h : source.get? line = some text) : line < source.length := by
  obtain ⟨hlt, -⟩ := List.getElem?_eq_some_iff.1 h
  exact hlt

namespace Debug

/-! ## Candidates -/

namespace Cursor

theorem filter_range'_onLine {P : Nat → Bool} {start count line : Nat} {more : List Nat}
    (h : (List.range' start count).filter P = line :: more) :
    line < start + count ∧
      (List.range' (line + 1) (start + count - (line + 1))).filter P = more := by
  induction count generalizing start with
  | zero => cases h
  | succ count ih =>
    rw [List.range'_succ, List.filter_cons] at h
    split at h
    · obtain ⟨rfl, rfl⟩ := List.cons_eq_cons.1 h
      exact ⟨by omega, by rw [show start + (count + 1) - (start + 1) = count by omega]⟩
    · obtain ⟨hlt, hmore⟩ := ih h
      exact ⟨by omega, by rwa [show start + (count + 1) = start + 1 + count by omega]⟩

theorem filter_range_reverse_onLine {P : Nat → Bool} {count line : Nat} {more : List Nat}
    (h : (List.range count).reverse.filter P = line :: more) :
    line < count ∧ (List.range line).reverse.filter P = more := by
  induction count with
  | zero => cases h
  | succ count ih =>
    rw [List.range_succ, List.reverse_append, List.reverse_singleton, List.singleton_append,
      List.filter_cons] at h
    split at h
    · obtain ⟨rfl, rfl⟩ := List.cons_eq_cons.1 h
      exact ⟨by omega, rfl⟩
    · obtain ⟨hlt, hmore⟩ := ih h
      exact ⟨by omega, hmore⟩

/-- **What is left beyond the nearest candidate.** -/
theorem candidates_onLine {cursor : Cursor} {direction : Direction} {length line : Nat}
    {P : Nat → Bool} {more : List Nat}
    (h : (cursor.candidates direction length).filter P = line :: more) :
    line < length ∧ ((onLine line).candidates direction length).filter P = more := by
  cases direction with
  | forward =>
    obtain ⟨start, hstart⟩ :
        ∃ start, cursor.candidates .forward length = List.range' start (length - start) := ⟨_, rfl⟩
    rw [hstart] at h
    obtain ⟨hlt, hmore⟩ := filter_range'_onLine h
    have hlength : start < length := by
      refine Nat.lt_of_not_le fun hle => ?_
      rw [Nat.sub_eq_zero_of_le hle] at h
      cases h
    rw [show start + (length - start) = length by omega] at hlt hmore
    exact ⟨hlt, hmore⟩
  | backward =>
    obtain ⟨hlt, hmore⟩ := filter_range_reverse_onLine h
    have hlength : line < length := by omega
    refine ⟨hlength, ?_⟩
    simpa [candidates, onLine, Nat.min_eq_left (Nat.le_of_lt hlength)] using hmore

/-- A line among those with some property has the others behind it and ahead of it. -/
theorem filter_range_split {P : Nat → Bool} {length line : Nat} (hline : line < length)
    (hP : P line = true) :
    (List.range length).filter P =
      (((onLine line).candidates .backward length).filter P).reverse ++
        line :: ((onLine line).candidates .forward length).filter P := by
  have hrange : List.range length =
      List.range line ++ line :: List.range' (line + 1) (length - (line + 1)) := by
    have happend : List.range' 0 line ++ List.range' (0 + line) (length - line) =
        List.range' 0 (line + (length - line)) := List.range'_append_1
    rw [Nat.zero_add, show line + (length - line) = length by omega,
      show length - line = length - (line + 1) + 1 by omega, List.range'_succ] at happend
    rw [List.range_eq_range', List.range_eq_range', happend]
  rw [hrange, List.filter_append, List.filter_cons, if_pos hP, ← List.filter_reverse]
  simp [candidates, onLine, Nat.min_eq_left (Nat.le_of_lt hline)]

end Cursor

namespace Session

/-! ## Probing -/

/-- How a line halts a scan. -/
inductive Probed (s : Session) (line : Nat) : Probe → Halt → BreakpointTable → Prop
  | step {text : List Char} (line_eq : s.source.get? line = some text)
      (visible : ∃ c ∈ text, Text.isBlank c = false) :
      Probed s line .steps .step s.breakpoints
  | breakpoint {text : List Char} {hit : Hit} {table : BreakpointTable}
      (line_eq : s.source.get? line = some text) (hits : s.hitAt line = some (hit, table)) :
      Probed s line .events (.breakpoint hit) table
  | exception {text : List Char} (line_eq : s.source.get? line = some text)
      (misses : s.hitAt line = none) (raises : exceptionMarker <:+: text) :
      Probed s line .events .exception s.breakpoints

variable {s : Session} {p : Probe} {line : Nat}

theorem probe_cases {halt : Halt} {table : BreakpointTable}
    (h : s.probe p line = some (halt, table)) : Probed s line p halt table := by
  unfold probe at h
  split at h
  · cases h
  · rename_i text htext
    cases p with
    | steps =>
      dsimp only at h
      split at h
      · cases h
      · rename_i hblank
        cases h
        refine .step htext ?_
        rw [List.isEmpty_iff, Text.trim_eq_nil_iff] at hblank
        simpa using hblank
    | events =>
      dsimp only at h
      split at h
      · rename_i hhit
        cases h
        exact .breakpoint htext hhit
      · rename_i hhit
        split at h
        · rename_i hmentions
          cases h
          exact .exception htext hhit ((Text.mentions_iff _ _).1 hmentions)
        · cases h

/-! ## Scanning -/

/-- Whether a scan halts at a line. -/
def haltsAt (s : Session) (p : Probe) (line : Nat) : Bool := (s.probe p line).isSome

theorem firstStop_of_filter_nil {lines : List Nat} (h : lines.filter (s.haltsAt p) = []) :
    s.firstStop p lines = none := by
  induction lines with
  | nil => rfl
  | cons line rest ih =>
    have hnone : s.probe p line = none := by
      simpa [haltsAt] using List.filter_eq_nil_iff.1 h line (.head _)
    have hrest : rest.filter (s.haltsAt p) = [] := by simpa [haltsAt, hnone] using h
    simp only [firstStop, hnone, ih hrest]

theorem firstStop_of_filter_cons {lines more : List Nat}
    (h : lines.filter (s.haltsAt p) = line :: more) :
    ∃ halt table, s.probe p line = some (halt, table) ∧
      s.firstStop p lines = some ⟨line, halt, table⟩ := by
  induction lines with
  | nil => cases h
  | cons first rest ih =>
    cases hprobe : s.probe p first with
    | none =>
      have hrest : rest.filter (s.haltsAt p) = line :: more := by
        simpa [haltsAt, hprobe] using h
      simpa only [firstStop, hprobe] using ih hrest
    | some found =>
      obtain ⟨halt, table⟩ := found
      obtain ⟨rfl, -⟩ : first = line ∧ rest.filter (s.haltsAt p) = more := by
        simpa [haltsAt, hprobe] using h
      exact ⟨halt, table, hprobe, by simp only [firstStop, hprobe]⟩

theorem probe_of_firstStop {lines : List Nat} {stop : Stop} (h : s.firstStop p lines = some stop) :
    s.probe p stop.line = some (stop.halt, stop.table) := by
  induction lines with
  | nil => cases h
  | cons line rest ih =>
    rw [firstStop] at h
    split at h
    · rename_i hprobe
      cases h
      exact hprobe
    · exact ih h

theorem probe_of_scan {direction : Direction} {stop : Stop} (h : s.scan direction p = some stop) :
    s.probe p stop.line = some (stop.halt, stop.table) :=
  probe_of_firstStop h

end Session

end Debug

end TabTools
