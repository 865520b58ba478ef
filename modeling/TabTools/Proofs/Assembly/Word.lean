import Mathlib.Data.List.Infix
import TabTools.Assembly.Word

/-!
# Where words stand

**Theorem (`laidOut_words`).** The words of a line are pieces of it at their columns, from left to
right, and between two of them there is at least one character.

The invariant relates the word in progress to the characters read so far: it stands at their end
(`Word.Trails`). A word is closed by a separator, which belongs to no word, so the next word starts
at least one column after it.
-/

namespace TabTools.Assembly

/-! ## Pieces of a line -/

/-- `piece` stands in `text` with `start` characters before it. -/
def StandsAt (piece : List Char) (start : Nat) (text : List Char) : Prop :=
  ∃ before after, text = before ++ (piece ++ after) ∧ before.length = start

section StandsAt

variable {piece word line : List Char} {start column : Nat}

theorem StandsAt.trans (h : StandsAt piece start word) (hword : StandsAt word column line) :
    StandsAt piece (column + start) line := by
  obtain ⟨before, after, rfl, rfl⟩ := h
  obtain ⟨front, back, rfl, rfl⟩ := hword
  exact ⟨front ++ before, after ++ back, by simp, by simp⟩

theorem StandsAt.stop_le (h : StandsAt piece start line) : start + piece.length ≤ line.length := by
  obtain ⟨before, after, rfl, rfl⟩ := h
  simp only [List.length_append]
  omega

theorem StandsAt.extract_eq (h : StandsAt piece start line) :
    line.extract start (start + piece.length) = piece := by
  obtain ⟨before, after, rfl, rfl⟩ := h
  rw [List.extract, Nat.add_sub_cancel_left, List.drop_left, List.take_left]

/-- The characters with `q` that follow those with `p` at the front of a text. -/
theorem standsAt_takeWhile (p q : Char → Bool) (text : List Char) :
    StandsAt ((text.drop (text.takeWhile p).length).takeWhile q) (text.takeWhile p).length
      text := by
  refine ⟨text.takeWhile p, (text.drop (text.takeWhile p).length).dropWhile q, ?_, rfl⟩
  rw [List.takeWhile_append_dropWhile]
  exact List.prefix_append_drop (List.takeWhile_prefix p)

end StandsAt

/-! ## Words -/

namespace Word

/-- The column after the last character of a word. -/
def stop (w : Word) : Nat := w.column + w.text.length

/-- A word with at least one character that stands in the line at its column. -/
structure In (line : List Char) (w : Word) : Prop where
  nonempty : w.text ≠ []
  stands : StandsAt w.text w.column line

/-- The word in progress stands at the end of the characters read so far. -/
structure Trails (read : List Char) (w : Word) : Prop where
  nonempty : w.text ≠ []
  stands : ∃ front, read = front ++ w.text ∧ front.length = w.column

variable {read : List Char} {w : Word}

theorem Trails.in_append (h : w.Trails read) (rest : List Char) : w.In (read ++ rest) := by
  obtain ⟨hne, front, rfl, hfront⟩ := h
  exact ⟨hne, front, rest, List.append_assoc .., hfront⟩

theorem Trails.stop_eq (h : w.Trails read) : w.stop = read.length := by
  obtain ⟨-, front, rfl, hfront⟩ := h
  rw [stop, List.length_append, hfront]

theorem Trails.column_le (h : w.Trails read) : w.column ≤ read.length :=
  h.stop_eq ▸ Nat.le_add_right _ _

theorem trails_extend {open? : Option Word} (h : ∀ w ∈ open?, w.Trails read) (c : Char) :
    (extend read.length c open?).Trails (read ++ [c]) := by
  cases open? with
  | none => exact ⟨List.cons_ne_nil c [], read, rfl, rfl⟩
  | some w =>
    obtain ⟨-, front, rfl, hfront⟩ := h w rfl
    exact ⟨by simp [extend], front, by simp [extend], hfront⟩

end Word

/-- Words that stand in a line from left to right, none before column `start` and no two of them
next to each other. -/
structure LaidOut (line : List Char) (start : Nat) (ws : List Word) : Prop where
  each : ∀ w ∈ ws, w.In line
  beyond : ∀ w ∈ ws, start ≤ w.column
  apart : ws.Pairwise fun a b => a.stop < b.column

/-- Where the words to come start: with the word in progress, if there is one. -/
def nextColumn (read : List Char) (open? : Option Word) : Nat :=
  open?.elim read.length Word.column

/-- Growing moves no word. -/
theorem nextColumn_extend (read : List Char) (c : Char) (open? : Option Word) :
    nextColumn (read ++ [c]) (some (Word.extend read.length c open?)) = nextColumn read open? := by
  cases open? <;> rfl

theorem LaidOut.tail {line : List Char} {start : Nat} {w : Word} {ws : List Word}
    (h : LaidOut line start (w :: ws)) : LaidOut line start ws :=
  ⟨fun v hv => h.each v (List.mem_cons_of_mem _ hv),
    fun v hv => h.beyond v (List.mem_cons_of_mem _ hv), h.apart.of_cons⟩

theorem laidOut_open {read : List Char} {open? : Option Word} (h : ∀ w ∈ open?, w.Trails read)
    (rest : List Char) : LaidOut (read ++ rest) (nextColumn read open?) open?.toList := by
  cases open? with
  | none => exact ⟨by simp, by simp, .nil⟩
  | some w => exact ⟨by simpa using (h w rfl).in_append rest, by simp [nextColumn], by simp⟩

/-- **A closed word** and the words after the separator that closed it. -/
theorem LaidOut.append {read rest : List Char} {c : Char} {open? : Option Word} {ws : List Word}
    (h : ∀ w ∈ open?, w.Trails read) (hws : LaidOut (read ++ c :: rest) (read.length + 1) ws) :
    LaidOut (read ++ c :: rest) (nextColumn read open?) (open?.toList ++ ws) := by
  have hopen := laidOut_open h (c :: rest)
  have hstop : ∀ w ∈ open?.toList, w.stop = read.length := fun w hw =>
    (h w (Option.mem_toList.1 hw)).stop_eq
  refine ⟨?_, ?_, ?_⟩
  · exact List.forall_mem_append.2 ⟨hopen.each, hws.each⟩
  · refine List.forall_mem_append.2 ⟨hopen.beyond, fun w hw => ?_⟩
    have hfar := hws.beyond w hw
    cases open? with
    | none => exact Nat.le_trans (Nat.le_succ _) hfar
    | some first =>
      have := (h first rfl).stop_eq
      simp only [nextColumn, Option.elim_some, Word.stop] at this ⊢
      omega
  · refine List.pairwise_append.2 ⟨hopen.apart, hws.apart, fun a ha b hb => ?_⟩
    rw [hstop a ha]
    exact hws.beyond b hb

theorem laidOut_wordsFrom (quoted : Bool) (read rest : List Char) (open? : Option Word)
    (h : ∀ w ∈ open?, w.Trails read) :
    LaidOut (read ++ rest) (nextColumn read open?) (wordsFrom read.length quoted open? rest) := by
  induction rest generalizing read quoted open? with
  | nil => exact laidOut_open h []
  | cons c rest ih =>
    have hread : read ++ c :: rest = (read ++ [c]) ++ rest := by simp
    have hlength : (read ++ [c]).length = read.length + 1 := by simp
    unfold wordsFrom
    dsimp only
    split
    · exact laidOut_open h (c :: rest)
    · split
      · have hrest := ih (quotedAt quoted c) (read ++ [c]) none (by simp)
        rw [← hread, hlength] at hrest
        exact .append h (hlength ▸ hrest)
      · have hrest := ih (quotedAt quoted c) (read ++ [c]) (some (Word.extend read.length c open?))
          fun w hw => Option.mem_some.1 hw ▸ Word.trails_extend h c
        rwa [nextColumn_extend, ← hread, hlength] at hrest

/-- **The words of a line** stand in it from left to right, with something between them. -/
theorem laidOut_words (line : List Char) : LaidOut line 0 (words line) :=
  laidOut_wordsFrom false [] line none (by simp)

end TabTools.Assembly
