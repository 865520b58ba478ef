import TabTools.Proofs.Text.Pieces
import TabTools.Text.Lines

/-!
# Lines of longer texts

A line feed ends a line whatever comes before it (`lines_append_newline`). So the lines of a text are
those in front of any line feed and those behind it, and every line of a text is found between two
parts of it (`exists_lineAt`).
-/

namespace TabTools.Text

variable {text line rest : List Char}

theorem endLines_append (early : List (List Char)) {late : List (List Char)} (h : late ≠ []) :
    endLines (early ++ late) = early.map dropReturn ++ endLines late := by
  induction early with
  | nil => rfl
  | cons first early ih =>
    obtain ⟨second, more, hmore⟩ : ∃ second more, early ++ late = second :: more :=
      List.exists_cons_of_ne_nil (List.append_ne_nil_of_right_ne_nil early h)
    rw [hmore] at ih
    rw [List.cons_append, hmore, endLines, ih, List.map_cons, List.cons_append]

/-- **A line feed ends a line.** -/
theorem lines_append_newline (front rest : List Char) :
    lines (front ++ '\n' :: rest) =
      (pieces (· == '\n') front).map dropReturn ++ lines rest := by
  rw [lines, pieces_append_separator front rfl, endLines_append _ (pieces_ne_nil _ rest)]
  rfl

theorem pieces_of_newline_not_mem (h : '\n' ∉ line) : pieces (· == '\n') line = [line] :=
  pieces_of_forall_not fun _ hc => beq_eq_false_iff_ne.2 fun heq => h (heq ▸ hc)

/-- The first line of a text. -/
theorem lines_cons (h : '\n' ∉ line) (rest : List Char) :
    lines (line ++ '\n' :: rest) = dropReturn line :: lines rest := by
  rw [lines_append_newline, pieces_of_newline_not_mem h]
  rfl

/-- A text without a line feed is one line, unless it is empty. -/
theorem lines_of_newline_not_mem (h : '\n' ∉ line) (hne : line ≠ []) : lines line = [line] := by
  rw [lines, pieces_of_newline_not_mem h, endLines, if_neg (by simpa using hne)]

/-- A carriage return in front of the line feed goes with it. -/
theorem lines_cons_return (h : '\n' ∉ line) (rest : List Char) :
    lines (line ++ '\r' :: '\n' :: rest) = line :: lines rest := by
  have hreturn : '\n' ∉ line ++ ['\r'] := by simp [h]
  have hlines := lines_cons hreturn rest
  rwa [List.append_assoc, List.singleton_append, dropReturn, if_pos (by simp), List.dropLast_concat]
    at hlines

/-- What a line ends in, with all that comes after it. -/
inductive Ending : List Char → Prop
  | last : Ending []
  | feed (rest : List Char) : Ending ('\n' :: rest)
  | returnFeed (rest : List Char) : Ending ('\r' :: '\n' :: rest)

/-- Line `number` of a text stands between `before` and `after`, which starts with its ending. -/
structure LineAt (text : List Char) (number : Nat) (before line after : List Char) : Prop where
  text_eq : text = before ++ (line ++ after)
  number_eq : (lines before).length = number
  starts : before = [] ∨ ∃ front, before = front ++ ['\n']
  whole : '\n' ∉ line
  ends : Ending after

/-- A line starts behind a line feed, which ends all lines before it. -/
theorem lines_append {before : List Char} (h : before = [] ∨ ∃ front, before = front ++ ['\n'])
    (rest : List Char) : lines (before ++ rest) = lines before ++ lines rest := by
  rcases h with rfl | ⟨front, rfl⟩
  · rfl
  · rw [List.append_assoc, List.singleton_append, lines_append_newline, lines_append_newline]
    exact congrArg (· ++ lines rest) (List.append_nil _).symm

/-- **Every line of a text** stands between two parts of it. -/
theorem exists_lineAt {number : Nat} (h : (lines text)[number]? = some line) :
    ∃ before after, LineAt text number before line after := by
  induction number generalizing text with
  | zero =>
    by_cases hfeed : '\n' ∈ text
    · obtain ⟨first, rest, rfl, hfirst⟩ := List.eq_append_cons_of_mem hfeed
      rw [lines_cons hfirst] at h
      cases h
      unfold dropReturn
      split
      · rename_i hlast
        obtain ⟨front, rfl⟩ := List.getLast?_eq_some_iff.1 hlast
        rw [List.dropLast_concat]
        refine ⟨[], '\r' :: '\n' :: rest, by simp, rfl, .inl rfl, ?_, .returnFeed rest⟩
        exact fun hmem => hfirst (List.mem_append_left _ hmem)
      · exact ⟨[], '\n' :: rest, rfl, rfl, .inl rfl, hfirst, .feed rest⟩
    · have hne : text ≠ [] := by
        rintro rfl
        cases h
      rw [lines_of_newline_not_mem hfeed hne] at h
      cases h
      exact ⟨[], [], by simp, rfl, .inl rfl, hfeed, .last⟩
  | succ number ih =>
    by_cases hfeed : '\n' ∈ text
    · obtain ⟨first, rest, rfl, hfirst⟩ := List.eq_append_cons_of_mem hfeed
      rw [lines_cons hfirst, List.getElem?_cons_succ] at h
      obtain ⟨before, after, rfl, hnumber, hstarts, hwhole, hends⟩ := ih h
      refine ⟨first ++ '\n' :: before, after, by simp, ?_, .inr ?_, hwhole, hends⟩
      · rw [lines_cons hfirst, List.length_cons, hnumber]
      · rcases hstarts with rfl | ⟨front, rfl⟩
        · exact ⟨first, rfl⟩
        · exact ⟨first ++ '\n' :: front, by simp⟩
    · by_cases hne : text = []
      · rw [hne] at h
        cases h
      · rw [lines_of_newline_not_mem hfeed hne] at h
        cases h

end TabTools.Text
