import Mathlib.Algebra.Group.Nat.Even
import Mathlib.Data.List.Basic
import TabTools.Assembly.Listing
import TabTools.Proofs.Text.Lines
import TabTools.Source

/-!
# Comments

**Theorem (`comments_transparent`).** A comment at the end of a line changes nothing in the listing
of the text, unless it comes into a string that the line leaves open.

**Words.** Quoting is on behind an odd number of quotes (`quotedAfter_eq_false_iff`), and a semicolon
where it is off ends the words of a line, whatever stands behind it (`words_comment`). So a comment
adds no word, and neither does one behind another one.

**Texts.** The listing depends on the lines only through their words (`assemble_congr`). Adding a
comment leaves the lines before and after as they are, with any of the endings that a line can have.
-/

namespace TabTools.Assembly

variable {text line code comment after : List Char}

/-! ## Words before a comment -/

/-- Whether quoting is on behind a text, given whether it was on before. -/
def quotedAfter (quoted : Bool) (text : List Char) : Bool :=
  text.foldl quotedAt quoted

theorem quotedAfter_eq_false_iff (quoted : Bool) (text : List Char) :
    quotedAfter quoted text = false ↔ (Even (text.count '"') ↔ quoted = false) := by
  induction text generalizing quoted with
  | nil => simp [quotedAfter]
  | cons c rest ih =>
    have hstep : quotedAfter quoted (c :: rest) = quotedAfter (quotedAt quoted c) rest := rfl
    rw [hstep, ih]
    by_cases hc : c = '"'
    · subst hc
      rw [List.count_cons_self, Nat.even_add_one]
      cases quoted <;> simp [quotedAt]
    · rw [List.count_cons_of_ne hc, quotedAt, if_neg hc]

/-- **A comment ends the words**, whatever it says. -/
theorem wordsFrom_comment {quoted : Bool} (h : quotedAfter quoted code = false) (column : Nat)
    (open? : Option Word) (comment : List Char) :
    wordsFrom column quoted open? (code ++ ';' :: comment) = wordsFrom column quoted open? code := by
  induction code generalizing column quoted open? with
  | nil =>
    obtain rfl : quoted = false := h
    rfl
  | cons c rest ih =>
    have hrest : quotedAfter (quotedAt quoted c) rest = false := h
    simp only [List.cons_append, wordsFrom, ih hrest]

theorem words_comment (h : Even (code.count '"')) (comment : List Char) :
    words (code ++ ';' :: comment) = words code :=
  wordsFrom_comment ((quotedAfter_eq_false_iff false code).2 (by simpa using h)) 0 none comment

/-- A line that leaves no string open: it has a comment, or it closes all its quotes. -/
def Closed (line : List Char) : Prop :=
  (∃ code remark, line = code ++ ';' :: remark ∧ Even (code.count '"')) ∨ Even (line.count '"')

theorem Closed.words_eq (h : Closed line) (comment : List Char) :
    words (line ++ ';' :: comment) = words line := by
  rcases h with ⟨code, remark, rfl, hcode⟩ | hline
  · -- The comment that the line has goes on.
    rw [List.append_assoc, List.cons_append, words_comment hcode, words_comment hcode]
  · exact words_comment hline comment

/-! ## Texts with the same words -/

theorem scanLines_congr {other : List Char}
    (h : (Text.lines text).map words = (Text.lines other).map words) :
    scanLines text = scanLines other := by
  have hscan (t : List Char) :
      scanLines t = ((Text.lines t).map words).zipIdx.map fun entry => scanWords entry.2 entry.1 := by
    rw [List.zipIdx_map, List.map_map]
    rfl
  rw [hscan, hscan, h]

/-- A listing is made of the words of the lines. -/
theorem assemble_congr {other : List Char}
    (h : (Text.lines text).map words = (Text.lines other).map words) :
    assemble text = assemble other := by
  rw [assemble, assemble, scanLines_congr h]

theorem dropReturn_comment (line comment : List Char) :
    Text.dropReturn (line ++ ';' :: comment) = line ++ ';' :: Text.dropReturn comment := by
  unfold Text.dropReturn
  cases comment with
  | nil => simp
  | cons c rest =>
    rw [List.getLast?_append_cons, List.getLast?_cons_cons]
    split
    · rw [List.dropLast_append_of_ne_nil (List.cons_ne_nil _ _),
        List.dropLast_cons_of_ne_nil (List.cons_ne_nil _ _)]
    · rfl

/-- **A comment at the end of a line** adds no words to it and leaves the lines after it alone. -/
theorem map_words_comment (closed : Closed line) (hwhole : '\n' ∉ line) (hcomment : '\n' ∉ comment)
    (ending : Text.Ending after) (hline : (Text.lines (line ++ after)).head? = some line) :
    (Text.lines (line ++ ';' :: comment ++ after)).map words =
      (Text.lines (line ++ after)).map words := by
  have hnew : '\n' ∉ line ++ ';' :: comment := by simp [hwhole, hcomment]
  cases ending with
  | last =>
    rw [List.append_nil] at hline ⊢
    have hne : line ≠ [] := by
      rintro rfl
      cases hline
    rw [List.append_nil, Text.lines_of_newline_not_mem hnew (by simp),
      Text.lines_of_newline_not_mem hwhole hne, List.map_singleton, closed.words_eq]
    rfl
  | feed rest =>
    rw [Text.lines_cons hwhole, List.head?_cons, Option.some_inj] at hline
    rw [Text.lines_cons hnew, Text.lines_cons hwhole, List.map_cons, List.map_cons,
      dropReturn_comment, closed.words_eq, hline]
  | returnFeed rest =>
    rw [Text.lines_cons_return hnew, Text.lines_cons_return hwhole, List.map_cons, List.map_cons,
      closed.words_eq]

/-- **Comments are transparent.** Every line of a text stands somewhere in it. If the line leaves no
string open, then any comment can be added to it there, with quotes, colons and semicolons as it
likes: the listing is the same, with its tokens and their places, its diagnostics and the definitions
that it finds. -/
theorem comments_transparent {number : Nat}
    (hline : (Source.ofText text).get? number = some line) (closed : Closed line)
    (hcomment : '\n' ∉ comment) :
    (∃ before after, Text.LineAt text number before line after) ∧
    ∀ before after, Text.LineAt text number before line after →
      assemble (before ++ (line ++ ';' :: comment ++ after)) = assemble text := by
  refine ⟨Text.exists_lineAt hline, ?_⟩
  rintro before after ⟨rfl, rfl, hstarts, hwhole, hends⟩
  apply assemble_congr
  rw [Text.lines_append hstarts, Text.lines_append hstarts, List.map_append, List.map_append]
  -- The line is the first one of what follows the lines before it.
  have hhead : (Text.lines (line ++ after)).head? = some line := by
    have hget : (Text.lines (before ++ (line ++ after)))[(Text.lines before).length]? = some line :=
      hline
    rwa [Text.lines_append hstarts, List.getElem?_append_right (Nat.le_refl _), Nat.sub_self,
      ← List.head?_eq_getElem?] at hget
  exact congrArg _ (map_words_comment closed hwhole hcomment hends hhead)

/-- The second line ends in `\r\n` and has a comment, behind a string with a semicolon in it. -/
theorem comment_behind_comment :
    let front := "loop: lda #1\n".toList
    let line := "  .text \"a;b\" loop; say \"hi".toList
    let comment := "\"; x: nop".toList
    let back := "\r\n jmp end".toList
    Closed line ∧ '\n' ∉ comment ∧
      (Source.ofText (front ++ (line ++ back))).get? 1 = some line ∧
      assemble (front ++ (line ++ ';' :: comment ++ back)) = assemble (front ++ (line ++ back)) := by
  intro front line comment back
  have hclosed : Closed line :=
    .inl ⟨"  .text \"a;b\" loop".toList, " say \"hi".toList, by decide, by decide⟩
  have hcomment : '\n' ∉ comment := by decide
  have hline : (Source.ofText (front ++ (line ++ back))).get? 1 = some line := by decide
  have hat : Text.LineAt (front ++ (line ++ back)) 1 front line back :=
    ⟨rfl, by decide, .inr ⟨"loop: lda #1".toList, by decide⟩, by decide, .returnFeed _⟩
  exact ⟨hclosed, hcomment, hline,
    (comments_transparent hline hclosed hcomment).2 front back hat⟩

end TabTools.Assembly
