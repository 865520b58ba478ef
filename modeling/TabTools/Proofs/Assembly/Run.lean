import Mathlib.Algebra.Ring.Parity
import Mathlib.Data.List.Infix
import TabTools.Proofs.Assembly.Comment
import TabTools.Proofs.Assembly.Word
import TabTools.Text.Utf8

/-!
# Words as runs of characters

A character is quoted when the quotes up to it are odd in number, its own one counted. The code of a
line ends before its first unquoted semicolon, and an unquoted blank or comma separates.

**Theorem (`words_are_runs`).** The words of a line are the maximal runs of characters of its code
that do not separate, from left to right. With the separators between them they spell the code, and
every character of it that does not separate is in one word only.

**The scan** (`Scanning`). The scan knows the parity of the quotes behind it, and its word in progress
goes back to a separator or to the start of the line. So when the word ends it is a maximal run, and
no other run starts where it stands (`Scanning.mem_open_iff`).

**Bytes** (`slicedWords?_eq`). The words can be cut out of the bytes of the line, with only the place
where a word starts to remember: no offset falls inside a character.
-/

namespace TabTools.Assembly

variable {line text read rest : List Char} {c : Char} {quoted : Bool} {open? : Option Word}
  {v w : Word}

/-! ## Quoted characters, comments and separators -/

/-- The quotes up to a character, itself counted, are odd in number. -/
def QuotedAt (text : List Char) (i : Nat) : Prop := Odd ((text.take (i + 1)).count '"')

/-- An unquoted semicolon. -/
def CommentAt (text : List Char) (i : Nat) : Prop := text[i]? = some ';' ∧ ¬QuotedAt text i

/-- An unquoted blank or comma. -/
def SeparatorAt (text : List Char) (i : Nat) : Prop :=
  (∃ c ∈ text[i]?, Text.isBlank c = true ∨ c = ',') ∧ ¬QuotedAt text i

instance (text : List Char) (i : Nat) : Decidable (QuotedAt text i) :=
  inferInstanceAs (Decidable (Odd _))

instance (text : List Char) (i : Nat) : Decidable (CommentAt text i) :=
  inferInstanceAs (Decidable (_ ∧ _))

theorem quotedAfter_eq_true_iff (text : List Char) :
    quotedAfter false text = true ↔ Odd (text.count '"') := by
  rw [← Bool.not_eq_false, quotedAfter_eq_false_iff, ← Nat.not_even_iff_odd]
  simp

theorem quotedAfter_snoc (read : List Char) (c : Char) :
    quotedAfter false (read ++ [c]) = quotedAt (quotedAfter false read) c := by
  rw [quotedAfter, List.foldl_append]
  rfl

/-- At the next character of a scan, quoting is what the scan knows it to be. -/
theorem quotedAt_next_iff (read rest : List Char) (c : Char) :
    QuotedAt (read ++ c :: rest) read.length ↔ quotedAt (quotedAfter false read) c = true := by
  rw [QuotedAt, List.take_length_add_append, List.take_succ_cons, List.take_zero,
    ← quotedAfter_eq_true_iff, quotedAfter_snoc]

theorem commentAt_next_iff (read rest : List Char) (c : Char) :
    CommentAt (read ++ c :: rest) read.length ↔
      (!quotedAt (quotedAfter false read) c && startsComment c) = true := by
  rw [CommentAt, quotedAt_next_iff, List.getElem?_append_right (Nat.le_refl _), Nat.sub_self,
    List.getElem?_cons_zero, Option.some_inj]
  simp [startsComment, and_comm]

theorem separatorAt_next_iff (read rest : List Char) (c : Char) :
    SeparatorAt (read ++ c :: rest) read.length ↔
      (!quotedAt (quotedAfter false read) c && separates c) = true := by
  rw [SeparatorAt, quotedAt_next_iff, List.getElem?_append_right (Nat.le_refl _), Nat.sub_self,
    List.getElem?_cons_zero]
  simp [separates, and_comm]

/-! ## The code of a line -/

/-- The column of the first comment of a line. -/
def commentColumn? (line : List Char) : Option Nat :=
  (List.range line.length).find? fun i => CommentAt line i

/-- A line up to its first comment: all of it if it has none. -/
def codeOf (line : List Char) : List Char := line.take ((commentColumn? line).getD line.length)

theorem CommentAt.lt_length {i : Nat} (h : CommentAt line i) : i < line.length :=
  (List.getElem?_eq_some_iff.1 h.1).1

theorem commentColumn?_eq_some_iff {i : Nat} :
    commentColumn? line = some i ↔ CommentAt line i ∧ ∀ j < i, ¬CommentAt line j := by
  rw [commentColumn?, List.find?_range_eq_some]
  simp only [decide_eq_true_eq, List.mem_range, Bool.not_eq_true', decide_eq_false_iff_not]
  exact ⟨fun ⟨hi, _, hbefore⟩ => ⟨hi, hbefore⟩, fun ⟨hi, hbefore⟩ => ⟨hi, hi.lt_length, hbefore⟩⟩

/-- What has been read without a comment is code. -/
theorem prefix_codeOf (hline : line = read ++ rest)
    (hcode : ∀ i < read.length, ¬CommentAt line i) : read <+: codeOf line := by
  have hread : read <+: line := ⟨rest, hline.symm⟩
  refine List.prefix_take_iff.2 ⟨hread, ?_⟩
  cases hcolumn : commentColumn? line with
  | none => exact hread.length_le
  | some i =>
    obtain ⟨hi, -⟩ := commentColumn?_eq_some_iff.1 hcolumn
    exact Nat.le_of_not_lt fun hlt => hcode i hlt hi

/-- It is all the code if a comment starts there, or nothing is left. -/
theorem codeOf_eq (hline : line = read ++ rest) (hcode : ∀ i < read.length, ¬CommentAt line i)
    (hends : rest = [] ∨ CommentAt line read.length) : codeOf line = read := by
  refine ((prefix_codeOf hline hcode).eq_of_length_le ?_).symm
  rw [codeOf, List.length_take]
  rcases hends with rfl | hcomment
  · rw [hline, List.append_nil]
    exact Nat.min_le_right _ _
  · rw [commentColumn?_eq_some_iff.2 ⟨hcomment, hcode⟩]
    exact Nat.min_le_left _ _

/-! ## Runs -/

/-- Characters of the code of a line from one column to another, at least one, that do not
separate. -/
structure Unbroken (line : List Char) (start stop : Nat) : Prop where
  start_lt : start < stop
  stop_le : stop ≤ (codeOf line).length
  unseparated : ∀ i, start ≤ i → i < stop → ¬SeparatorAt line i

namespace Word

/-- The word holds the character at a column. -/
def Covers (w : Word) (i : Nat) : Prop := w.column ≤ i ∧ i < w.stop

/-- A word that stands in the code of a line, unbroken and as long as it can be in both
directions. -/
structure Run (line : List Char) (w : Word) : Prop where
  stands : StandsAt w.text w.column (codeOf line)
  unbroken : Unbroken line w.column w.stop
  maximal : ∀ start stop, start ≤ w.column → w.stop ≤ stop → Unbroken line start stop →
    start = w.column ∧ stop = w.stop

/-- **Runs do not overlap**: two with a character in common are the same. -/
theorem Run.eq_of_overlap {i : Nat} (hv : v.Run line) (hw : w.Run line) (hvi : v.Covers i)
    (hwi : w.Covers i) : v = w := by
  -- Both are all of what they make up together.
  have hunion : Unbroken line (min v.column w.column) (max v.stop w.stop) := by
    obtain ⟨hvcolumn, hvstop⟩ := hvi
    obtain ⟨hwcolumn, hwstop⟩ := hwi
    refine ⟨by omega, max_le hv.unbroken.stop_le hw.unbroken.stop_le, fun j hstart hstop => ?_⟩
    by_cases hj : v.column ≤ j ∧ j < v.stop
    · exact hv.unbroken.unseparated j hj.1 hj.2
    · exact hw.unbroken.unseparated j (by omega) (by omega)
  obtain ⟨hvcolumn, hvstop⟩ := hv.maximal _ _ (min_le_left _ _) (le_max_left _ _) hunion
  obtain ⟨hwcolumn, hwstop⟩ := hw.maximal _ _ (min_le_right _ _) (le_max_right _ _) hunion
  have hcolumn : v.column = w.column := hvcolumn.symm.trans hwcolumn
  have htext : v.text = w.text := by
    rw [← hv.stands.extract_eq, ← hw.stands.extract_eq]
    show (codeOf line).extract v.column v.stop = (codeOf line).extract w.column w.stop
    rw [hcolumn, ← hvstop, hwstop]
  exact congrArg₂ Word.mk hcolumn htext

end Word

/-- Words that are all the runs of a line that start at a column or beyond it, and that hold every
character there that does not separate. -/
structure RunsFrom (line : List Char) (start : Nat) (ws : List Word) : Prop where
  mem_iff : ∀ w, w ∈ ws ↔ w.Run line ∧ start ≤ w.column
  covered : ∀ i, start ≤ i → i < (codeOf line).length → ¬SeparatorAt line i →
    ∃ w ∈ ws, w.Covers i

/-! ## The scan -/

/-- What is known between the characters read and the rest of a line. No word is in progress behind a
separator, and none was started further back than behind one. -/
structure Scanning (line read rest : List Char) (quoted : Bool) (open? : Option Word) : Prop where
  line_eq : line = read ++ rest
  quoted_eq : quoted = quotedAfter false read
  uncommented : ∀ i < read.length, ¬CommentAt line i
  trails : ∀ w ∈ open?, w.Trails read
  unseparated : ∀ i, nextColumn read open? ≤ i → i < read.length → ¬SeparatorAt line i
  border : ∀ i, i + 1 = nextColumn read open? → SeparatorAt line i

namespace Scanning

theorem start (line : List Char) : Scanning line [] line false none where
  line_eq := rfl
  quoted_eq := rfl
  uncommented := by simp
  trails := by simp
  unseparated := by simp
  border := by simp [nextColumn]

/-- What a character that starts no comment leaves behind. -/
theorem uncommented_snoc (h : Scanning line read (c :: rest) quoted open?)
    (hcode : ¬CommentAt line read.length) :
    ∀ i < (read ++ [c]).length, ¬CommentAt line i := by
  intro i hi
  rw [List.length_append, List.length_singleton] at hi
  rcases Nat.lt_succ_iff_lt_or_eq.1 hi with hlt | rfl
  · exact h.uncommented i hlt
  · exact hcode

/-- Behind a separator no word is in progress. -/
theorem separated (h : Scanning line read (c :: rest) quoted open?)
    (hcode : ¬CommentAt line read.length) (hsep : SeparatorAt line read.length) :
    Scanning line (read ++ [c]) rest (quotedAt quoted c) none where
  line_eq := by rw [h.line_eq, List.append_assoc, List.singleton_append]
  quoted_eq := by rw [h.quoted_eq, quotedAfter_snoc]
  uncommented := h.uncommented_snoc hcode
  trails := by simp
  unseparated := fun i hi hlt => absurd hlt (Nat.not_lt.2 hi)
  border := fun i hi => by
    rw [nextColumn, Option.elim_none, List.length_append, List.length_singleton] at hi
    cases hi
    exact hsep

/-- Any other character belongs to a word. -/
theorem extended (h : Scanning line read (c :: rest) quoted open?)
    (hcode : ¬CommentAt line read.length) (hsep : ¬SeparatorAt line read.length) :
    Scanning line (read ++ [c]) rest (quotedAt quoted c)
      (some (Word.extend read.length c open?)) where
  line_eq := by rw [h.line_eq, List.append_assoc, List.singleton_append]
  quoted_eq := by rw [h.quoted_eq, quotedAfter_snoc]
  uncommented := h.uncommented_snoc hcode
  trails := fun w hw => Option.mem_some.1 hw ▸ Word.trails_extend h.trails c
  unseparated := fun i hi hlt => by
    rw [nextColumn_extend] at hi
    rw [List.length_append, List.length_singleton] at hlt
    rcases Nat.lt_succ_iff_lt_or_eq.1 hlt with hlt | rfl
    · exact h.unseparated i hi hlt
    · exact hsep
  border := nextColumn_extend read c open? ▸ h.border

/-- **A word that ends** with the code or before a separator is a run. -/
theorem run (h : Scanning line read rest quoted open?)
    (hends : (codeOf line).length = read.length ∨ SeparatorAt line read.length)
    (hw : w ∈ open?) : w.Run line := by
  have htrails := h.trails w hw
  have hstop := htrails.stop_eq
  have hcolumn : nextColumn read open? = w.column := by
    rw [Option.mem_def.1 hw]
    rfl
  obtain ⟨behind, hbehind⟩ := prefix_codeOf h.line_eq h.uncommented
  have hin : w.In (codeOf line) := hbehind ▸ htrails.in_append behind
  have hpos := List.length_pos_of_ne_nil hin.nonempty
  have hlt : w.column < w.stop := Nat.lt_add_of_pos_right hpos
  refine ⟨hin.stands, ⟨hlt, hin.stands.stop_le, fun i hi hlt => ?_⟩, ?_⟩
  · exact h.unseparated i (hcolumn ▸ hi) (hstop ▸ hlt)
  · intro start stop hstart hle hunbroken
    constructor
    · -- A run that starts earlier would go on over the separator before the word.
      by_contra hne
      have hlt : w.column - 1 < stop := by
        have := hunbroken.start_lt
        omega
      exact hunbroken.unseparated (w.column - 1) (by omega) hlt (h.border _ (by omega))
    · by_contra hne
      rcases hends with hlength | hsep
      · have := hunbroken.stop_le
        omega
      · exact hunbroken.unseparated read.length (by omega) (by omega) hsep

/-- **Where a word ends**, it is the only run that starts there since the last separator. -/
theorem mem_open_iff (h : Scanning line read rest quoted open?)
    (hends : (codeOf line).length = read.length ∨ SeparatorAt line read.length) (w : Word) :
    w ∈ open?.toList ↔
      w.Run line ∧ nextColumn read open? ≤ w.column ∧ w.column < read.length := by
  rw [Option.mem_toList]
  cases open? with
  | none =>
    simp only [nextColumn, Option.elim_none, reduceCtorEq, false_iff]
    omega
  | some v =>
    have hv : v.Run line := h.run hends rfl
    have hstop := (h.trails v rfl).stop_eq
    rw [Option.some_inj]
    constructor
    · rintro rfl
      exact ⟨hv, Nat.le_refl _, hstop ▸ hv.unbroken.start_lt⟩
    · rintro ⟨hw, hle, hlt⟩
      exact hv.eq_of_overlap hw ⟨hle, hstop ▸ hlt⟩ ⟨Nat.le_refl _, hw.unbroken.start_lt⟩

/-- What has been read since the last separator is in the word in progress. -/
theorem covered_open (h : Scanning line read rest quoted open?) {i : Nat}
    (hi : nextColumn read open? ≤ i) (hlt : i < read.length) : ∃ w ∈ open?.toList, w.Covers i := by
  cases open? with
  | none => exact absurd hlt (Nat.not_lt.2 hi)
  | some v => exact ⟨v, List.mem_singleton_self v, hi, (h.trails v rfl).stop_eq ▸ hlt⟩

/-- Where the code ends, the word in progress is the last one. -/
theorem runsFrom_open (h : Scanning line read rest quoted open?)
    (hlength : (codeOf line).length = read.length) :
    RunsFrom line (nextColumn read open?) open?.toList where
  mem_iff := fun w => by
    rw [h.mem_open_iff (.inl hlength)]
    refine and_congr_right fun hw => and_iff_left ?_
    rw [← hlength]
    exact Nat.lt_of_lt_of_le hw.unbroken.start_lt hw.unbroken.stop_le
  covered := fun i hi hlt _ => h.covered_open hi (hlength ▸ hlt)

/-- **A closed word** and the runs behind the separator that closed it. -/
theorem runsFrom_append (h : Scanning line read rest quoted open?)
    (hsep : SeparatorAt line read.length) {ws : List Word}
    (hws : RunsFrom line (read.length + 1) ws) :
    RunsFrom line (nextColumn read open?) (open?.toList ++ ws) where
  mem_iff := fun w => by
    rw [List.mem_append, h.mem_open_iff (.inr hsep), hws.mem_iff, ← and_or_left]
    have hnext : nextColumn read open? ≤ read.length := by
      cases open? with
      | none => exact Nat.le_refl _
      | some v => exact (h.trails v rfl).column_le
    refine and_congr_right fun hw => ⟨by omega, fun hle => ?_⟩
    -- A run does not start with a separator.
    have hne : w.column ≠ read.length := fun heq =>
      hw.unbroken.unseparated w.column (Nat.le_refl _) hw.unbroken.start_lt (heq ▸ hsep)
    omega
  covered := fun i hi hlt hi' => by
    rcases Nat.lt_trichotomy i read.length with hread | rfl | hbeyond
    · obtain ⟨w, hw, hcovers⟩ := h.covered_open hi hread
      exact ⟨w, List.mem_append_left _ hw, hcovers⟩
    · exact absurd hsep hi'
    · obtain ⟨w, hw, hcovers⟩ := hws.covered i hbeyond hlt hi'
      exact ⟨w, List.mem_append_right _ hw, hcovers⟩

/-- **The words of a scan** are the runs from the word in progress on. -/
theorem runsFrom_wordsFrom (h : Scanning line read rest quoted open?) :
    RunsFrom line (nextColumn read open?) (wordsFrom read.length quoted open? rest) := by
  induction rest generalizing read quoted open? with
  | nil => exact h.runsFrom_open (congrArg _ (codeOf_eq h.line_eq h.uncommented (.inl rfl)))
  | cons c rest ih =>
    have hcomment := commentAt_next_iff read rest c
    have hseparator := separatorAt_next_iff read rest c
    rw [← h.line_eq, ← h.quoted_eq] at hcomment hseparator
    have hlength : (read ++ [c]).length = read.length + 1 := by simp
    unfold wordsFrom
    dsimp only
    split
    · rename_i hc
      exact h.runsFrom_open (congrArg _ (codeOf_eq h.line_eq h.uncommented (.inr (hcomment.2 hc))))
    · rename_i hc
      have hcode := mt hcomment.1 hc
      split
      · rename_i hs
        have hrest := ih (h.separated hcode (hseparator.2 hs))
        rw [nextColumn, Option.elim_none, hlength] at hrest
        exact h.runsFrom_append (hseparator.2 hs) hrest
      · rename_i hs
        have hrest := ih (h.extended hcode (mt hseparator.1 hs))
        rwa [nextColumn_extend, hlength] at hrest

end Scanning

theorem runsFrom_words (line : List Char) : RunsFrom line 0 (words line) :=
  (Scanning.start line).runsFrom_wordsFrom

/-! ## Spelling the code -/

/-- Words with what stands before, between and behind them in a text, from a column on. -/
def spelling (text : List Char) (start : Nat) : List Word → List Char
  | [] => text.drop start
  | w :: ws => text.extract start w.column ++ (w.text ++ spelling text w.stop ws)

theorem LaidOut.spelling_eq {start : Nat} {ws : List Word} (h : LaidOut text start ws) :
    spelling text start ws = text.drop start := by
  induction ws generalizing start with
  | nil => rfl
  | cons w ws ih =>
    obtain ⟨hbehind, -⟩ := List.pairwise_cons.1 h.apart
    have htail : LaidOut text w.stop ws :=
      { h.tail with beyond := fun v hv => Nat.le_of_lt (hbehind v hv) }
    have hstart : start ≤ w.column := h.beyond w (.head _)
    obtain ⟨before, after, htext, hcolumn⟩ := (h.each w (.head _)).stands
    have hword : w.text ++ text.drop w.stop = text.drop w.column := by
      rw [htext, ← hcolumn, Word.stop, ← hcolumn, List.drop_left, List.drop_length_add_append,
        List.drop_left]
    calc spelling text start (w :: ws)
        = text.extract start w.column ++ (w.text ++ text.drop w.stop) := by rw [spelling, ih htail]
      _ = (text.drop start).take (w.column - start) ++ text.drop w.column := by rw [hword]
      _ = (text.drop start).take (w.column - start) ++ (text.drop start).drop (w.column - start) := by
        rw [List.drop_drop, Nat.add_sub_cancel' hstart]
      _ = text.drop start := List.take_append_drop _ _

/-- The words of a line stand in its code. -/
theorem laidOut_code (line : List Char) : LaidOut (codeOf line) 0 (words line) where
  each := fun w hw =>
    have hrun := (((runsFrom_words line).mem_iff w).1 hw).1
    ⟨fun hnil => by simpa [Word.stop, hnil] using hrun.unbroken.start_lt, hrun.stands⟩
  beyond := fun _ _ => Nat.zero_le _
  apart := (laidOut_words line).apart

/-! ## Words as slices of bytes -/

/-- The text between two offsets of the bytes of a text. They must be in order and in range, and
neither of them inside a character. -/
def slice? (bytes : List UInt8) (start stop : Nat) : Option (List Char) :=
  if start ≤ stop ∧ stop ≤ bytes.length ∧ (Text.decode? (bytes.take start)).isSome ∧
      (Text.decode? (bytes.take stop)).isSome then
    Text.decode? (bytes.extract start stop)
  else none

/-- Where a word starts: its column, and the offset of its first byte. -/
structure Mark where
  column : Nat
  offset : Nat

/-- The word from a mark up to an offset. -/
def Mark.word? (bytes : List UInt8) (stop : Nat) (mark : Mark) : Option Word :=
  (slice? bytes mark.offset stop).map (Word.mk mark.column)

/-- The words from a column on, as slices of the bytes of the line. Of the word in progress only its
start is known. There is no result if a slice fails. -/
def slicedFrom? (bytes : List UInt8) (column offset : Nat) (quoted : Bool) (start? : Option Mark) :
    List Char → Option (List Word)
  | [] => start?.toList.mapM (Mark.word? bytes bytes.length)
  | c :: rest =>
    let quoted := quotedAt quoted c
    if !quoted && (separates c || startsComment c) then
      (start?.toList.mapM (Mark.word? bytes offset)).bind fun closed =>
        if startsComment c then some closed
        else (slicedFrom? bytes (column + 1) (offset + c.utf8Size) quoted none rest).map (closed ++ ·)
    else
      slicedFrom? bytes (column + 1) (offset + c.utf8Size) quoted
        (start?.or (some ⟨column, offset⟩)) rest

def slicedWords? (line : List Char) : Option (List Word) :=
  slicedFrom? (Text.encode line) 0 0 false none line

theorem slice?_encode (front piece back : List Char) :
    slice? (Text.encode (front ++ (piece ++ back))) (Text.encode front).length
      (Text.encode (front ++ piece)).length = some piece := by
  have hbytes : Text.encode (front ++ (piece ++ back)) =
      Text.encode (front ++ piece) ++ Text.encode back := by
    rw [← Text.encode_append, List.append_assoc]
  have hfront : Text.encode (front ++ piece) = Text.encode front ++ Text.encode piece :=
    Text.encode_append front piece
  have hstart : (Text.encode (front ++ (piece ++ back))).take (Text.encode front).length =
      Text.encode front := by
    rw [Text.encode_append, List.take_left]
  have hstop : (Text.encode (front ++ (piece ++ back))).take (Text.encode (front ++ piece)).length =
      Text.encode (front ++ piece) := by
    rw [hbytes, List.take_left]
  have hextract : (Text.encode (front ++ (piece ++ back))).extract (Text.encode front).length
      (Text.encode (front ++ piece)).length = Text.encode piece := by
    rw [List.extract, hfront, List.length_append, Nat.add_sub_cancel_left, Text.encode_append,
      List.drop_left, Text.encode_append, List.take_left]
  rw [slice?, hstart, hstop, hextract, Text.decode?_encode, Text.decode?_encode, if_pos]
  · exact Text.decode?_encode piece
  · refine ⟨?_, ?_, rfl, rfl⟩
    · rw [hfront, List.length_append]
      exact Nat.le_add_right _ _
    · rw [hbytes, List.length_append]
      exact Nat.le_add_right _ _

/-- The mark of a word among the characters read. -/
def markIn (read : List Char) (w : Word) : Mark :=
  ⟨w.column, (Text.encode (read.take w.column)).length⟩

theorem word?_markIn (h : w.Trails read) (rest : List Char) :
    (markIn read w).word? (Text.encode (read ++ rest)) (Text.encode read).length = some w := by
  obtain ⟨-, front, rfl, hfront⟩ := h
  rw [Mark.word?, markIn, ← hfront, List.take_left, List.append_assoc, slice?_encode, hfront]
  rfl

/-- A word in progress can be sliced out where it ends. -/
theorem mapM_word?_open (h : ∀ w ∈ open?, w.Trails read) (rest : List Char) :
    (open?.map (markIn read)).toList.mapM
      (Mark.word? (Text.encode (read ++ rest)) (Text.encode read).length) = some open?.toList := by
  cases open? with
  | none => rfl
  | some w => simp [word?_markIn (h w rfl)]

/-- Its mark stays where it is when the word grows. -/
theorem map_markIn_extend (h : ∀ w ∈ open?, w.Trails read) (c : Char) :
    some (markIn (read ++ [c]) (Word.extend read.length c open?)) =
      (open?.map (markIn read)).or (some ⟨read.length, (Text.encode read).length⟩) := by
  cases open? with
  | none => simp [Word.extend, markIn]
  | some w =>
    simp [Word.extend, markIn, List.take_append_of_le_length (h w rfl).column_le]

theorem slicedFrom?_eq (quoted : Bool) (read rest : List Char) (open? : Option Word)
    (h : ∀ w ∈ open?, w.Trails read) :
    slicedFrom? (Text.encode (read ++ rest)) read.length (Text.encode read).length quoted
      (open?.map (markIn read)) rest = some (wordsFrom read.length quoted open? rest) := by
  induction rest generalizing read quoted open? with
  | nil =>
    have hopen := mapM_word?_open h []
    rw [List.append_nil] at hopen ⊢
    exact hopen
  | cons c rest ih =>
    have hread : read ++ c :: rest = (read ++ [c]) ++ rest := by simp
    have hlength : (read ++ [c]).length = read.length + 1 := by simp
    have hoffset : (Text.encode (read ++ [c])).length = (Text.encode read).length + c.utf8Size := by
      simp [Text.encode, String.length_utf8EncodeChar]
    have hopen := mapM_word?_open h (c :: rest)
    have hextend : ∀ w ∈ some (Word.extend read.length c open?), w.Trails (read ++ [c]) :=
      fun w hw => Option.mem_some.1 hw ▸ Word.trails_extend h c
    unfold slicedFrom? wordsFrom
    dsimp only
    cases hquoted : quotedAt quoted c with
    | true =>
      have hrest := ih true (read ++ [c]) _ hextend
      rw [Option.map_some, map_markIn_extend h, ← hread, hlength, hoffset] at hrest
      exact hrest
    | false =>
      cases hcomment : startsComment c with
      | true => simp [hopen]
      | false =>
        cases hsep : separates c with
        | true =>
          have hrest := ih false (read ++ [c]) none (by simp)
          rw [Option.map_none, ← hread, hlength, hoffset] at hrest
          simp [hopen, hrest]
        | false =>
          have hrest := ih false (read ++ [c]) _ hextend
          rw [Option.map_some, map_markIn_extend h, ← hread, hlength, hoffset] at hrest
          exact hrest

theorem slicedWords?_eq (line : List Char) : slicedWords? line = some (words line) :=
  slicedFrom?_eq false [] line none (by simp)

/-! ## The words of a line -/

/-- Words in the order of their columns are known by which they are. -/
theorem eq_of_ascending {vs ws : List Word} (hvs : vs.Pairwise fun a b => a.column < b.column)
    (hws : ws.Pairwise fun a b => a.column < b.column) (h : ∀ w, w ∈ vs ↔ w ∈ ws) : vs = ws := by
  have hnodup {us : List Word} (hus : us.Pairwise fun a b => a.column < b.column) : us.Nodup :=
    hus.imp fun hlt heq => Nat.ne_of_lt hlt (congrArg Word.column heq)
  exact List.Perm.eq_of_pairwise (fun a b _ _ hab hba => absurd hab (Nat.lt_asymm hba)) hvs hws
    ((List.perm_ext_iff_of_nodup (hnodup hvs) (hnodup hws)).2 h)

/-- **Words are runs.** The words of a line are the one list of all its maximal runs from left to
right, also when they are sliced out of its bytes. With what stands between them they spell the code.
A character of the code either separates and is in no word, or is in one word and no other. -/
theorem words_are_runs (line : List Char) :
    let code := codeOf line
    (∀ ws : List Word, ws = words line ↔
      (ws.Pairwise fun a b => a.column < b.column) ∧ ∀ w, w ∈ ws ↔ w.Run line) ∧
    slicedWords? line = some (words line) ∧
    spelling code 0 (words line) = code ∧
    ∀ i < code.length,
      SeparatorAt line i ∧ (∀ w ∈ words line, ¬w.Covers i) ∨
      ¬SeparatorAt line i ∧ ∃! w, w ∈ words line ∧ w.Covers i := by
  intro code
  have hruns := runsFrom_words line
  have hmem (w : Word) : w ∈ words line ↔ w.Run line := by simpa using hruns.mem_iff w
  have hascending : (words line).Pairwise fun a b => a.column < b.column :=
    (laidOut_words line).apart.imp fun hlt => Nat.lt_of_le_of_lt (Nat.le_add_right _ _) hlt
  refine ⟨fun ws => ⟨?_, fun ⟨hws, hall⟩ => ?_⟩, slicedWords?_eq line,
    (laidOut_code line).spelling_eq, fun i hi => ?_⟩
  · rintro rfl
    exact ⟨hascending, hmem⟩
  · exact eq_of_ascending hws hascending fun w => (hall w).trans (hmem w).symm
  · by_cases hsep : SeparatorAt line i
    · refine .inl ⟨hsep, fun w hw hcovers => ?_⟩
      exact ((hmem w).1 hw).unbroken.unseparated i hcovers.1 hcovers.2 hsep
    · obtain ⟨w, hw, hcovers⟩ := hruns.covered i (Nat.zero_le i) hi hsep
      refine .inr ⟨hsep, w, ⟨hw, hcovers⟩, fun v ⟨hv, hother⟩ => ?_⟩
      exact ((hmem v).1 hv).eq_of_overlap ((hmem w).1 hw) hother hcovers

/-- The semicolon in the string starts no comment, and the blank in it does not separate. -/
example :
    let line := "say \"a ;\"b,c ;d".toList
    codeOf line = "say \"a ;\"b,c ".toList ∧
      words line = [⟨0, "say".toList⟩, ⟨4, "\"a ;\"b".toList⟩, ⟨11, "c".toList⟩] := by
  decide

end TabTools.Assembly
