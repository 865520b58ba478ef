import Mathlib.Data.List.Flatten
import TabTools.Assembly.Listing
import TabTools.Proofs.Assembly.Word
import TabTools.Source

/-!
# Where tokens stand

**Theorem (`tokens_laid_out`).** Every token is a piece of one line of the text, and its text is
what stands there. The tokens come in source order, and between two tokens of one line there is at
least one character. So no position touches two tokens, although the position behind a token touches
it too, and looking a position up finds the token that it touches.

**Lines** (`scanWords_cases`). Each word of a line gives at most one token or diagnostic, which
stands inside the word. So the spans of what a line contributes (`LineScan.marks`) are apart as its
words are (`pairwise_marks_scanWords`), and those of a text are so because the numbers of its lines
ascend (`pairwise_marks`).
-/

namespace TabTools.Assembly

/-! ## Spans -/

namespace Span

/-- Source order of the places where spans start. -/
def StartsBefore (a b : Span) : Prop := a.line < b.line ∨ a.line = b.line ∧ a.start < b.start

/-- On one line `a` ends before `b` starts, with at least one character between them. -/
def Precedes (a b : Span) : Prop := a.line < b.line ∨ a.line = b.line ∧ a.stop < b.start

/-- A span of at least one character that lies in a word of a line. -/
structure Inside (number : Nat) (w : Word) (s : Span) : Prop where
  line_eq : s.line = number
  start_ge : w.column ≤ s.start
  start_lt : s.start < s.stop
  stop_le : s.stop ≤ w.stop

variable {a b : Span}

theorem Inside.precedes {number : Nat} {v w : Word} (ha : a.Inside number v)
    (hb : b.Inside number w) (h : v.stop < w.column) : a.Precedes b :=
  .inr ⟨ha.line_eq.trans hb.line_eq.symm,
    Nat.lt_of_le_of_lt ha.stop_le (Nat.lt_of_lt_of_le h hb.start_ge)⟩

theorem Precedes.startsBefore (h : a.Precedes b) (ha : a.start < a.stop) : a.StartsBefore b :=
  h.imp_right fun ⟨hline, hlt⟩ => ⟨hline, Nat.lt_trans ha hlt⟩

theorem touches_iff {s : Span} {line column : Nat} :
    s.touches line column = true ↔ s.line = line ∧ s.start ≤ column ∧ column ≤ s.stop := by
  simp [touches, and_assoc]

/-- The character between two spans keeps a position from touching both. -/
theorem Precedes.not_touches {line column : Nat} (h : a.Precedes b)
    (ha : a.touches line column = true) : b.touches line column = false := by
  rw [Bool.eq_false_iff]
  intro hb
  obtain ⟨haline, -, hastop⟩ := touches_iff.1 ha
  obtain ⟨hbline, hbstart, -⟩ := touches_iff.1 hb
  rcases h with h | ⟨-, h⟩ <;> omega

end Span

/-! ## Tokens of a line -/

variable {line : List Char} {number start : Nat} {w : Word} {ws : List Word}

/-- A token that is cut out of a word. -/
structure Token.CutFrom (number : Nat) (w : Word) (t : Token) : Prop where
  inside : t.span.Inside number w
  stop_eq : t.span.stop = t.span.start + t.text.toList.length
  stands : ∃ skipped, StandsAt t.text.toList skipped w.text ∧ t.span.start = w.column + skipped

theorem cutFrom_makeToken (number skipped : Nat) {piece : List Char}
    (hne : piece ≠ []) (h : StandsAt piece skipped w.text) (tag : TokenClass) :
    (makeToken number (w.column + skipped) piece tag).CutFrom number w where
  inside :=
    { line_eq := rfl
      start_ge := Nat.le_add_right _ _
      start_lt := Nat.lt_add_of_pos_right (List.length_pos_of_ne_nil hne)
      stop_le := by
        have := h.stop_le
        simp only [makeToken, Word.stop]
        omega }
  stop_eq := by simp [makeToken]
  stands := ⟨skipped, by simpa [makeToken] using h, rfl⟩

/-- The token of a whole word. -/
theorem cutFrom_word (number : Nat) (hne : w.text ≠ []) (tag : TokenClass) :
    (makeToken number w.column w.text tag).CutFrom number w :=
  cutFrom_makeToken number 0 hne ⟨[], [], by simp, rfl⟩ tag

theorem operandToken?_cutFrom {t : Token} (h : operandToken? number w = some t) :
    t.CutFrom number w := by
  unfold operandToken? at h
  split at h
  · cases h
  · obtain ⟨tag, htag, rfl⟩ := Option.map_eq_some_iff.1 h
    have hne : ∀ operand, operandClass operand = some tag → operand ≠ [] := by
      rintro _ hclass rfl
      cases hclass
    exact cutFrom_makeToken number _ (hne _ htag) (standsAt_takeWhile _ _ w.text) tag

/-- An instruction is named by its first word, and its operands stand in the others. -/
theorem mem_instructionTokens {t : Token} (h : t ∈ instructionTokens number ws) :
    (∃ name operands tag, ws = name :: operands ∧ t = makeToken number name.column name.text tag) ∨
      ∃ w ∈ ws.tail, operandToken? number w = some t := by
  cases ws with
  | nil => cases h
  | cons name operands =>
    rcases List.mem_cons.1 h with rfl | h
    · exact .inl ⟨name, operands, _, rfl, rfl⟩
    · exact .inr (List.mem_filterMap.1 h)

theorem cutFrom_of_mem_instructionTokens (hws : LaidOut line start ws) {t : Token}
    (h : t ∈ instructionTokens number ws) : ∃ w ∈ ws, t.CutFrom number w := by
  rcases mem_instructionTokens h with ⟨name, operands, tag, rfl, rfl⟩ | ⟨w, hw, h⟩
  · exact ⟨name, .head _, cutFrom_word number (hws.each name (.head _)).nonempty tag⟩
  · exact ⟨w, List.mem_of_mem_tail hw, operandToken?_cutFrom h⟩

/-- What stands inside a word precedes what is cut out of the words behind it. -/
theorem LaidOut.precedes (h : LaidOut line start (w :: ws)) {s : Span} (hs : s.Inside number w) :
    ∀ t ∈ instructionTokens number ws, s.Precedes t.span := by
  intro t ht
  obtain ⟨v, hv, hcut⟩ := cutFrom_of_mem_instructionTokens h.tail ht
  exact hs.precedes hcut.inside ((List.pairwise_cons.1 h.apart).1 v hv)

theorem pairwise_instructionTokens (number : Nat) (h : LaidOut line start ws) :
    (instructionTokens number ws).Pairwise fun a b => a.span.Precedes b.span := by
  cases ws with
  | nil => exact .nil
  | cons name operands =>
    obtain ⟨hname, hoperands⟩ := List.pairwise_cons.1 h.apart
    refine List.pairwise_cons.2 ⟨fun t ht => ?_, List.pairwise_filterMap.2 ?_⟩
    · obtain ⟨w, hw, ht⟩ := List.mem_filterMap.1 ht
      have hcut := cutFrom_word number (h.each name (.head _)).nonempty
        (if name.text.head? = some '.' then TokenClass.directive else .mnemonic)
      exact hcut.inside.precedes (operandToken?_cutFrom ht).inside (hname w hw)
    · refine hoperands.imp fun hvw t ht u hu => ?_
      exact (operandToken?_cutFrom ht).inside.precedes (operandToken?_cutFrom hu).inside hvw

/-! ## Scanned lines -/

theorem labelName?_eq_some_iff {name : List Char} :
    labelName? w = some name ↔ w.text = name ++ [':'] := by
  unfold labelName?
  split
  · rename_i hlast
    obtain ⟨front, hfront⟩ := List.getLast?_eq_some_iff.1 hlast
    simp [hfront]
  · rename_i hlast
    simp only [reduceCtorEq, false_iff]
    intro heq
    exact hlast (by simp [heq])

/-- What is wrong with a label whose name is no identifier. -/
def labelFault (name : List Char) : Fault :=
  if name.isEmpty then .namelessLabel else .invalidLabel (String.ofList name)

/-- The ways in which a line can go: it has no words, it starts with an instruction, or it starts
with a label, sound or faulty. -/
inductive Scanned (number : Nat) : List Word → LineScan → Prop
  | blank : Scanned number [] ⟨[], []⟩
  | instruction {first : Word} {rest : List Word} (unlabelled : labelName? first = none) :
      Scanned number (first :: rest) ⟨instructionTokens number (first :: rest), []⟩
  | label {first : Word} {rest : List Word} {name : List Char}
      (text_eq : first.text = name ++ [':']) (sound : isIdentifier name = true) :
      Scanned number (first :: rest)
        ⟨makeToken number first.column name .label :: instructionTokens number rest, []⟩
  | faulty {first : Word} {rest : List Word} {name : List Char}
      (text_eq : first.text = name ++ [':']) (bad : isIdentifier name = false) :
      Scanned number (first :: rest)
        ⟨instructionTokens number rest, [⟨⟨number, first.column, first.stop⟩, .error, labelFault name⟩]⟩

theorem scanWords_cases (number : Nat) (ws : List Word) :
    Scanned number ws (scanWords number ws) := by
  cases ws with
  | nil => exact .blank
  | cons first rest =>
    cases hlabel : labelName? first with
    | none =>
      simp only [scanWords, hlabel]
      exact .instruction hlabel
    | some name =>
      have htext := labelName?_eq_some_iff.1 hlabel
      cases hname : isIdentifier name with
      | true =>
        simp only [scanWords, hlabel, scanLabel, hname]
        exact .label htext hname
      | false =>
        simp only [scanWords, hlabel, scanLabel, hname]
        exact .faulty htext hname

/-- A label token is cut out of its word, before the colon. -/
theorem cutFrom_label (number : Nat) {name : List Char} (htext : w.text = name ++ [':'])
    (sound : isIdentifier name = true) :
    (makeToken number w.column name .label).CutFrom number w := by
  have hne : name ≠ [] := by
    rintro rfl
    cases sound
  exact cutFrom_makeToken number 0 hne ⟨[], [':'], by simpa using htext, rfl⟩ .label

theorem cutFrom_of_mem_scanWords (hws : LaidOut line start ws) {t : Token}
    (h : t ∈ (scanWords number ws).tokens) : ∃ w ∈ ws, t.CutFrom number w := by
  generalize hscan : scanWords number ws = scan at h
  cases hscan ▸ scanWords_cases number ws with
  | blank => cases h
  | instruction => exact cutFrom_of_mem_instructionTokens hws h
  | @label first rest name text_eq sound =>
    rcases List.mem_cons.1 h with rfl | h
    · exact ⟨first, .head _, cutFrom_label number text_eq sound⟩
    · obtain ⟨w, hw, hcut⟩ := cutFrom_of_mem_instructionTokens hws.tail h
      exact ⟨w, List.mem_cons_of_mem _ hw, hcut⟩
  | @faulty first rest name text_eq bad =>
    obtain ⟨w, hw, hcut⟩ := cutFrom_of_mem_instructionTokens hws.tail h
    exact ⟨w, List.mem_cons_of_mem _ hw, hcut⟩

/-- A faulty label is reported at its whole word. -/
theorem inside_faulty (number : Nat) {name : List Char} (htext : w.text = name ++ [':']) :
    Span.Inside number w ⟨number, w.column, w.stop⟩ :=
  ⟨rfl, Nat.le_refl _, by simp [Word.stop, htext], Nat.le_refl _⟩

/-- The places that a line says something about: that of its faulty label, then those of its
tokens. -/
def LineScan.marks (scan : LineScan) : List Span :=
  scan.diagnostics.map Diagnostic.span ++ scan.tokens.map Token.span

theorem inside_of_mem_marks (hws : LaidOut line start ws) {s : Span}
    (h : s ∈ (scanWords number ws).marks) : ∃ w, s.Inside number w := by
  rcases List.mem_append.1 h with h | h
  · obtain ⟨d, hd, rfl⟩ := List.mem_map.1 h
    generalize hscan : scanWords number ws = scan at hd
    cases hscan ▸ scanWords_cases number ws with
    | blank | instruction | label => cases hd
    | @faulty first rest name text_eq bad =>
      exact ⟨first, List.mem_singleton.1 hd ▸ inside_faulty number text_eq⟩
  · obtain ⟨t, ht, rfl⟩ := List.mem_map.1 h
    obtain ⟨w, -, hcut⟩ := cutFrom_of_mem_scanWords hws ht
    exact ⟨w, hcut.inside⟩

theorem pairwise_marks_scanWords (number : Nat) (h : LaidOut line start ws) :
    (scanWords number ws).marks.Pairwise Span.Precedes := by
  generalize hscan : scanWords number ws = scan
  cases hscan ▸ scanWords_cases number ws with
  | blank => exact .nil
  | instruction => exact List.pairwise_map.2 (pairwise_instructionTokens number h)
  | label text_eq sound =>
    have hfirst := h.precedes (cutFrom_label number text_eq sound).inside
    exact List.pairwise_map.2
      (List.pairwise_cons.2 ⟨hfirst, pairwise_instructionTokens number h.tail⟩)
  | faulty text_eq bad =>
    have hfirst := h.precedes (inside_faulty number text_eq)
    exact List.pairwise_cons.2 ⟨List.forall_mem_map.2 hfirst,
      List.pairwise_map.2 (pairwise_instructionTokens number h.tail)⟩

/-! ## Whole texts -/

variable {text : List Char}

theorem pairwise_zipIdx {α : Type} (xs : List α) :
    xs.zipIdx.Pairwise fun a b => a.2 < b.2 := by
  have hnumbers : (xs.zipIdx.map Prod.snd).Pairwise (· < ·) := by
    rw [List.zipIdx_map_snd]
    exact List.pairwise_lt_range'
  exact List.pairwise_map.1 hnumbers

theorem mem_scanLines_iff {scan : LineScan} :
    scan ∈ scanLines text ↔
      ∃ number line, (Source.ofText text).get? number = some line ∧
        scanLine number line = scan := by
  simp only [scanLines, List.mem_map, List.mem_zipIdx_iff_getElem?, Prod.exists]
  exact exists_comm

/-- **The places that a text says something about** ascend, with something between any two of one
line. -/
theorem pairwise_marks (text : List Char) :
    ((scanLines text).flatMap LineScan.marks).Pairwise Span.Precedes := by
  rw [List.pairwise_flatMap]
  constructor
  · intro scan hscan
    obtain ⟨number, line, -, rfl⟩ := mem_scanLines_iff.1 hscan
    exact pairwise_marks_scanWords number (laidOut_words line)
  · rw [scanLines, List.pairwise_map]
    refine (pairwise_zipIdx _).imp fun {a b} hlt s hs t ht => .inl ?_
    obtain ⟨v, hs⟩ := inside_of_mem_marks (laidOut_words a.1) hs
    obtain ⟨w, ht⟩ := inside_of_mem_marks (laidOut_words b.1) ht
    rw [hs.line_eq, ht.line_eq]
    exact hlt

/-- A token of a text is a piece of one of its lines. -/
structure Token.In (text : List Char) (t : Token) : Prop where
  start_lt : t.span.start < t.span.stop
  stop_eq : t.span.stop = t.span.start + t.text.toList.length
  stands : ∃ line, (Source.ofText text).get? t.span.line = some line ∧
    StandsAt t.text.toList t.span.start line

theorem token_in {t : Token} (h : t ∈ (assemble text).tokens) : t.In text := by
  obtain ⟨scan, hscan, ht⟩ := List.mem_flatMap.1 h
  obtain ⟨number, line, hline, rfl⟩ := mem_scanLines_iff.1 hscan
  obtain ⟨w, hw, hcut⟩ := cutFrom_of_mem_scanWords (laidOut_words line) ht
  obtain ⟨skipped, hstands, hstart⟩ := hcut.stands
  refine ⟨hcut.inside.start_lt, hcut.stop_eq, line, ?_, ?_⟩
  · rw [hcut.inside.line_eq, hline]
  · rw [hstart]
    exact hstands.trans ((laidOut_words line).each w hw).stands

/-- **The tokens of a text** ascend, with something between any two of one line. -/
theorem pairwise_tokens (text : List Char) :
    (assemble text).tokens.Pairwise fun a b => a.span.Precedes b.span := by
  have hsub : ((assemble text).tokens.map Token.span).Sublist
      ((scanLines text).flatMap LineScan.marks) := by
    show (((scanLines text).flatMap LineScan.tokens).map Token.span).Sublist _
    rw [List.map_flatMap]
    exact List.Sublist.flatMap_right _ fun scan _ => List.sublist_append_right _ _
  exact List.pairwise_map.1 ((pairwise_marks text).sublist hsub)

theorem startsBefore_tokens (text : List Char) :
    (assemble text).tokens.Pairwise fun a b => a.span.StartsBefore b.span :=
  (pairwise_tokens text).imp_of_mem fun ha _ hab => hab.startsBefore (token_in ha).start_lt

/-- **A position** touches one token at most, the one that looking it up finds. -/
theorem filter_touches {tokens : List Token} (line column : Nat)
    (h : tokens.Pairwise fun a b => a.span.Precedes b.span) :
    (tokens.filter fun t => t.span.touches line column) =
      (tokens.find? fun t => t.span.touches line column).toList := by
  induction tokens with
  | nil => rfl
  | cons t tokens ih =>
    obtain ⟨ht, htokens⟩ := List.pairwise_cons.1 h
    rw [List.filter_cons, List.find?_cons]
    cases htouches : t.span.touches line column with
    | false => exact ih htokens
    | true =>
      have hrest : ∀ u ∈ tokens, ¬u.span.touches line column = true := by
        intro u hu
        rw [(ht u hu).not_touches htouches]
        exact Bool.false_ne_true
      rw [if_pos rfl, List.filter_eq_nil_iff.2 hrest]
      rfl

theorem tokenAt_eq_some_iff {line column : Nat} {t : Token} :
    (assemble text).tokenAt line column = some t ↔
      t ∈ (assemble text).tokens ∧ t.span.touches line column = true := by
  rw [← List.mem_filter (p := fun t : Token => t.span.touches line column),
    filter_touches line column (pairwise_tokens text), Option.mem_toList]
  rfl

/-- **Tokens are laid out** along the lines of the text. -/
theorem tokens_laid_out (text : List Char) :
    let source := Source.ofText text
    let tokens := (assemble text).tokens
    (∀ t ∈ tokens, t.span.line < source.length ∧ t.span.start < t.span.stop ∧
      ∃ line, source.get? t.span.line = some line ∧ t.span.stop ≤ line.length ∧
        t.text.toList = line.extract t.span.start t.span.stop) ∧
    (tokens.Pairwise fun a b => a.span.StartsBefore b.span) ∧
    (tokens.Pairwise fun a b => a.span.line = b.span.line → a.span.stop < b.span.start) ∧
    ∀ line column,
      (tokens.filter fun t => t.span.touches line column).length ≤ 1 ∧
      ∀ t, (assemble text).tokenAt line column = some t ↔
        t ∈ tokens ∧ t.span.touches line column = true := by
  intro source tokens
  have hpairwise : tokens.Pairwise fun a b => a.span.Precedes b.span := pairwise_tokens text
  refine ⟨fun t ht => ?_, startsBefore_tokens text, ?_,
    fun line column => ⟨?_, fun t => tokenAt_eq_some_iff⟩⟩
  · obtain ⟨hlt, hstop, line, hline, hstands⟩ := token_in ht
    refine ⟨(List.getElem?_eq_some_iff.1 hline).1, hlt, line, hline, ?_, ?_⟩
    · rw [hstop]
      exact hstands.stop_le
    · rw [hstop, hstands.extract_eq]
  · refine hpairwise.imp fun hab hline => ?_
    rcases hab with hlt | ⟨-, hlt⟩
    · exact absurd hline (Nat.ne_of_lt hlt)
    · exact hlt
  · rw [filter_touches line column hpairwise]
    cases tokens.find? fun t => t.span.touches line column <;> simp

end TabTools.Assembly
