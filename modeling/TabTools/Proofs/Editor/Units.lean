import TabTools.Proofs.Editor.Names
import TabTools.Proofs.Text.Utf16

/-!
# Units of positions

The characters of positions are those of the line, in both directions: ranges are the columns of
spans, and the token at a position is looked up in its column. Editors may count units of UTF-16
instead.

**Theorem (`units_agree_iff`).** Read in units, the range of a token delimits its text exactly when
no character up to its end is a pair, and a position in its text answers for it exactly when it is
not beyond the column of its end. So all positions in the text answer for it if there is one pair at
most, and not if there are more (`symbol_behind_pairs`).

A range delimits a text when its ends are the columns of the text in units; what stands between them
in the encoding of the line is then the encoding of the text.
-/

namespace TabTools.Editor

open Assembly Text

variable {text line : List Char} {t : Token} {character : Nat}

/-- The range of the characters from `start` to `stop` of a line, in units. -/
def Range.inUnits (number : Nat) (line : List Char) (start stop : Nat) : Range :=
  ⟨⟨number, column16 line start⟩, ⟨number, column16 line stop⟩⟩

theorem ofSpan_eq_inUnits_iff (htext : Addressable text) (ht : t ∈ (assemble text).tokens)
    (hstop : t.span.stop ≤ line.length) :
    Range.ofSpan t.span = .inUnits t.span.line line t.span.start t.span.stop ↔
      ∀ c ∈ line.take t.span.stop, isPaired c = false := by
  have hlt := (token_in ht).start_lt
  have hpairs := pairs_take_le line (Nat.le_of_lt hlt)
  rw [ofSpan_eq htext ht, Range.inUnits, column16_eq hstop, column16_eq (by omega),
    ← pairs_eq_zero_iff]
  simp only [Range.mk.injEq, Position.mk.injEq, true_and]
  omega

namespace Document

/-- What is said at a position is what is said about a token. -/
structure AnswersFor (text : List Char) (position : Position) (t : Token) : Prop where
  hover : (ofText text).hover position =
    ((ofText text).tokenText t).map fun shown => ⟨shown, .ofSpan t.span⟩
  definition : (ofText text).definition position =
    (t.symbolName.bind (assemble text).definitionOf).map fun label => .ofSpan label.span

theorem answersFor {position : Position} (h : (ofText text).tokenAt position = some t) :
    AnswersFor text position t :=
  ⟨hover_eq h, definition_eq h⟩

/-- A position behind the start of a token finds it up to the column of its end. -/
theorem tokenAt_eq_some_iff_le (ht : t ∈ (assemble text).tokens) (hstop : t.span.stop ≤ line.length)
    (h : column16 line t.span.start ≤ character) :
    (ofText text).tokenAt ⟨t.span.line, character⟩ = some t ↔ character ≤ t.span.stop := by
  have hlt := (token_in ht).start_lt
  rw [column16_eq (by omega)] at h
  rw [tokenAt, ofText, tokenAt_eq_some_iff, Span.touches_iff]
  have hge : t.span.start ≤ character := Nat.le_trans (Nat.le_add_right _ _) h
  exact ⟨fun ⟨_, _, _, hle⟩ => hle, fun hle => ⟨ht, rfl, hge, hle⟩⟩

/-- **All positions in a token** find it when there is one pair at most. -/
theorem forall_tokenAt_iff (ht : t ∈ (assemble text).tokens) (hstop : t.span.stop ≤ line.length) :
    (∀ character, column16 line t.span.start ≤ character → character < column16 line t.span.stop →
        (ofText text).tokenAt ⟨t.span.line, character⟩ = some t) ↔
      pairs (line.take t.span.stop) ≤ 1 := by
  have hlt := (token_in ht).start_lt
  have hpairs := pairs_take_le line (Nat.le_of_lt hlt)
  have hfrom : column16 line t.span.start = _ := column16_eq (by omega)
  have hto := column16_eq hstop
  constructor
  · intro h
    -- The last position in the text is the one that is furthest off.
    have hlast := h (column16 line t.span.stop - 1) (by omega) (by omega)
    have := (tokenAt_eq_some_iff_le ht hstop (by omega)).1 hlast
    omega
  · intro h character hge hless
    exact (tokenAt_eq_some_iff_le ht hstop hge).2 (by omega)

/-- **Units agree with characters** as far as there are no pairs. Every token is a piece of its line
in units as in characters, and its range are its characters. In units the range delimits the token
exactly when no character up to the end of the token is a pair. A position in the text of the token,
counted in units, finds the token exactly when it is not beyond the characters of the token; so all
of them do exactly when there is one pair at most. What is said at a position that finds a token is
what is said about the token. -/
theorem units_agree_iff (htext : Addressable text) (ht : t ∈ (assemble text).tokens) :
    ∃ line, (Source.ofText text).get? t.span.line = some line ∧
      line.extract t.span.start t.span.stop = t.text.toList ∧
      (encode16 line).extract (column16 line t.span.start) (column16 line t.span.stop) =
        encode16 t.text.toList ∧
      Range.ofSpan t.span = ⟨⟨t.span.line, t.span.start⟩, ⟨t.span.line, t.span.stop⟩⟩ ∧
      (Range.ofSpan t.span = .inUnits t.span.line line t.span.start t.span.stop ↔
        ∀ c ∈ line.take t.span.stop, isPaired c = false) ∧
      (∀ character, column16 line t.span.start ≤ character →
        character ≤ column16 line t.span.stop →
        ((ofText text).tokenAt ⟨t.span.line, character⟩ = some t ↔ character ≤ t.span.stop)) ∧
      ((∀ character, column16 line t.span.start ≤ character →
          character < column16 line t.span.stop →
          (ofText text).tokenAt ⟨t.span.line, character⟩ = some t) ↔
        pairs (line.take t.span.stop) ≤ 1) ∧
      ∀ position, (ofText text).tokenAt position = some t → AnswersFor text position t := by
  obtain ⟨hlt, hend, line, hline, hstands⟩ := token_in ht
  have hstop : t.span.stop ≤ line.length := hend ▸ hstands.stop_le
  have hextract : line.extract t.span.start t.span.stop = t.text.toList := by
    rw [hend, hstands.extract_eq]
  refine ⟨line, hline, hextract, ?_, ofSpan_eq htext ht, ofSpan_eq_inUnits_iff htext ht hstop,
    fun character hge _ => tokenAt_eq_some_iff_le ht hstop hge, forall_tokenAt_iff ht hstop,
    fun position h => answersFor h⟩
  rw [extract_encode16 line (Nat.le_of_lt hlt), hextract]

/-- One pair stands before the symbol. Its range is not that of its units, but the position of its
first unit finds it. -/
theorem symbol_behind_pair :
    let text := "s: .db \"é😀\" s".toList
    let symbol : Token := ⟨⟨0, 12, 13⟩, "s", .symbol⟩
    Addressable text ∧ symbol ∈ (assemble text).tokens ∧
      Range.ofSpan symbol.span ≠ .inUnits 0 text 12 13 ∧
      (ofText text).tokenAt ⟨0, column16 text 12⟩ = some symbol := by
  intro text symbol
  have htext : Addressable text := ⟨by decide +kernel, by decide +kernel⟩
  have hsymbol : symbol ∈ (assemble text).tokens := by decide +kernel
  obtain ⟨line, hline, -, -, -, hrange, -, hall, -⟩ := units_agree_iff htext hsymbol
  have hwhole : (Source.ofText text).get? 0 = some text := by decide +kernel
  cases hwhole.symm.trans hline
  refine ⟨htext, hsymbol, fun h => ?_, ?_⟩
  · have hsingle := hrange.1 h '😀' (by decide +kernel)
    cases hsingle
  · exact hall.2 (by decide +kernel) _ (Nat.le_refl _) (by decide +kernel)

/-- Two pairs stand before the symbol. Its range is not that of its units, and at the position of its
only unit nothing is said, though the symbol is defined. -/
theorem symbol_behind_pairs :
    let text := "b: .db \"😀😀\" b".toList
    let symbol : Token := ⟨⟨0, 12, 13⟩, "b", .symbol⟩
    Addressable text ∧ symbol ∈ (assemble text).tokens ∧
      (Source.ofText text).get? 0 = some text ∧
      text.extract 12 13 = symbol.text.toList ∧
      Range.inUnits 0 text 12 13 = ⟨⟨0, 14⟩, ⟨0, 15⟩⟩ ∧
      Range.ofSpan symbol.span = ⟨⟨0, 12⟩, ⟨0, 13⟩⟩ ∧
      (ofText text).hover ⟨0, 14⟩ = none ∧ (ofText text).definition ⟨0, 14⟩ = none ∧
      ((ofText text).definition ⟨0, 12⟩).isSome = true ∧ ¬AnswersFor text ⟨0, 14⟩ symbol := by
  intro text symbol
  have hnone : (ofText text).hover ⟨0, 14⟩ = none := by decide +kernel
  have hshown : (ofText text).tokenText symbol ≠ none := by decide +kernel
  refine ⟨⟨by decide +kernel, by decide +kernel⟩, by decide +kernel, by decide +kernel,
    by decide +kernel, by decide +kernel, by decide +kernel, hnone, by decide +kernel,
    by decide +kernel, fun h => ?_⟩
  have hanswer := h.hover
  rw [hnone] at hanswer
  exact hshown (Option.map_eq_none_iff.1 hanswer.symm)

end Document

end TabTools.Editor
