import TabTools.Editor.Document
import TabTools.Proofs.Assembly.Definition

/-!
# Names in an editor

Three features say something about the name at a position: going to its definition, hovering over
it, and the diagnostics of its document.

**Theorem (`names_agree`).** A name has a definition to go to exactly when it is a label, or a
symbol that is not reported as undefined, and exactly then there is something to show for it. The
definition is the first label of the name, and what is shown quotes the line of that label, which is
a line of the document.

The numbers of ranges are 32-bit words. In a document with fewer lines and columns than there are
such words, they are the numbers of the span (`ofSpan_eq`).
-/

namespace TabTools.Editor

open Assembly

variable {text : List Char} {t : Token}

/-- Texts whose lines and columns can be numbered with 32-bit words. -/
structure Addressable (text : List Char) : Prop where
  lines : (Source.ofText text).length < 0x100000000
  columns : ∀ line ∈ (Source.ofText text).lines, line.length < 0x100000000

theorem ofSpan_eq (htext : Addressable text) (ht : t ∈ (assemble text).tokens) :
    Range.ofSpan t.span = ⟨⟨t.span.line, t.span.start⟩, ⟨t.span.line, t.span.stop⟩⟩ := by
  obtain ⟨hlt, hstop, line, hline, hstands⟩ := token_in ht
  have hlines := htext.lines
  have hnumber : t.span.line < (Source.ofText text).length := (List.getElem?_eq_some_iff.1 hline).1
  have hcolumns := htext.columns line (List.mem_of_getElem? hline)
  have hend : t.span.stop ≤ line.length := hstop ▸ hstands.stop_le
  have hword : ∀ n, n < 0x100000000 → word n = n := fun n hn => Nat.mod_eq_of_lt hn
  rw [Range.ofSpan, hword t.span.line (by omega), hword t.span.start (by omega),
    hword t.span.stop (by omega)]

namespace Document

variable {position : Position}

/-- The tokens that are names. -/
def IsName (t : Token) : Prop := t.tag = .label ∨ t.tag = .symbol

theorem symbolName_of_isName (h : IsName t) : t.symbolName = some t.text := by
  rcases h with h | h <;> simp [Token.symbolName, h]

theorem symbolName_of_not_isName (h : ¬IsName t) : t.symbolName = none := by
  unfold Token.symbolName
  split
  · exact absurd (.inl ‹_›) h
  · exact absurd (.inr ‹_›) h
  · rfl

theorem definition_eq (h : (ofText text).tokenAt position = some t) :
    (ofText text).definition position =
      (t.symbolName.bind (assemble text).definitionOf).map fun label => .ofSpan label.span := by
  rw [definition, definitionAt, h]
  rfl

theorem hover_eq (h : (ofText text).tokenAt position = some t) :
    (ofText text).hover position =
      ((ofText text).tokenText t).map fun shown => ⟨shown, .ofSpan t.span⟩ := by
  rw [hover, h]
  show ((ofText text).tokenText t).bind _ = _
  cases (ofText text).tokenText t <;> rfl

/-- What is shown for a name is shown with its definition. -/
theorem hover_of_isName (h : (ofText text).tokenAt position = some t) (hname : IsName t) :
    (ofText text).hover position = ((assemble text).definitionOf t.text).map fun label =>
      ⟨(ofText text).nameText t label, .ofSpan t.span⟩ := by
  have hshown : (ofText text).tokenText t =
      ((assemble text).definitionOf t.text).map ((ofText text).nameText t) := by
    rcases hname with htag | htag
    · rw [tokenText, htag]; rfl
    · rw [tokenText, htag]; rfl
  rw [hover_eq h, hshown, Option.map_map]
  rfl

/-- **A name has a definition** when it is a label, or a symbol that is not reported. -/
theorem isSome_definitionOf_iff_of_isName (ht : t ∈ (assemble text).tokens) (hname : IsName t) :
    ((assemble text).definitionOf t.text).isSome = true ↔
      t.tag = .label ∨ t.tag = .symbol ∧ ¬ReportedUndefined text t := by
  rcases hname with htag | htag
  · have hmem : t.text ∈ labelNames (assemble text).tokens :=
      mem_labelNames_iff.2 ⟨t, ht, htag, rfl⟩
    simp [isSome_definitionOf_iff.2 hmem, htag]
  · rw [reportedUndefined_iff ht htag, Option.isSome_iff_ne_none]
    simp [htag]

/-- **The line of a definition** is a line of the document. -/
theorem nameText_of_defines {name : String} {label : Token} (h : Defines text name label)
    (t : Token) :
    ∃ line, (ofText text).source.trimmed? label.span.line = some line ∧
      (ofText text).nameText t label =
        "**" ++ t.text ++ "** (" ++ t.tag.name ++ ")\n\nDefined on line " ++
          toString (label.span.line + 1) ++ ":\n```tabasm\n" ++ String.ofList line ++ "\n```" := by
  obtain ⟨-, -, content, hline, -⟩ := token_in h.mem
  have htrimmed : (ofText text).source.trimmed? label.span.line = some (Text.trim content) :=
    congrArg (Option.map Text.trim) hline
  refine ⟨Text.trim content, htrimmed, ?_⟩
  rw [nameText, htrimmed]
  rfl

theorem isSome_definition_iff :
    ((ofText text).definition position).isSome = true ↔
      ∃ t, (ofText text).tokenAt position = some t ∧
        (t.tag = .label ∨ t.tag = .symbol ∧ ¬ReportedUndefined text t) := by
  cases htoken : (ofText text).tokenAt position with
  | none =>
    have hnone : (ofText text).definition position = none := by
      rw [definition, definitionAt, htoken]
      rfl
    simp [hnone]
  | some t =>
    have ht : t ∈ (assemble text).tokens := (tokenAt_eq_some_iff.1 htoken).1
    rw [definition_eq htoken]
    simp only [Option.some.injEq, exists_eq_left', Option.isSome_map]
    by_cases hname : IsName t
    · rw [symbolName_of_isName hname]
      exact isSome_definitionOf_iff_of_isName ht hname
    · rw [symbolName_of_not_isName hname]
      simp only [Option.bind_none, Option.isSome_none, Bool.false_eq_true, false_iff]
      exact fun h => hname (h.imp_right And.left)

/-- **Names agree.** There is a definition to go to exactly when the token at the position is a
label, or a symbol that is not reported as undefined. For labels and symbols something is shown
exactly when there is a definition; then the definition is the range of the first label with the
name, and what is shown gives the number of its line, counted from one, and quotes the line without
the blanks around it. -/
theorem names_agree (text : List Char) (htext : Addressable text) (position : Position) :
    let doc := ofText text
    ((doc.definition position).isSome = true ↔
      ∃ t, doc.tokenAt position = some t ∧
        (t.tag = .label ∨ t.tag = .symbol ∧ ¬ReportedUndefined text t)) ∧
    ∀ t, doc.tokenAt position = some t → IsName t →
      ((doc.hover position).isSome = true ↔ (doc.definition position).isSome = true) ∧
      ∀ range, doc.definition position = some range →
        ∃ label line, Defines text t.text label ∧
          range = ⟨⟨label.span.line, label.span.start⟩, ⟨label.span.line, label.span.stop⟩⟩ ∧
          doc.source.trimmed? range.start.line = some line ∧
          doc.hover position = some
            ⟨"**" ++ t.text ++ "** (" ++ t.tag.name ++ ")\n\nDefined on line " ++
                toString (range.start.line + 1) ++ ":\n```tabasm\n" ++
                String.ofList line ++ "\n```",
              .ofSpan t.span⟩ := by
  intro doc
  refine ⟨isSome_definition_iff, fun t htoken hname => ?_⟩
  have hdefinition := definition_eq htoken
  rw [symbolName_of_isName hname, Option.bind_some] at hdefinition
  have hhover := hover_of_isName htoken hname
  refine ⟨?_, fun range hrange => ?_⟩
  · rw [hdefinition, hhover, Option.isSome_map, Option.isSome_map]
  · obtain ⟨label, hlabel, rfl⟩ := Option.map_eq_some_iff.1 (hdefinition.symm.trans hrange)
    have hdefines := defines_of_definitionOf hlabel
    obtain ⟨line, hline, hshown⟩ := nameText_of_defines hdefines t
    rw [ofSpan_eq htext hdefines.mem]
    refine ⟨label, line, hdefines, rfl, hline, ?_⟩
    rw [hhover, hlabel, Option.map_some, hshown]

/-- The position is that behind the last character of a symbol, which comes before two labels with
its name. -/
theorem first_label_behind_symbol :
    let text := " jmp go\ngo: nop\ngo: .end".toList
    let symbol : Token := ⟨⟨0, 5, 7⟩, "go", .symbol⟩
    Addressable text ∧ (ofText text).tokenAt ⟨0, 7⟩ = some symbol ∧ IsName symbol ∧
      (ofText text).definition ⟨0, 7⟩ = some ⟨⟨1, 0⟩, ⟨1, 2⟩⟩ ∧
      (ofText text).hover ⟨0, 7⟩ =
        some ⟨"**go** (symbol)\n\nDefined on line 2:\n```tabasm\ngo: nop\n```",
          ⟨⟨0, 5⟩, ⟨0, 7⟩⟩⟩ := by
  intro text symbol
  have htext : Addressable text := ⟨by decide +kernel, by decide +kernel⟩
  have htoken : (ofText text).tokenAt ⟨0, 7⟩ = some symbol := by decide +kernel
  have hname : IsName symbol := .inr rfl
  have hdefinition : (ofText text).definition ⟨0, 7⟩ = some ⟨⟨1, 0⟩, ⟨1, 2⟩⟩ := by decide +kernel
  have hquoted : (ofText text).source.trimmed? 1 = some "go: nop".toList := by decide +kernel
  obtain ⟨label, line, -, -, hline, hhover⟩ :=
    ((names_agree text htext ⟨0, 7⟩).2 symbol htoken hname).2 _ hdefinition
  cases hline.symm.trans hquoted
  exact ⟨htext, htoken, hname, hdefinition, hhover⟩

end Document

end TabTools.Editor
