import TabTools.Proofs.Assembly.Diagnostic
import TabTools.Proofs.Lookup

/-!
# Where names are defined

Whether a name is defined is found out twice: the pass over the symbols asks for it among the names
of all labels, and a listing looks it up in an index that keeps the first label of each name.

**The index** (`defines_of_definitionOf`) gives the first label of the name in source order. The
invariant of building it relates every name to the place where it was known, or else to that of its
first label (`lookup_defineFrom`).

**Symbols** (`reportedUndefined_iff`). So a symbol is reported as undefined exactly when the index
does not have its name. A diagnostic belongs to the token it is about because no two tokens share a
span.
-/

namespace TabTools.Assembly

variable {text : List Char} {tokens : List Token} {name : String} {t : Token}

/-- A token is a label with this name. -/
def isLabelOf (name : String) (t : Token) : Bool := isLabel t && t.text == name

theorem isLabelOf_iff : isLabelOf name t = true ↔ t.tag = .label ∧ t.text = name := by
  simp [isLabelOf, isLabel_iff]

/-! ## The index -/

/-- **A name is found** where it was known before, or at the first label that has it. -/
theorem lookup_defineFrom (place : Nat) (known : List (String × Nat)) (tokens : List Token)
    (name : String) :
    (defineFrom place known tokens).lookup name =
      (known.lookup name).or ((tokens.findIdx? (isLabelOf name)).map (place + ·)) := by
  induction tokens generalizing place known with
  | nil => simp [defineFrom]
  | cons t tokens ih =>
    have hlater : (tokens.findIdx? (isLabelOf name)).map ((place + 1) + ·) =
        ((tokens.findIdx? (isLabelOf name)).map (· + 1)).map (place + ·) := by
      rw [Option.map_map]
      exact congrArg (Option.map · _) (funext fun i => by simp only [Function.comp_apply]; omega)
    rw [defineFrom, List.findIdx?_cons]
    split
    · rename_i hnew
      rw [Bool.and_eq_true, Option.isNone_iff_eq_none] at hnew
      rw [ih, lookup_cons_ite, hlater]
      by_cases hname : name = t.text
      · simp [hname, isLabelOf, hnew.1, hnew.2]
      · simp [hname, isLabelOf, Ne.symm hname]
    · rename_i hold
      rw [ih, hlater]
      cases hhere : isLabelOf name t with
      | false => rfl
      | true =>
        -- The token is a label of the name, so the name was known.
        rw [isLabelOf, Bool.and_eq_true, beq_iff_eq] at hhere
        obtain ⟨hlabel, rfl⟩ := hhere
        cases hknown : known.lookup t.text with
        | none => simp [hlabel, hknown] at hold
        | some i => rfl

theorem definitionOf_eq_find? (text : List Char) (name : String) :
    (assemble text).definitionOf name = (assemble text).tokens.find? (isLabelOf name) := by
  show ((defineFrom 0 [] (assemble text).tokens).lookup name).bind _ = _
  rw [lookup_defineFrom, List.find?_eq_bind_findIdx?_getElem?]
  simp

/-- The first of all labels with a name, in source order. -/
structure Defines (text : List Char) (name : String) (label : Token) : Prop where
  mem : label ∈ (assemble text).tokens
  tag : label.tag = .label
  text_eq : label.text = name
  first : ∀ other ∈ (assemble text).tokens, other.tag = .label → other.text = name →
    other ≠ label → label.span.StartsBefore other.span

/-- **The index gives the first label.** -/
theorem defines_of_definitionOf {label : Token}
    (h : (assemble text).definitionOf name = some label) :
    Defines text name label := by
  rw [definitionOf_eq_find?] at h
  obtain ⟨hlabel, early, late, htokens, hearly⟩ := List.find?_eq_some_iff_append.1 h
  obtain ⟨htag, htext⟩ := isLabelOf_iff.1 hlabel
  refine ⟨htokens ▸ List.mem_append_right _ (.head _), htag, htext, ?_⟩
  intro other hother hotag hotext hne
  have horder := startsBefore_tokens text
  rw [htokens] at hother horder
  rcases List.mem_append.1 hother with hother | hother
  · have hnot := hearly other hother
    rw [isLabelOf_iff.2 ⟨hotag, hotext⟩] at hnot
    cases hnot
  · have hlate := List.mem_of_ne_of_mem hne hother
    exact (List.pairwise_cons.1 (List.pairwise_append.1 horder).2.1).1 other hlate

theorem isSome_definitionOf_iff :
    ((assemble text).definitionOf name).isSome = true ↔
      name ∈ labelNames (assemble text).tokens := by
  rw [definitionOf_eq_find?, List.find?_isSome, mem_labelNames_iff]
  simp only [isLabelOf_iff]

/-! ## Undefined symbols -/

/-- The assembler says that the symbol is undefined. -/
def ReportedUndefined (text : List Char) (t : Token) : Prop :=
  ∃ d ∈ (assemble text).diagnostics, d.span = t.span ∧ ∃ name, d.fault = .undefinedSymbol name

theorem eq_of_span_eq {u : Token} (ht : t ∈ (assemble text).tokens)
    (hu : u ∈ (assemble text).tokens) (h : t.span = u.span) : t = u := by
  have htouches : t.span.touches t.span.line t.span.start = true :=
    Span.touches_iff.2 ⟨rfl, Nat.le_refl _, Nat.le_of_lt (token_in ht).start_lt⟩
  have hfound := tokenAt_eq_some_iff.2 ⟨ht, htouches⟩
  rw [tokenAt_eq_some_iff.2 ⟨hu, h ▸ htouches⟩, Option.some.injEq] at hfound
  exact hfound.symm

/-- **A symbol is reported** exactly when it has no definition. -/
theorem reportedUndefined_iff (ht : t ∈ (assemble text).tokens) (htag : t.tag = .symbol) :
    ReportedUndefined text t ↔ (assemble text).definitionOf t.text = none := by
  rw [← Option.not_isSome_iff_eq_none, isSome_definitionOf_iff]
  constructor
  · rintro ⟨d, hd, hspan, name, hfault⟩
    rw [(diagnostics_perm text).mem_iff, mem_found_iff] at hd
    cases hd with
    | label =>
      unfold labelFault at hfault
      dsimp only at hfault
      split at hfault <;> cases hfault
    | duplicate => cases hfault
    | undefined hu hutag hunknown =>
      cases eq_of_span_eq hu ht hspan
      intro hname
      obtain ⟨label, hlabel, hltag, htext⟩ := mem_labelNames_iff.1 hname
      exact hunknown label hlabel hltag htext
  · intro hname
    have hwrong : Wrong text ⟨t.span, .error, .undefinedSymbol t.text⟩ :=
      .undefined ht htag fun label hlabel hltag htext =>
        hname (mem_labelNames_iff.2 ⟨label, hlabel, hltag, htext⟩)
    exact ⟨_, (diagnostics_perm text).mem_iff.2 (mem_found_iff.2 hwrong), rfl, t.text, rfl⟩

end TabTools.Assembly
