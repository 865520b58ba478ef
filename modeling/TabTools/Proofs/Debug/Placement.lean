import TabTools.Proofs.LineBase
import TabTools.Proofs.Debug.Scan

/-!
# Where breakpoints are placed

A breakpoint takes two shifts in turn, down from an empty line or one with a plus sign, then up from
a line with a minus sign, which is looked for where the first shift has led.

**Theorem (`set_places`).** To the client the shifts come to one line down, one line up or none: a
line with a minus sign below an empty one takes the first shift back, and on the first line there is
nowhere to go up to. A number outside the file stays as it is, and a breakpoint is verified exactly
when the line where it ends up is in the file and does not mention `lazy`.

**Numbers.** Files have fewer lines than there are client numbers, so the line below the last one
still has a number (`toClient_of_lt`), and a client sees the shift of a line as that of its number.
Taken in 64 bits, no step of the way from a client's number to that of its breakpoint overflows
(`placeClient64?_eq`).
-/

namespace TabTools.Debug

variable {source : Source} {line : Nat} {text : List Char}

/-! ## Lines -/

theorem startsWith_iff {c : Char} : startsWith c text = true ↔ text.head? = some c := by
  simp [startsWith]

theorem pushesDown_iff : pushesDown text = true ↔ text = [] ∨ text.head? = some '+' := by
  simp [pushesDown, startsWith_iff]

theorem pullsUp_iff :
    pullsUp source line = true ↔
      ∃ text, source.trimmed? line = some text ∧ text.head? = some '-' := by
  unfold pullsUp
  cases source.trimmed? line with
  | none => simp
  | some text => simp [startsWith_iff]

theorem accepts_iff :
    accepts source line = true ↔
      ∃ content, source.get? line = some content ∧ ¬"lazy".toList <:+: content := by
  unfold accepts
  cases source.get? line with
  | none => simp
  | some content =>
    rw [Bool.not_eq_true', ← Bool.not_eq_true, Text.mentions_iff]
    simp [lazyMarker]

/-! ## Shifts -/

/-- A breakpoint asked for on a line with this text ends up on the next line. -/
structure MovesDown (source : Source) (line : Nat) (text : List Char) : Prop where
  pushed : text = [] ∨ text.head? = some '+'
  stays : ∀ next, source.trimmed? (line + 1) = some next → next.head? ≠ some '-'

/-- A breakpoint asked for on a line with this text ends up on the line before. -/
structure MovesUp (line : Nat) (text : List Char) : Prop where
  pos : 0 < line
  pulled : text.head? = some '-'

theorem not_pulled_of_pushed (h : text = [] ∨ text.head? = some '+') : text.head? ≠ some '-' := by
  rcases h with rfl | hplus
  · simp
  · simp [hplus]

/-- The two ways of moving exclude each other. -/
theorem MovesDown.not_movesUp (h : MovesDown source line text) : ¬MovesUp line text :=
  fun hup => not_pulled_of_pushed h.pushed hup.pulled

/-- Where a breakpoint asked for on a line with this text ends up. -/
inductive Lands (source : Source) (line : Nat) (text : List Char) : Nat → Prop
  | below (down : MovesDown source line text) : Lands source line text (line + 1)
  | above (up : MovesUp line text) : Lands source line text (line - 1)
  | here (not_down : ¬MovesDown source line text) (not_up : ¬MovesUp line text) :
      Lands source line text line

/-- **Both shifts together** come to one of three. -/
theorem lands_place (h : source.trimmed? line = some text) :
    Lands source line text (place source line).1 := by
  have hpulls : pullsUp source line = true ↔ text.head? = some '-' := by
    simp [pullsUp_iff, h]
  have hbelow : pullsUp source (line + 1) = true ↔
      ∃ next, source.trimmed? (line + 1) = some next ∧ next.head? = some '-' := pullsUp_iff
  unfold place
  rw [h]
  dsimp only
  by_cases hpushed : pushesDown text = true
  · rw [if_pos hpushed]
    by_cases hnext : pullsUp source (line + 1) = true
    · -- The second shift takes the first one back.
      rw [if_pos hnext, Nat.add_sub_cancel]
      obtain ⟨next, hnext, hminus⟩ := hbelow.1 hnext
      exact .here (fun hdown => hdown.stays next hnext hminus) fun hup =>
        not_pulled_of_pushed (pushesDown_iff.1 hpushed) hup.pulled
    · rw [if_neg hnext]
      exact .below ⟨pushesDown_iff.1 hpushed, fun next hline hminus =>
        hnext (hbelow.2 ⟨next, hline, hminus⟩)⟩
  · have hdown : ¬MovesDown source line text := fun hdown => hpushed (pushesDown_iff.2 hdown.pushed)
    rw [if_neg hpushed]
    by_cases hminus : pullsUp source line = true
    · rw [if_pos hminus]
      rcases Nat.eq_zero_or_pos line with rfl | hpos
      · exact .here hdown fun hup => Nat.lt_irrefl 0 hup.pos
      · exact .above ⟨hpos, hpulls.1 hminus⟩
    · rw [if_neg hminus]
      exact .here hdown fun hup => hminus (hpulls.2 hup.pulled)

theorem place_snd (h : source.trimmed? line = some text) :
    (place source line).2 = accepts source (place source line).1 := by
  unfold place
  rw [h]

theorem Lands.le_succ {final : Nat} (h : Lands source line text final) : final ≤ line + 1 := by
  cases h <;> omega

/-- **The shift says why.** -/
theorem Lands.shift_iff {final : Nat} (h : Lands source line text final) :
    (final = line + 1 ↔ MovesDown source line text) ∧ (final + 1 = line ↔ MovesUp line text) ∧
      (final = line ↔ ¬MovesDown source line text ∧ ¬MovesUp line text) := by
  cases h with
  | below down =>
    refine ⟨iff_of_true rfl down, iff_of_false (by omega) down.not_movesUp, ?_⟩
    exact iff_of_false (by omega) fun h => h.1 down
  | above up =>
    have hpos := up.pos
    have hdown : ¬MovesDown source line text := fun h => h.not_movesUp up
    refine ⟨iff_of_false (by omega) hdown, iff_of_true (by omega) up, ?_⟩
    exact iff_of_false (by omega) fun h => h.2 up
  | here not_down not_up =>
    refine ⟨iff_of_false (by omega) not_down, iff_of_false (by omega) not_up, ?_⟩
    exact iff_of_true rfl ⟨not_down, not_up⟩

/-! ## In 64 bits -/

/-- `place` in 64 bits. It has no result when the step down overflows; the step up saturates. -/
def place64? (source : Source) (line : Nat) : Option (Nat × Bool) :=
  match source.trimmed? line with
  | none => some (line, false)
  | some text => do
    let pushed ← if pushesDown text then unsigned? (line + 1) else some line
    let final := if pullsUp source pushed then pushed - 1 else pushed
    return (final, accepts source final)

/-- `placeClient` in 64 bits. -/
def placeClient64? (source : Source) (base : LineBase) (client : Int) : Option (Int × Bool) :=
  match base.toInternal64 client with
  | none => some (client, false)
  | some line => (place64? source line).map fun placed => (base.toClient64 placed.1, placed.2)

theorem place64?_eq (hlength : source.length < 0x7FFFFFFFFFFFFFFF) (line : Nat) :
    place64? source line = some (place source line) := by
  unfold place64? place
  cases htext : source.trimmed? line with
  | none => rfl
  | some text =>
    have hline : line < source.length := by
      obtain ⟨content, hcontent, -⟩ := Option.map_eq_some_iff.1 htext
      exact Source.lt_length_of_get? hcontent
    have hnext : unsigned? (line + 1) = some (line + 1) :=
      unsigned?_of_lt (n := line + 1) (by omega)
    dsimp only
    rw [hnext]
    split <;> rfl

/-- **No step overflows.** -/
theorem placeClient64?_eq (hlength : source.length < 0x7FFFFFFFFFFFFFFF) (base : LineBase) {client : Int}
    (h : IsInt64 client) :
    placeClient64? source base client = some (placeClient source base client) := by
  unfold placeClient64? placeClient
  rw [base.toInternal64_eq h]
  cases base.toInternal client with
  | none => rfl
  | some line =>
    dsimp only
    rw [place64?_eq hlength, Option.map_some, base.toClient64_eq]

/-! ## What clients see -/

theorem getElem?_create (source : Source) (base : LineBase) (firstId : Nat) (clients : List Int)
    (i : Nat) :
    (BreakpointTable.create source base firstId clients)[i]? = clients[i]?.map fun client =>
      ⟨firstId + i, (placeClient source base client).2, (placeClient source base client).1⟩ := by
  induction clients generalizing firstId i with
  | nil => rfl
  | cons client rest ih =>
    cases i with
    | zero => rfl
    | succ i =>
      rw [BreakpointTable.create, List.getElem?_cons_succ, List.getElem?_cons_succ, ih,
        Nat.add_right_comm]
      rfl

/-- Outside the file nothing is moved. -/
theorem placeClient_outside {base : LineBase} {client : Int} (h : IsInt64 client)
    (houtside : client < base.first ∨ base.first + source.length ≤ client) :
    placeClient source base client = (client, false) := by
  unfold placeClient
  cases hinternal : base.toInternal client with
  | none => rfl
  | some line =>
    have hline : client = line + base.first := LineBase.toInternal_eq_some_iff.1 hinternal
    have hnone : source.trimmed? line = none := by
      rw [Source.trimmed?, Option.map_eq_none_iff]
      refine List.getElem?_eq_none ?_
      show source.length ≤ line
      omega
    have hclient : base.toClient line = client := LineBase.toClient_of_toInternal h hinternal
    simp only [place, hnone, hclient]

/-- Inside the file a client number moves as its line does. -/
theorem placeClient_inside {base : LineBase} {client : Int} (hlength : source.length < 0x7FFFFFFFFFFFFFFF)
    (hfirst : base.first ≤ client) (hlast : client < base.first + source.length) :
    ∃ (line : Nat) (text : List Char) (final : Nat), base.toInternal client = some line ∧
      source.trimmed? line = some text ∧ Lands source line text final ∧
      placeClient source base client = (final + base.first, accepts source final) := by
  have hinternal : base.toInternal client = some (client - base.first).toNat := if_pos hfirst
  generalize (client - base.first).toNat = line at hinternal
  have hclient := LineBase.toInternal_eq_some_iff.1 hinternal
  have hline : line < source.length := by omega
  have htext : source.trimmed? line = some (Text.trim source.lines[line]) := by
    rw [Source.trimmed?, Source.get?, List.getElem?_eq_getElem hline, Option.map_some]
  have hlands := lands_place htext
  refine ⟨line, _, _, hinternal, htext, hlands, ?_⟩
  have hnumber : ((place source line).1 : Int) < LineBase.maxClient := by
    have hfinal := hlands.le_succ
    unfold LineBase.maxClient
    omega
  simp only [placeClient, hinternal, LineBase.toClient_of_lt hnumber, place_snd htext]

/-- **Placement, as clients see it.** A number before the first line or past the last one stays and
is not verified. Otherwise the breakpoint is one line down, one line up or where it was asked for,
as the text of the line and of the one below decide, and verified when its line is in the file and
does not mention `lazy`. In 64 bits this comes out the same. -/
theorem set_places (text : List Char) (hlength : (Source.ofText text).length < 0x7FFFFFFFFFFFFFFF)
    (base : LineBase) (table : BreakpointTable) (key : SourceKey) {clients : List Int} {i : Nat}
    {client : Int} (hclient : IsInt64 client) (hi : clients[i]? = some client) :
    let source := Source.ofText text
    let after := table.set key source clients base
    ∃ bp, after.1[i]? = some bp ∧ (after.2.get key)[i]? = some bp ∧
      placeClient64? source base client = some (bp.line, bp.verified) ∧
      (client < base.first ∨ base.first + source.length ≤ client →
        bp.line = client ∧ bp.verified = false) ∧
      (base.first ≤ client → client < base.first + source.length →
        ∃ line text, base.toInternal client = some line ∧ source.trimmed? line = some text ∧
          (bp.line = client + 1 ↔ MovesDown source line text) ∧
          (bp.line = client - 1 ↔ MovesUp line text) ∧
          (bp.line = client ↔ ¬MovesDown source line text ∧ ¬MovesUp line text) ∧
          (bp.verified = true ↔ ∃ final content, base.toInternal bp.line = some final ∧
            source.get? final = some content ∧ ¬"lazy".toList <:+: content)) := by
  intro source after
  have hcreated := getElem?_create source base table.nextId clients i
  rw [hi, Option.map_some] at hcreated
  refine ⟨_, hcreated, ?_, placeClient64?_eq hlength base hclient, fun houtside => ?_,
    fun hfirst hlast => ?_⟩
  · rw [BreakpointTable.get_set, hcreated]
  · rw [placeClient_outside hclient houtside]
    exact ⟨rfl, rfl⟩
  · obtain ⟨line, content, final, hinternal, htext, hlands, hplaced⟩ :=
      placeClient_inside hlength hfirst hlast
    obtain ⟨hdown, hup, hhere⟩ := hlands.shift_iff
    have hline : client = line + base.first := LineBase.toInternal_eq_some_iff.1 hinternal
    refine ⟨line, content, hinternal, htext, ?_⟩
    have hfinal : base.toInternal (final + base.first) = some final :=
      LineBase.toInternal_eq_some_iff.2 rfl
    rw [hplaced]
    dsimp only
    rw [hfinal, accepts_iff, ← hhere, ← hdown, ← hup]
    refine ⟨by omega, by omega, by omega, ?_⟩
    constructor
    · rintro ⟨found, hfound, hlazy⟩
      exact ⟨final, found, rfl, hfound, hlazy⟩
    · rintro ⟨_, found, ⟨⟩, hfound, hlazy⟩
      exact ⟨found, hfound, hlazy⟩

/-- The line with a plus sign has a line below that mentions `lazy`. It is asked for after the empty
line and the smallest of all numbers. -/
theorem plus_above_lazy :
    let source := Source.ofText "\n- a\n+ b\nlazy".toList
    let clients : List Int := [1, -0x8000000000000000, 3]
    source.length < 0x7FFFFFFFFFFFFFFF ∧ IsInt64 3 ∧ clients[2]? = some 3 ∧
      ∃ bp, (BreakpointTable.set {} [] source clients {}).1[2]? = some bp ∧
        bp.line = 4 ∧ bp.verified = false := by
  intro source clients
  have hlength : source.length < 0x7FFFFFFFFFFFFFFF := by decide +kernel
  have hclient : IsInt64 3 := by decide
  have hthird : clients[2]? = some 3 := rfl
  have hline : source.trimmed? 2 = some "+ b".toList := by decide +kernel
  have hbelow : source.get? 3 = some "lazy".toList := by decide +kernel
  have hdown : MovesDown source 2 "+ b".toList := by
    refine ⟨.inr rfl, fun next hnext => ?_⟩
    have htrimmed : source.trimmed? 3 = some "lazy".toList := by decide +kernel
    cases hnext.symm.trans htrimmed
    decide
  obtain ⟨bp, hbp, -, -, -, hinside⟩ :=
    set_places "\n- a\n+ b\nlazy".toList hlength {} {} [] hclient hthird
  obtain ⟨line, text, hinternal, htext, hmoved, -, -, hverified⟩ :=
    hinside (by decide) (by decide +kernel)
  cases (show some 2 = some line from hinternal)
  cases hline.symm.trans htext
  have hfour : bp.line = 4 := hmoved.2 hdown
  refine ⟨hlength, hclient, hthird, bp, hbp, hfour, Bool.eq_false_iff.2 fun htrue => ?_⟩
  obtain ⟨final, content, hfinal, hcontent, hlazy⟩ := hverified.1 htrue
  rw [hfour] at hfinal
  cases (show some 3 = some final from hfinal)
  cases hbelow.symm.trans hcontent
  exact hlazy List.infix_rfl

end TabTools.Debug
