import TabTools.Json.Parser
import TabTools.Json.Printer
import TabTools.Proofs.Json.Object
import TabTools.Proofs.Text.Digits

/-!
# Reading compact text back

**Main result** (`parseWithin?_render`). Reading the compact text of a value gives the value, if it
is `Readable`: it is well-formed, holds no doubles and is nested no deeper than the reader allows.

**Well-formed values.** Texts denote integers from `-2 ^ 63` to `2 ^ 64 - 1`, and objects with their
fields in key order, each key once. A value outside of that has a text, but one that denotes another
value.

**What follows a value.** Every reader is shown to stop at the end of its own text, whatever follows
(`stringBody_escaped`, `number_renderInt`, `value_render`). Only for a number does it matter what
follows: nothing that could continue it (`endsNumber`), which commas and closing brackets cannot.

**Steps.** Each step of the readers of values, items and fields consumes a character, so the length
of a text is a bound on the steps that reading it takes.
-/

namespace TabTools.Json

open Text

/-! ## Readable values -/

mutual

/-- Whether a value is one that texts can denote: its integers are in range, and the fields of its
objects stand in key order, each key once. -/
def wellFormed : Json → Bool
  | .num (.int n) => -0x8000000000000000 ≤ n && n ≤ 0xFFFFFFFFFFFFFFFF
  | .arr items => wellFormedItems items
  | .obj fields => decide (fields.Pairwise fun f g => f.1 < g.1) && wellFormedFields fields
  | _ => true

def wellFormedItems : List Json → Bool
  | [] => true
  | v :: rest => wellFormed v && wellFormedItems rest

def wellFormedFields : List (String × Json) → Bool
  | [] => true
  | (_, v) :: rest => wellFormed v && wellFormedFields rest

end

/-- What reading a value back takes: it is well-formed, holds no doubles and is not nested too
deep. -/
structure Readable (depth : Nat) (v : Json) : Prop where
  wellFormed : v.wellFormed = true
  allInts : v.allInts = true
  depth_le : v.depth ≤ depth

instance (depth : Nat) (v : Json) : Decidable (Readable depth v) :=
  decidable_of_iff (v.wellFormed = true ∧ v.allInts = true ∧ v.depth ≤ depth)
    ⟨fun ⟨wf, ints, deep⟩ => ⟨wf, ints, deep⟩, fun ⟨wf, ints, deep⟩ => ⟨wf, ints, deep⟩⟩

theorem Readable.of_cons_item {d : Nat} {v : Json} {vs : List Json}
    (h : Readable (d + 1) (.arr (v :: vs))) : Readable d v ∧ Readable (d + 1) (.arr vs) := by
  obtain ⟨wf, ints, deep⟩ := h
  simp only [Json.wellFormed, wellFormedItems, Bool.and_eq_true] at wf
  simp only [Json.allInts, allIntsItems, Bool.and_eq_true] at ints
  simp only [depth, depthItems, Nat.add_le_add_iff_right, Nat.max_le] at deep
  exact ⟨⟨wf.1, ints.1, deep.1⟩, wf.2, ints.2, Nat.add_le_add_right deep.2 1⟩

theorem Readable.of_cons_field {d : Nat} {k : String} {v : Json} {fs : List (String × Json)}
    (h : Readable (d + 1) (.obj ((k, v) :: fs))) : Readable d v ∧ Readable (d + 1) (.obj fs) := by
  obtain ⟨wf, ints, deep⟩ := h
  simp only [Json.wellFormed, wellFormedFields, Bool.and_eq_true, decide_eq_true_eq] at wf
  simp only [Json.allInts, allIntsFields, Bool.and_eq_true] at ints
  simp only [depth, depthFields, Nat.add_le_add_iff_right, Nat.max_le] at deep
  refine ⟨⟨wf.2.1, ints.1, deep.1⟩, ?_, ints.2, Nat.add_le_add_right deep.2 1⟩
  simp only [Json.wellFormed, Bool.and_eq_true, decide_eq_true_eq]
  exact ⟨wf.1.of_cons, wf.2.2⟩

theorem Readable.ordered {d : Nat} {fs : List (String × Json)} (h : Readable d (.obj fs)) :
    fs.Pairwise fun f g => f.1 < g.1 := by
  have wf := h.wellFormed
  simp only [Json.wellFormed, Bool.and_eq_true, decide_eq_true_eq] at wf
  exact wf.1

/-! ## Strings -/

theorem hexValue?_hexDigit : ∀ n < 16, hexValue? (hexDigit n) = some n := by decide

theorem hex4?_hexDigit {n : Nat} (h : n < 256) :
    hex4? '0' '0' (hexDigit (n / 16)) (hexDigit (n % 16)) = some n := by
  have zero : hexValue? '0' = some 0 := rfl
  have high := hexValue?_hexDigit (n / 16) (by omega)
  have low := hexValue?_hexDigit (n % 16) (by omega)
  simp only [hex4?, zero, high, low, Option.bind_eq_bind, Option.bind_some]
  exact congrArg some (by omega)

theorem stringBody_plain {c : Char} (rest : List Char) (hquote : c ≠ '"') (hslash : c ≠ '\\')
    (hspace : ¬c.toNat < 0x20) :
    stringBody (c :: rest) = (stringBody rest).map fun r => (c :: r.1, r.2) := by
  rw [stringBody, if_neg (not_or.2 ⟨hslash, hspace⟩)]
  · exact hquote
  · exact fun _ _ _ _ _ h => absurd h hslash
  · exact fun _ _ h => absurd h hslash

/-- **One escaped character is read as that character.** -/
theorem stringBody_escapeChar (c : Char) (rest : List Char) :
    stringBody (escapeChar c ++ rest) = (stringBody rest).map fun r => (c :: r.1, r.2) := by
  unfold escapeChar
  split
  · subst_vars; simp [stringBody, simpleEscape?]
  split
  · subst_vars; simp [stringBody, simpleEscape?]
  split
  · rename_i control
    split
    · subst_vars; simp [stringBody, simpleEscape?]
    split
    · subst_vars; simp [stringBody, simpleEscape?]
    split
    · subst_vars; simp [stringBody, simpleEscape?]
    split
    · rename_i code
      rw [← Char.ofNat_toNat c, code]
      simp [stringBody, simpleEscape?]
    split
    · rename_i code
      rw [← Char.ofNat_toNat c, code]
      simp [stringBody, simpleEscape?]
    · have value := hex4?_hexDigit (n := c.toNat) (by omega)
      have basic : isHighSurrogate c.toNat = false ∧ isLowSurrogate c.toNat = false := by
        simp only [isHighSurrogate, isLowSurrogate, Bool.and_eq_false_iff, decide_eq_false_iff_not]
        omega
      simp [stringBody, value, basic, Char.ofNat_toNat]
  · rename_i hquote hslash control
    exact stringBody_plain rest hquote hslash control

theorem stringBody_escaped (cs rest : List Char) :
    stringBody (cs.flatMap escapeChar ++ '"' :: rest) = some (cs, rest) := by
  induction cs with
  | nil => simp [stringBody]
  | cons c cs ih =>
    rw [List.flatMap_cons, List.append_assoc, stringBody_escapeChar, ih]
    rfl

/-! ## Numbers -/

/-- Whether a text cannot continue a number that stands before it. -/
def endsNumber (rest : List Char) : Bool :=
  rest.head?.all fun c => !c.isDigit && c != '.' && c != 'e' && c != 'E'

/-- Digits whose number fits are all taken into the significand. -/
theorem foldl_pushWhole (digits : List Char) (n : Nat)
    (fits : Nat.ofDigitChars 10 digits n ≤ maxSignificand) :
    digits.foldl Digits.pushWhole ⟨n, 0, false⟩ = ⟨Nat.ofDigitChars 10 digits n, 0, false⟩ := by
  induction digits generalizing n with
  | nil => rfl
  | cons c digits ih =>
    rw [ofDigitChars_cons_digitValue] at fits ⊢
    have room : ¬maxSignificand < n * 10 + digitValue c :=
      Nat.not_lt.2 ((le_ofDigitChars digits _).trans fits)
    rw [List.foldl_cons, Digits.pushWhole, if_neg (by simpa using room)]
    exact ih _ fits

theorem wholeDigits_numeral (n : Nat) {rest : List Char} (h : startsWithDigit rest = false) :
    wholeDigits (Nat.toDigits 10 n ++ rest) = some (Nat.toDigits 10 n, rest) := by
  rw [wholeDigits, takeWhile_numeral n h, dropWhile_numeral n h]
  split
  · rename_i heq; exact absurd heq Nat.toDigits_ne_nil
  · rename_i heq; exact absurd heq (numeral_ne_zero_cons n _ _)
  · rfl

theorem startsWithDigit_of_endsNumber {rest : List Char} (h : endsNumber rest = true) :
    startsWithDigit rest = false := by
  cases rest with
  | nil => rfl
  | cons c rest => simp_all [endsNumber, startsWithDigit]

theorem fraction?_of_endsNumber {rest : List Char} (h : endsNumber rest = true) :
    fraction? rest = some (none, rest) := by
  unfold fraction?
  split
  · simp [endsNumber] at h
  · rfl

theorem exponent?_of_endsNumber {rest : List Char} (h : endsNumber rest = true) :
    exponent? rest = some (none, rest) := by
  cases rest with
  | nil => rfl
  | cons c rest =>
    have plain : ¬(c = 'e' ∨ c = 'E') := by simp_all [endsNumber]
    exact if_neg plain

/-- **A numeral that fits is read as an integer.** -/
theorem unsignedNumber_numeral (negative : Bool) {n : Nat} {rest : List Char}
    (fits : n ≤ maxSignificand) (h : endsNumber rest = true) :
    unsignedNumber negative (Nat.toDigits 10 n ++ rest) =
      (wholeNumber negative ⟨n, 0, false⟩).map (·, rest) := by
  have digits : Digits.ofWhole (Nat.toDigits 10 n) = ⟨n, 0, false⟩ := by
    have := foldl_pushWhole (Nat.toDigits 10 n) 0 (by rwa [Nat.ofDigitChars_ten_toDigits])
    rwa [Nat.ofDigitChars_ten_toDigits] at this
  rw [unsignedNumber, wholeDigits_numeral n (startsWithDigit_of_endsNumber h)]
  simp only [Option.bind_eq_bind, Option.bind_some, fraction?_of_endsNumber h,
    exponent?_of_endsNumber h, digits]
  cases wholeNumber negative ⟨n, 0, false⟩ <;> rfl

theorem number_numeral (n : Nat) (rest : List Char) :
    number (Nat.toDigits 10 n ++ rest) = unsignedNumber false (Nat.toDigits 10 n ++ rest) := by
  unfold number
  split
  · rename_i minus heq
    obtain ⟨c, cs, hcs, digit⟩ := numeral_eq_cons n
    rw [hcs, List.cons_append, List.cons.injEq] at heq
    rw [heq.1] at digit
    exact absurd digit (by decide)
  · rfl

theorem wholeNumber_negative {m : Nat} (pos : 0 < m) (fits : m ≤ leastInteger) :
    wholeNumber true ⟨m, 0, false⟩ = some (.int (-m)) := by
  simp [wholeNumber, pos, fits]

/-- **An integer in range is read back.** -/
theorem number_renderInt {n : Int} {rest : List Char} (least : -0x8000000000000000 ≤ n)
    (most : n ≤ 0xFFFFFFFFFFFFFFFF) (h : endsNumber rest = true) :
    number (renderInt n ++ rest) = some (.int n, rest) := by
  have fits : n.natAbs ≤ maxSignificand := by
    unfold maxSignificand
    omega
  unfold renderInt
  split
  · rename_i negative
    have reach : n.natAbs ≤ leastInteger := by
      unfold leastInteger
      omega
    have value : -(n.natAbs : Int) = n := by omega
    rw [List.cons_append, number, unsignedNumber_numeral true fits h,
      wholeNumber_negative (by omega) reach, value]
    rfl
  · rename_i natural
    have value : (n.natAbs : Int) = n := by omega
    have whole : wholeNumber false ⟨n.natAbs, 0, false⟩ = some (.int n.natAbs) := rfl
    rw [number_numeral, unsignedNumber_numeral false fits h, whole, value]
    rfl

/-! ## Objects -/

/-- **Fields in key order stay as they are.** -/
theorem sortFields_of_pairwise {fields : List (String × Json)}
    (ordered : fields.Pairwise fun f g => f.1 < g.1) : sortFields fields = fields :=
  foldl_insertKey [] ordered

/-! ## Values -/

theorem skipSpace_cons {c : Char} (cs : List Char) (h : isSpace c = false) :
    skipSpace (c :: cs) = c :: cs :=
  List.dropWhile_cons_of_neg (by simp [h])

/-- Whether a number may start with a character. -/
def startsNumber (c : Char) : Bool := c == '-' || c.isDigit

theorem ne_of_startsNumber {c d : Char} (hc : startsNumber c = true)
    (hd : startsNumber d = false) : c ≠ d := by
  rintro rfl
  exact Bool.false_ne_true (hd.symm.trans hc)

theorem isSpace_of_startsNumber {c : Char} (hc : startsNumber c = true) : isSpace c = false := by
  have hne {d : Char} (hd : startsNumber d = false) : c ≠ d := ne_of_startsNumber hc hd
  simp [isSpace, hne (d := ' ') rfl, hne (d := '\t') rfl, hne (d := '\n') rfl, hne (d := '\r') rfl]

theorem renderInt_eq_cons (n : Int) : ∃ c cs, renderInt n = c :: cs ∧ startsNumber c = true := by
  unfold renderInt
  split
  · exact ⟨'-', _, rfl, rfl⟩
  · obtain ⟨c, cs, hcs, digit⟩ := numeral_eq_cons n.natAbs
    exact ⟨c, cs, hcs, by simp [startsNumber, digit]⟩

/-- The text of a value starts with neither a blank nor a closing bracket. -/
theorem render_eq_cons {v : Json} (ints : v.allInts = true) :
    ∃ c cs, render v = c :: cs ∧ isSpace c = false ∧ c ≠ ']' := by
  cases v with
  | null => exact ⟨_, _, rfl, by decide, by decide⟩
  | bool b => cases b <;> exact ⟨_, _, rfl, by decide, by decide⟩
  | num n =>
    cases n with
    | int n =>
      obtain ⟨c, cs, heq, hc⟩ := renderInt_eq_cons n
      exact ⟨c, cs, heq, isSpace_of_startsNumber hc, ne_of_startsNumber hc rfl⟩
    | double x => simp [allInts] at ints
  | str s => exact ⟨_, _, rfl, by decide, by decide⟩
  | arr vs => exact ⟨_, _, by rw [render], by decide, by decide⟩
  | obj fs => exact ⟨_, _, by rw [render], by decide, by decide⟩

theorem renderItems_eq_cons {v : Json} (vs : List Json) (ints : v.allInts = true) :
    ∃ c cs, renderItems (v :: vs) = c :: cs ∧ isSpace c = false ∧ c ≠ ']' := by
  obtain ⟨c, cs, heq, hc⟩ := render_eq_cons ints
  cases vs <;> exact ⟨c, _, by rw [renderItems, heq, List.cons_append], hc⟩

theorem renderFields_eq_cons (f : String × Json) (fs : List (String × Json)) :
    ∃ cs, renderFields (f :: fs) = '"' :: cs := by
  cases fs <;> exact ⟨_, by rw [renderFields]; rfl⟩

/-! ### One step of a reader -/

theorem value_number {c : Char} (fuel depth : Nat) (cs : List Char) (h : startsNumber c = true) :
    value (fuel + 1) depth (c :: cs) = (number (c :: cs)).map fun r => (.num r.1, r.2) := by
  rw [value, skipSpace_cons cs (isSpace_of_startsNumber h)]
  split
  case h_7 => rfl
  all_goals
    rename_i heq
    cases heq
    cases h

theorem value_array {c : Char} (fuel depth : Nat) (cs : List Char) (space : isSpace c = false)
    (hc : c ≠ ']') :
    value (fuel + 1) (depth + 1) ('[' :: c :: cs) =
      (items fuel depth (c :: cs)).map fun r => (.arr r.1, r.2) := by
  rw [value, skipSpace_cons _ (by decide)]
  simp only [skipSpace_cons cs space]
  split
  · simp_all
  · rfl

theorem value_object (fuel depth : Nat) (cs : List Char) :
    value (fuel + 1) (depth + 1) ('{' :: '"' :: cs) =
      (fields fuel depth ('"' :: cs)).map fun r => (object r.1, r.2) := by
  simp [value, skipSpace, isSpace]

section Steps

variable {fuel depth : Nat} {cs rest : List Char} {v : Json}

theorem items_last (h : value fuel depth cs = some (v, ']' :: rest)) :
    items (fuel + 1) depth cs = some ([v], rest) := by
  simp [items, h, skipSpace, isSpace]

theorem items_more (h : value fuel depth cs = some (v, ',' :: rest)) :
    items (fuel + 1) depth cs = (items fuel depth rest).map fun r => (v :: r.1, r.2) := by
  simp [items, h, skipSpace, isSpace]

theorem fields_last (key : String) (h : value fuel depth cs = some (v, '}' :: rest)) :
    fields (fuel + 1) depth (renderString key ++ ':' :: cs) = some ([(key, v)], rest) := by
  simp [fields, renderString, stringBody_escaped, h, skipSpace, isSpace]

theorem fields_more (key : String) (h : value fuel depth cs = some (v, ',' :: rest)) :
    fields (fuel + 1) depth (renderString key ++ ':' :: cs) =
      (fields fuel depth rest).map fun r => ((key, v) :: r.1, r.2) := by
  simp [fields, renderString, stringBody_escaped, h, skipSpace, isSpace]

end Steps

/-! ### Whole values -/

mutual

theorem value_render : (v : Json) → (fuel depth : Nat) → (rest : List Char) → Readable depth v →
    (render v).length ≤ fuel → endsNumber rest = true →
    value fuel depth (render v ++ rest) = some (v, rest)
  | v, 0, _, _, ok, long, _ => by
    obtain ⟨c, cs, hv, -⟩ := render_eq_cons ok.allInts
    simp [hv] at long
  | .null, _ + 1, _, _, _, _, _ => by simp [render, value, skipSpace, isSpace]
  | .bool true, _ + 1, _, _, _, _, _ => by simp [render, value, skipSpace, isSpace]
  | .bool false, _ + 1, _, _, _, _, _ => by simp [render, value, skipSpace, isSpace]
  | .num (.int n), fuel + 1, depth, rest, ok, _, ends => by
    have range := ok.wellFormed
    simp only [wellFormed, Bool.and_eq_true, decide_eq_true_eq] at range
    obtain ⟨c, cs, hcs, hc⟩ := renderInt_eq_cons n
    have step := value_number fuel depth (cs ++ rest) hc
    rw [← List.cons_append, ← hcs, number_renderInt range.1 range.2 ends] at step
    exact step
  | .num (.double x), _ + 1, _, _, ok, _, _ => by
    have ints := ok.allInts
    simp [allInts] at ints
  | .str s, _ + 1, _, _, _, _, _ => by
    simp [render, renderString, value, skipSpace, isSpace, stringBody_escaped]
  | .arr vs, fuel + 1, 0, rest, ok, _, _ => absurd ok.depth_le (by simp [depth])
  | .arr [], fuel + 1, depth + 1, rest, ok, long, ends => by
    simp [render, renderItems, value, skipSpace, isSpace]
  | .arr (v :: vs), fuel + 1, depth + 1, rest, ok, long, _ => by
    obtain ⟨c, cs, hcs, space, hc⟩ := renderItems_eq_cons vs ok.of_cons_item.1.allInts
    have step := value_array fuel depth (cs ++ rest) space hc
    rw [← List.cons_append, ← hcs] at step
    rw [render, List.length_cons, Nat.add_le_add_iff_right] at long
    rw [render, List.cons_append, step,
      items_render (v :: vs) fuel depth rest (List.cons_ne_nil v vs) ok long]
    rfl
  | .obj fs, fuel + 1, 0, rest, ok, _, _ => absurd ok.depth_le (by simp [depth])
  | .obj [], fuel + 1, depth + 1, rest, ok, long, ends => by
    simp [render, renderFields, value, skipSpace, isSpace]
  | .obj (f :: fs), fuel + 1, depth + 1, rest, ok, long, _ => by
    obtain ⟨cs, hcs⟩ := renderFields_eq_cons f fs
    have step := value_object fuel depth (cs ++ rest)
    rw [← List.cons_append, ← hcs] at step
    rw [render, List.length_cons, Nat.add_le_add_iff_right] at long
    rw [render, List.cons_append, step,
      fields_render (f :: fs) fuel depth rest (List.cons_ne_nil f fs) ok long]
    simp only [Option.map_some, object, sortFields_of_pairwise ok.ordered]

theorem items_render : (vs : List Json) → (fuel depth : Nat) → (rest : List Char) → vs ≠ [] →
    Readable (depth + 1) (.arr vs) → (renderItems vs).length ≤ fuel →
    items fuel depth (renderItems vs ++ rest) = some (vs, rest)
  | [], _, _, _, nonempty, _, _ => absurd rfl nonempty
  | v :: vs, 0, _, _, _, ok, long => by
    obtain ⟨c, cs, hv, -⟩ := renderItems_eq_cons vs ok.of_cons_item.1.allInts
    simp [hv] at long
  | [v], fuel + 1, depth, rest, _, ok, long => by
    rw [renderItems, List.append_assoc]
    simp only [renderItems, List.length_append, List.length_singleton] at long
    exact items_last (value_render v fuel depth (']' :: rest) ok.of_cons_item.1 (by omega) rfl)
  | v :: w :: vs, fuel + 1, depth, rest, _, ok, long => by
    rw [renderItems, List.append_assoc, List.cons_append]
    simp only [renderItems, List.length_append, List.length_cons] at long
    have first := value_render v fuel depth (',' :: (renderItems (w :: vs) ++ rest))
      ok.of_cons_item.1 (by omega) rfl
    rw [items_more first,
      items_render (w :: vs) fuel depth rest (List.cons_ne_nil w vs) ok.of_cons_item.2 (by omega)]
    rfl

theorem fields_render : (fs : List (String × Json)) → (fuel depth : Nat) → (rest : List Char) →
    fs ≠ [] → Readable (depth + 1) (.obj fs) → (renderFields fs).length ≤ fuel →
    fields fuel depth (renderFields fs ++ rest) = some (fs, rest)
  | [], _, _, _, nonempty, _, _ => absurd rfl nonempty
  | f :: fs, 0, _, _, _, _, long => by
    obtain ⟨cs, hv⟩ := renderFields_eq_cons f fs
    simp [hv] at long
  | [(k, v)], fuel + 1, depth, rest, _, ok, long => by
    rw [renderFields, List.append_assoc, List.cons_append, List.append_assoc]
    simp only [renderFields, List.length_append, List.length_cons] at long
    exact fields_last k (value_render v fuel depth ('}' :: rest) ok.of_cons_field.1 (by omega) rfl)
  | (k, v) :: w :: fs, fuel + 1, depth, rest, _, ok, long => by
    rw [renderFields, List.append_assoc, List.cons_append, List.append_assoc, List.cons_append]
    simp only [renderFields, List.length_append, List.length_cons] at long
    have first := value_render v fuel depth (',' :: (renderFields (w :: fs) ++ rest))
      ok.of_cons_field.1 (by omega) rfl
    rw [fields_more k first,
      fields_render (w :: fs) fuel depth rest (List.cons_ne_nil w fs) ok.of_cons_field.2 (by omega)]
    rfl

end

/-- **Printed values are read back.** -/
theorem parseWithin?_render {depth : Nat} {v : Json} (h : Readable depth v) :
    parseWithin? depth v.render = some v := by
  have read := value_render v (2 * v.render.length + 2) depth [] h (by omega) rfl
  rw [List.append_nil] at read
  rw [parseWithin?, read]
  rfl

end TabTools.Json
