import TabTools.Json.Printer
import TabTools.Proofs.Text.Digits

/-!
# JSON text on one line

**Main result** (`plain_render`). The compact text of a value, whatever it holds, has no control
characters below the space: strings escape theirs, and nothing else in a text could bring one in. So
it has neither a line feed nor a carriage return, and stands on one line.
-/

namespace TabTools

/-- Whether a text has no control characters below the space. -/
def Text.Plain (text : List Char) : Prop := ∀ c ∈ text, 0x20 ≤ c.toNat

namespace Text

@[simp] theorem plain_nil : Plain [] := by simp [Plain]

@[simp] theorem plain_cons (c : Char) (text : List Char) :
    Plain (c :: text) ↔ 0x20 ≤ c.toNat ∧ Plain text := by simp [Plain]

@[simp] theorem plain_append (a b : List Char) : Plain (a ++ b) ↔ Plain a ∧ Plain b := by
  simp [Plain, or_imp, forall_and]

theorem Plain.of_subset {a b : List Char} (h : Plain b) (sub : a ⊆ b) : Plain a :=
  fun c hc => h c (sub hc)

theorem Plain.not_mem {text : List Char} (h : Plain text) {c : Char} (hc : c.toNat < 0x20) :
    c ∉ text := fun hmem => Nat.not_lt.2 (h c hmem) hc

theorem plain_of_digits {text : List Char} (h : ∀ c ∈ text, c.isDigit = true) : Plain text :=
  fun c hc => by
    have := toNat_of_isDigit (h c hc)
    omega

theorem plain_numeral (n : Nat) : Plain (Nat.toDigits 10 n) := plain_of_digits (isDigit_numeral n)

theorem plain_replicate_zero (n : Nat) : Plain (List.replicate n '0') := by
  intro c hc
  rw [List.eq_of_mem_replicate hc]
  decide

end Text

open Text

/-! ## Doubles -/

namespace Notation64

theorem plain_positional {digits : List Char} (h : Plain digits) (exponent : Int) :
    Plain (positional digits exponent) := by
  unfold positional
  split
  · simp [h, plain_replicate_zero]
  · have padded : Plain (digits ++ List.replicate (exponent.toNat + 1 - digits.length) '0') :=
      (plain_append _ _).2 ⟨h, plain_replicate_zero _⟩
    have whole := padded.of_subset (List.take_subset (exponent.toNat + 1) _)
    have rest := padded.of_subset (List.drop_subset (exponent.toNat + 1) _)
    dsimp only
    split <;> simp [whole, rest]

theorem plain_scientific {digits : List Char} (h : Plain digits) (exponent : Int) :
    Plain (scientific digits exponent) := by
  have first := h.of_subset (List.take_subset 1 digits)
  have rest := h.of_subset (List.tail_sublist digits).subset
  have sign : 0x20 ≤ (if exponent < 0 then '-' else '+').toNat := by split <;> decide
  unfold scientific
  dsimp only
  split <;> simp [first, rest, sign, plain_numeral]

theorem plain_write (format : Notation64) (x : Binary64) : Plain (format.write x) := by
  have sign : Plain (if x.negative then ['-'] else []) := by split <;> simp
  unfold write
  dsimp only
  split
  · simp [sign]
  · generalize x.magnitude.shortest = found
    obtain ⟨number, power⟩ := found
    have digits : Plain ((Nat.toDigits 10 number).reverse.dropWhile (· == '0')).reverse :=
      (plain_numeral number).of_subset fun c hc =>
        List.mem_reverse.1 (List.dropWhile_subset _ (List.mem_reverse.1 hc))
    dsimp only
    split
    · exact (plain_append _ _).2 ⟨sign, plain_positional digits _⟩
    · exact (plain_append _ _).2 ⟨sign, plain_scientific digits _⟩

end Notation64

namespace Json

/-! ## Strings and numbers -/

theorem plain_hexDigit : ∀ n < 16, 0x20 ≤ (hexDigit n).toNat := by decide

/-- A control character is escaped, and its escape has none. -/
theorem plain_escapeChar (c : Char) : Plain (escapeChar c) := by
  unfold escapeChar
  split
  · simp
  split
  · simp
  split
  · rename_i control
    have high := plain_hexDigit (c.toNat / 16) (by omega)
    have low := plain_hexDigit (c.toNat % 16) (by omega)
    split_ifs <;> simp [high, low]
  · rename_i control
    simpa using control

theorem plain_renderString (s : String) : Plain (renderString s) := by
  have inside : Plain (s.toList.flatMap escapeChar) := by
    intro d hd
    obtain ⟨c, -, hd⟩ := List.mem_flatMap.1 hd
    exact plain_escapeChar c d hd
  simp [renderString, inside]

theorem plain_renderNumber (n : JsonNumber) : Plain (renderNumber n) := by
  cases n with
  | int n =>
    show Plain (renderInt n)
    unfold renderInt
    split <;> simp [plain_numeral]
  | double x => exact doubleNotation.plain_write x

/-! ## Values -/

mutual

/-- **The text of a value has no control characters.** -/
theorem plain_render : (v : Json) → Plain v.render
  | .null => by simp [render]
  | .bool true => by simp [render]
  | .bool false => by simp [render]
  | .num n => by
    rw [render]
    exact plain_renderNumber n
  | .str s => by
    rw [render]
    exact plain_renderString s
  | .arr items => by simp [render, plain_renderItems items]
  | .obj fields => by simp [render, plain_renderFields fields]

theorem plain_renderItems : (items : List Json) → Plain (renderItems items)
  | [] => by simp [renderItems]
  | [v] => by simp [renderItems, plain_render v]
  | v :: w :: rest => by simp [renderItems, plain_render v, plain_renderItems (w :: rest)]

theorem plain_renderFields : (fields : List (String × Json)) → Plain (renderFields fields)
  | [] => by simp [renderFields]
  | [(k, v)] => by simp [renderFields, plain_renderString k, plain_render v]
  | (k, v) :: w :: rest => by
    simp [renderFields, plain_renderString k, plain_render v, plain_renderFields (w :: rest)]

end

end Json

end TabTools
