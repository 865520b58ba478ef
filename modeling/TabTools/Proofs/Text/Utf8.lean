import Mathlib.Data.List.Induction
import Mathlib.Tactic.SplitIfs
import TabTools.Proofs.Text.Pieces
import TabTools.Text.Lines
import TabTools.Text.Utf8

/-!
# Separators in encoded texts

A byte below 128 stands for one character only, and no longer encoding holds it
(`mem_utf8EncodeChar`). So the bytes of a line feed and of a carriage return stand in the encoding of
a text exactly where the text has those characters, and an encoded text is cut at such a byte where
the text is cut at its character (`pieces_encode`).
-/

namespace TabTools.Text

/-- A character below 128 is one byte. -/
theorem utf8EncodeChar_of_code {b : UInt8} (hb : b.toNat < 128) {c : Char}
    (code : c.toNat = b.toNat) : String.utf8EncodeChar c = [b] := by
  have hcode : c.val.toNat = b.toNat := code
  have hshort : c.val ≤ 127 := UInt32.le_iff_toNat_le.2 (by rw [hcode]; exact Nat.le_of_lt_succ hb)
  rw [String.utf8EncodeChar_eq_singleton (Char.utf8Size_eq_one_iff.2 hshort), List.singleton_inj,
    ← UInt8.toNat_inj, UInt32.toNat_toUInt8, hcode]
  exact Nat.mod_eq_of_lt b.toNat_lt

/-- Only the character with that code has a byte below 128 in its encoding. -/
theorem mem_utf8EncodeChar {b : UInt8} (hb : b.toNat < 128) (c : Char) :
    b ∈ String.utf8EncodeChar c ↔ c.toNat = b.toNat := by
  have code : c.toNat = c.val.toNat := rfl
  constructor
  · intro h
    -- Every byte of a longer encoding is at least 128.
    rw [String.utf8EncodeChar] at h
    split_ifs at h
    all_goals
      simp only [List.mem_cons, List.not_mem_nil, or_false, ← UInt8.toNat_inj, UInt8.toNat_ofNat']
        at h
      omega
  · intro h
    rw [utf8EncodeChar_of_code hb h]
    exact .head _

theorem newline_mem_encode (text : List Char) : (10 : UInt8) ∈ encode text ↔ '\n' ∈ text := by
  have same (c : Char) : c.toNat = 10 ↔ c = '\n' := Char.toNat_inj (d := '\n')
  simp [encode, mem_utf8EncodeChar, same]

/-- **The pieces of an encoded text** at a byte that is a character are the encoded pieces of the
text. -/
theorem pieces_encode {b : UInt8} (hb : b.toNat < 128) {d : Char} (code : d.toNat = b.toNat)
    (text : List Char) :
    pieces (· == b) (encode text) = (pieces (· == d) text).map encode := by
  induction text with
  | nil => rfl
  | cons c text ih =>
    have hsplit : encode (c :: text) = String.utf8EncodeChar c ++ encode text := by simp [encode]
    rw [hsplit]
    by_cases hc : c = d
    · subst hc
      have hcut : pieces (· == b) (b :: encode text) = [] :: pieces (· == b) (encode text) :=
        pieces_cons_of_pos (by simp) _
      have hcutText : pieces (· == c) (c :: text) = [] :: pieces (· == c) text :=
        pieces_cons_of_pos (by simp) _
      rw [utf8EncodeChar_of_code hb code, List.singleton_append, hcut, hcutText, ih]
      rfl
    · have hbyte : ∀ x ∈ String.utf8EncodeChar c, (x == b) = false := by
        intro x hx
        refine beq_eq_false_iff_ne.2 ?_
        rintro rfl
        exact hc (Char.toNat_inj.1 (((mem_utf8EncodeChar hb c).1 hx).trans code.symm))
      obtain ⟨piece, more, hmore⟩ := List.exists_cons_of_ne_nil (pieces_ne_nil (· == d) text)
      have hgrown : pieces (· == d) (c :: text) = (c :: piece) :: more :=
        pieces_cons_of_neg (by simpa using hc) hmore
      rw [hmore, List.map_cons] at ih
      rw [pieces_append_of_forall_not hbyte ih, hgrown, List.map_cons]
      simp [encode]

/-! ## The end of a line -/

theorem getLast?_encode_eq_return (text : List Char) :
    (encode text).getLast? = some 13 ↔ text.getLast? = some '\r' := by
  cases text using List.reverseRecOn with
  | nil => decide
  | append_singleton text c =>
    have nonempty : String.utf8EncodeChar c ≠ [] := List.ne_nil_of_length_pos (by
      rw [String.length_utf8EncodeChar]
      exact c.utf8Size_pos)
    have encoded : encode (text ++ [c]) = encode text ++ String.utf8EncodeChar c := by simp [encode]
    rw [encoded, List.getLast?_append, Option.or_of_isSome (List.getLast?_isSome.2 nonempty),
      List.getLast?_concat, Option.some.injEq]
    constructor
    · intro last
      have code := (mem_utf8EncodeChar (by decide) c).1 (List.mem_of_getLast? last)
      exact Char.toNat_inj.1 code
    · rintro rfl
      decide

end TabTools.Text
