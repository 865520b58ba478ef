import Mathlib.Data.List.Basic

/-!
# Columns in UTF-16

UTF-16 writes a character as one unit, or as a pair of them if its code does not fit into 16 bits
(`isPaired`). So a column of a line, counted in units (`column16`), is that counted in characters
plus the number of pairs before it (`column16_eq`), and what stands between two columns of the line
is what stands between the same columns of its encoding (`extract_encode16`).
-/

namespace TabTools.Text

/-- Whether UTF-16 writes a character as a pair of units. -/
def isPaired (c : Char) : Bool := 0x10000 ≤ c.toNat

/-- The units of a character. -/
def units (c : Char) : List Nat :=
  if isPaired c then
    let rest := c.toNat - 0x10000
    [0xD800 + rest / 0x400, 0xDC00 + rest % 0x400]
  else [c.toNat]

/-- A text in UTF-16. -/
def encode16 (text : List Char) : List Nat := text.flatMap units

/-- How many characters of a text are pairs. -/
def pairs (text : List Char) : Nat := text.countP isPaired

/-- The units of a line that come before a column of characters. -/
def column16 (line : List Char) (column : Nat) : Nat := (encode16 (line.take column)).length

variable {line : List Char} {column start stop : Nat}

theorem encode16_append (front back : List Char) :
    encode16 (front ++ back) = encode16 front ++ encode16 back :=
  List.flatMap_append

theorem length_encode16 (text : List Char) : (encode16 text).length = text.length + pairs text := by
  induction text with
  | nil => rfl
  | cons c text ih =>
    rw [encode16, List.flatMap_cons, List.length_append, ← encode16, ih, pairs, pairs,
      List.countP_cons, List.length_cons, units]
    split <;> simp only [List.length_cons, List.length_nil] <;> omega

/-- Two characters, one of them a pair. -/
example : (encode16 ['é', '😀']).length = 3 := by decide

theorem pairs_eq_zero_iff {text : List Char} : pairs text = 0 ↔ ∀ c ∈ text, isPaired c = false := by
  simp [pairs, List.countP_eq_zero]

theorem pairs_take_le (line : List Char) (h : start ≤ stop) :
    pairs (line.take start) ≤ pairs (line.take stop) :=
  (List.take_sublist_take_left h).countP_le

/-- **A column in units** is one in characters and the pairs before it. -/
theorem column16_eq (h : column ≤ line.length) :
    column16 line column = column + pairs (line.take column) := by
  rw [column16, length_encode16, List.length_take, Nat.min_eq_left h]

/-- **What stands between two columns** is the same in units. -/
theorem extract_encode16 (line : List Char) (h : start ≤ stop) :
    (encode16 line).extract (column16 line start) (column16 line stop) =
      encode16 (line.extract start stop) := by
  obtain ⟨length, rfl⟩ := Nat.exists_eq_add_of_le h
  have hstop : column16 line (start + length) =
      column16 line start + (encode16 ((line.drop start).take length)).length := by
    rw [column16, List.take_add, encode16_append, List.length_append, column16]
  have hfront : encode16 line = encode16 (line.take start) ++ encode16 (line.drop start) := by
    rw [← encode16_append, List.take_append_drop]
  have hback : encode16 (line.drop start) = encode16 ((line.drop start).take length) ++
      encode16 ((line.drop start).drop length) := by
    rw [← encode16_append, List.take_append_drop]
  rw [List.extract, List.extract, hstop, Nat.add_sub_cancel_left, Nat.add_sub_cancel_left, column16,
    hfront, List.drop_left, hback, List.take_left]

end TabTools.Text
