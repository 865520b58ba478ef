import TabTools.Text.Lines
import TabTools.Text.Utf8

/-!
# Sizes of texts

A text has no more characters than bytes (`length_le_encode`, `length_le_of_decode?`), each of its
lines no more characters than the text (`length_le_of_mem_lines`), and a line no more words than
characters (`length_blankWords_le`).
-/

namespace TabTools.Text

theorem length_le_encode (text : List Char) : text.length ≤ (encode text).length := by
  induction text with
  | nil => simp
  | cons c text ih =>
    have hchar := c.utf8Size_pos
    simp only [encode, List.flatMap_cons, List.length_append, String.length_utf8EncodeChar,
      List.length_cons] at ih ⊢
    omega

theorem length_le_of_decode? {bytes : List UInt8} {text : List Char}
    (h : decode? bytes = some text) : text.length ≤ bytes.length :=
  encode_of_decode? h ▸ length_le_encode text

/-! ## Pieces -/

variable {α : Type} (separator : α → Bool)

theorem length_filter_pieces_le (xs : List α) :
    ((pieces separator xs).filter fun piece => !piece.isEmpty).length ≤ xs.length := by
  induction xs with
  | nil => simp [pieces]
  | cons c rest ih =>
    unfold pieces
    split
    · simpa using Nat.le_succ_of_le ih
    · rename_i hnil
      exact absurd hnil (pieces_ne_nil separator rest)
    · rename_i piece more _ hpieces
      rw [hpieces] at ih
      have hmore : (more.filter fun piece => !piece.isEmpty).length ≤ rest.length := by
        refine Nat.le_trans (List.Sublist.length_le ?_) ih
        exact (List.sublist_cons_self piece more).filter _
      simpa using hmore

theorem length_le_of_mem_pieces {xs piece : List α} (h : piece ∈ pieces separator xs) :
    piece.length ≤ xs.length := by
  induction xs generalizing piece with
  | nil => simp_all [pieces]
  | cons c rest ih =>
    unfold pieces at h
    split at h
    · rcases List.mem_cons.1 h with rfl | h
      · exact Nat.zero_le _
      · exact Nat.le_succ_of_le (ih h)
    · rename_i hnil
      exact absurd hnil (pieces_ne_nil separator rest)
    · rename_i first more _ hpieces
      rw [hpieces] at ih
      rcases List.mem_cons.1 h with rfl | h
      · exact Nat.succ_le_succ (ih (.head _))
      · exact Nat.le_succ_of_le (ih (List.mem_cons_of_mem _ h))

theorem length_blankWords_le (text : List Char) : (blankWords text).length ≤ text.length :=
  length_filter_pieces_le isBlank text

/-! ## Lines -/

theorem length_dropReturn_le (line : List Char) : (dropReturn line).length ≤ line.length := by
  unfold dropReturn
  split
  · simp
  · exact Nat.le_refl _

theorem exists_of_mem_endLines {cut : List (List Char)} {line : List Char}
    (h : line ∈ endLines cut) : ∃ piece ∈ cut, line.length ≤ piece.length := by
  induction cut with
  | nil => cases h
  | cons first cut ih =>
    cases cut with
    | nil =>
      unfold endLines at h
      split at h
      · cases h
      · exact ⟨first, .head _, List.mem_singleton.1 h ▸ Nat.le_refl _⟩
    | cons second cut =>
      unfold endLines at h
      rcases List.mem_cons.1 h with rfl | h
      · exact ⟨first, .head _, length_dropReturn_le first⟩
      · obtain ⟨piece, hpiece, hle⟩ := ih h
        exact ⟨piece, List.mem_cons_of_mem _ hpiece, hle⟩

theorem length_le_of_mem_lines {text line : List Char} (h : line ∈ lines text) :
    line.length ≤ text.length := by
  obtain ⟨piece, hpiece, hle⟩ := exists_of_mem_endLines h
  exact Nat.le_trans hle (length_le_of_mem_pieces _ hpiece)

end TabTools.Text
