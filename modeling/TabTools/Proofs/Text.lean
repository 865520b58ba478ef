import Mathlib.Data.List.TakeWhile
import TabTools.Text.Blank

/-!
# Words in texts

A text mentions a word when the word is one of its infixes (`mentions_iff`), and begins with it when
the word is a prefix (`afterPrefix?_eq_some_iff`). Nothing is left of a text by trimming when all of
it is blank (`trim_eq_nil_iff`), and blanks at its end do not matter (`trim_append_blanks`).
-/

namespace TabTools.Text

theorem mentions_iff (word text : List Char) : mentions word text = true ↔ word <:+: text := by
  induction text with
  | nil => simp [mentions]
  | cons c rest ih =>
    rw [mentions, Bool.or_eq_true, List.isPrefixOf_iff_prefix, ih, List.infix_cons_iff]

theorem dropWhile_of_forall_not {α : Type} {p : α → Bool} {xs : List α}
    (h : ∀ x ∈ xs, p x = false) : xs.dropWhile p = xs := by
  cases xs with
  | nil => rfl
  | cons x xs => exact List.dropWhile_cons_of_neg (by simp [h x List.mem_cons_self])

theorem trim_eq_nil_iff (text : List Char) : trim text = [] ↔ ∀ c ∈ text, isBlank c = true := by
  rw [trim, List.reverse_eq_nil_iff, List.dropWhile_eq_nil_iff]
  constructor
  · intro h
    rw [← List.dropWhile_eq_nil_iff]
    -- The first character that stays is not blank, so none stays.
    by_cases hnil : text.dropWhile isBlank = []
    · exact hnil
    · have hhead := List.head_dropWhile_not isBlank hnil
      have := h _ (List.mem_reverse.2 (List.head_mem hnil))
      rw [hhead] at this
      cases this
  · intro h c hc
    exact h c (List.dropWhile_subset isBlank (List.mem_reverse.1 hc))

theorem afterPrefix?_eq_some_iff {start text rest : List Char} :
    afterPrefix? start text = some rest ↔ text = start ++ rest := by
  induction start generalizing text with
  | nil => simp [afterPrefix?]
  | cons s start ih =>
    cases text with
    | nil => simp [afterPrefix?]
    | cons c text =>
      by_cases heq : s = c
      · simp [afterPrefix?, heq, ih]
      · simp [afterPrefix?, heq, Ne.symm heq]

theorem trim_append_blanks (text : List Char) {blanks : List Char}
    (h : ∀ c ∈ blanks, isBlank c = true) : trim (text ++ blanks) = trim text := by
  have hblanks : blanks.dropWhile isBlank = [] := List.dropWhile_eq_nil_iff.2 h
  have hreverse : ∀ c ∈ blanks.reverse, isBlank c = true := fun c hc => h c (List.mem_reverse.1 hc)
  unfold trim
  rw [List.dropWhile_append]
  split
  · rename_i hempty
    rw [List.isEmpty_iff.1 hempty, hblanks]
  · rw [List.reverse_append, List.dropWhile_append_of_pos hreverse]

end TabTools.Text
