import TabTools.Text.Blank

/-!
# Cutting lists into pieces

What is cut off at the front is not changed by what comes later: a separator cuts a list in two
(`pieces_append_separator`), so that a run ends at the next one (`pieces_append_cons`), and of a
longer list all pieces but the last of its front part stay as they are (`pieces_append`).
-/

namespace TabTools.Text

variable {α : Type} {separator : α → Bool}

theorem pieces_cons_of_pos {c : α} (h : separator c = true) (rest : List α) :
    pieces separator (c :: rest) = [] :: pieces separator rest := by
  rw [pieces, h]

theorem pieces_cons_of_neg {c : α} (h : separator c = false) {rest piece : List α}
    {more : List (List α)} (hrest : pieces separator rest = piece :: more) :
    pieces separator (c :: rest) = (c :: piece) :: more := by
  rw [pieces, h, hrest]

/-- What comes before the first separator becomes longer at its front. -/
theorem pieces_append_of_forall_not {xs : List α}
    (h : ∀ x ∈ xs, separator x = false) {ys piece : List α} {more : List (List α)}
    (hys : pieces separator ys = piece :: more) :
    pieces separator (xs ++ ys) = (xs ++ piece) :: more := by
  induction xs with
  | nil => exact hys
  | cons x xs ih =>
    exact pieces_cons_of_neg (h x (.head _)) (ih fun y hy => h y (List.mem_cons_of_mem x hy))

theorem pieces_of_forall_not {xs : List α} (h : ∀ x ∈ xs, separator x = false) :
    pieces separator xs = [xs] := by
  simpa using pieces_append_of_forall_not h (rfl : pieces separator [] = _)

/-- **A separator cuts a list in two.** -/
theorem pieces_append_separator (xs : List α) {c : α} (hc : separator c = true) (rest : List α) :
    pieces separator (xs ++ c :: rest) = pieces separator xs ++ pieces separator rest := by
  induction xs with
  | nil => exact pieces_cons_of_pos hc rest
  | cons x xs ih =>
    cases hx : separator x with
    | true => rw [List.cons_append, pieces_cons_of_pos hx, pieces_cons_of_pos hx, ih,
        List.cons_append]
    | false =>
      obtain ⟨piece, more, hxs⟩ := List.exists_cons_of_ne_nil (pieces_ne_nil separator xs)
      rw [hxs, List.cons_append] at ih
      rw [List.cons_append, pieces_cons_of_neg hx ih, pieces_cons_of_neg hx hxs, List.cons_append]

/-- **A run ends at the first separator.** -/
theorem pieces_append_cons {xs : List α} (h : ∀ x ∈ xs, separator x = false) {c : α}
    (hc : separator c = true) (rest : List α) :
    pieces separator (xs ++ c :: rest) = xs :: pieces separator rest := by
  rw [pieces_append_separator xs hc, pieces_of_forall_not h, List.singleton_append]

/-- **Of a longer list** only the last piece of the front goes on. -/
theorem pieces_append (separator : α → Bool) (xs ys : List α) :
    pieces separator (xs ++ ys) =
      (pieces separator xs).dropLast ++
        pieces separator ((pieces separator xs).getLast?.getD [] ++ ys) := by
  induction xs with
  | nil => rfl
  | cons x xs ih =>
    obtain ⟨piece, more, hxs⟩ := List.exists_cons_of_ne_nil (pieces_ne_nil separator xs)
    rw [hxs] at ih
    cases hx : separator x with
    | true =>
      rw [List.cons_append, pieces_cons_of_pos hx, pieces_cons_of_pos hx, ih, hxs]
      rfl
    | false =>
      rw [pieces_cons_of_neg hx hxs]
      cases more with
      | nil =>
        -- The front has no separator, so its only piece is all of it.
        obtain ⟨next, later, hnext⟩ :=
          List.exists_cons_of_ne_nil (pieces_ne_nil separator (xs ++ ys))
        rw [List.cons_append, pieces_cons_of_neg hx hnext]
        exact (pieces_cons_of_neg hx (ih.symm.trans hnext)).symm
      | cons second more =>
        rw [List.cons_append]
        exact pieces_cons_of_neg hx ih

/-- No piece holds a separator. -/
theorem not_mem_of_mem_pieces {xs piece : List α} (h : piece ∈ pieces separator xs) :
    ∀ x ∈ piece, separator x = false := by
  induction xs generalizing piece with
  | nil => simp_all [pieces]
  | cons c rest ih =>
    obtain ⟨first, more, hrest⟩ := List.exists_cons_of_ne_nil (pieces_ne_nil separator rest)
    rw [hrest] at ih
    cases hc : separator c with
    | true =>
      rw [pieces_cons_of_pos hc, hrest] at h
      rcases List.mem_cons.1 h with rfl | h
      · simp
      · exact ih h
    | false =>
      rw [pieces_cons_of_neg hc hrest] at h
      rcases List.mem_cons.1 h with rfl | h
      · exact List.forall_mem_cons.2 ⟨hc, ih (.head _)⟩
      · exact ih (List.mem_cons_of_mem _ h)

end TabTools.Text
