/-!
# Schedules

A system of parties that run at the same time is given by a step relation: which move leads from
which state to which. A schedule is a list of moves in the order of some interleaving.

What every step keeps holds at the end of a schedule (`Schedule.invariant`), and it may speak of the
moves made so far (`Schedule.history`).
-/

namespace TabTools

section

variable {State Move : Type}

/-- Moves of a system one after the other. -/
inductive Schedule (Step : State → Move → State → Prop) : State → List Move → State → Prop
  | nil {s : State} : Schedule Step s [] s
  | cons {s next t : State} {move : Move} {moves : List Move} (first : Step s move next)
      (rest : Schedule Step next moves t) : Schedule Step s (move :: moves) t

namespace Schedule

variable {Step : State → Move → State → Prop} {s t u : State} {moves : List Move}

theorem append {more : List Move} (first : Schedule Step s moves t)
    (second : Schedule Step t more u) : Schedule Step s (moves ++ more) u := by
  induction first with
  | nil => exact second
  | cons now _ ih => exact .cons now (ih second)

/-- What holds of no moves at first and is kept by every step, with the moves so far, holds at the
end of a schedule. -/
theorem history {P : List Move → State → Prop} (schedule : Schedule Step s moves t) (first : P [] s)
    (step : ∀ {past s move t}, P past s → Step s move t → P (past ++ [move]) t) : P moves t := by
  suffices h : ∀ past, P past s → P (past ++ moves) t from h [] first
  clear first
  induction schedule with
  | nil =>
    intro past h
    rwa [List.append_nil]
  | cons now _ ih =>
    intro past h
    rw [List.append_cons]
    exact ih _ (step h now)

/-- What every step keeps holds after a schedule. -/
theorem invariant {P : State → Prop} (schedule : Schedule Step s moves t)
    (step : ∀ {s move t}, Step s move t → P s → P t) (h : P s) : P t :=
  schedule.history (P := fun _ => P) h fun kept now => step now kept

end Schedule

end

end TabTools
