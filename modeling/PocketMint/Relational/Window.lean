import Mathlib.Data.List.Perm.Basic
import Mathlib.Data.List.Range
import Mathlib.Order.Monotone.Basic
import PocketMint.Relational.Group

/-! Rows in half-open windows that follow one another: the windows tile the range they span. -/

namespace PocketMint

section Windows

variable {α β : Type} [LinearOrder β] (value : α → β) (bound : Nat → β)

/-- The rows whose value lies in the window between two bounds. -/
def rowsBetween (low high : β) (rows : List α) : List α :=
  rows.filter fun row => decide (low ≤ value row) && decide (value row < high)

theorem mem_rowsBetween {low high : β} {rows : List α} {row : α} :
    row ∈ rowsBetween value low high rows ↔ row ∈ rows ∧ low ≤ value row ∧ value row < high := by
  simp [rowsBetween]

/-- The rows of two windows that meet are those of the window that spans them. -/
theorem rowsBetween_append_perm {low middle high : β} (first : low ≤ middle) (second : middle ≤ high)
    (rows : List α) :
    (rowsBetween value low middle rows ++ rowsBetween value middle high rows).Perm
      (rowsBetween value low high rows) := by
  refine (filter_either_perm fun row _ inFirst => ?_).trans (.of_eq (List.filter_congr fun row _ => ?_))
  · -- A value below the middle bound is not in the second window.
    simp only [Bool.and_eq_true, decide_eq_true_eq] at inFirst
    simp [not_le.mpr inFirst.2]
  · -- A value of the whole range is on one side of the middle bound.
    by_cases below : value row < middle
    · simp [below, lt_of_lt_of_le below second, not_le.mpr below]
    · have above := not_lt.mp below
      simp [below, above, first.trans above]

/-- The rows of windows that follow one another are those of the range they span. -/
theorem rowsBetween_flatMap_perm (grows : Monotone bound) (rows : List α) (count : Nat) :
    ((List.range count).flatMap fun index =>
      rowsBetween value (bound index) (bound (index + 1)) rows).Perm
        (rowsBetween value (bound 0) (bound count) rows) := by
  -- Each further window continues where the ones before it end.
  induction count with
  | zero =>
    -- A window that closes as it opens holds nothing.
    have nothing : rowsBetween value (bound 0) (bound 0) rows = [] := by
      apply List.filter_eq_nil_iff.mpr
      intro row _ within
      simp only [Bool.and_eq_true, decide_eq_true_eq] at within
      exact absurd within.2 (not_lt.mpr within.1)
    simp [nothing]
  | succ count ih =>
    rw [List.range_succ, List.flatMap_append]
    simp only [List.flatMap_singleton]
    exact (ih.append_right _).trans
      (rowsBetween_append_perm value (grows (Nat.zero_le _)) (grows (Nat.le_succ _)) rows)

/-- Windows that follow one another share no row. -/
theorem rowsBetween_disjoint (grows : Monotone bound) {index later : Nat} (order : index < later)
    (rows : List α) :
    List.Disjoint (rowsBetween value (bound index) (bound (index + 1)) rows)
      (rowsBetween value (bound later) (bound (later + 1)) rows) := by
  intro row first second
  -- The earlier window closes before the later one opens.
  have below := ((mem_rowsBetween value).mp first).2.2
  have above := ((mem_rowsBetween value).mp second).2.1
  exact absurd (below.trans_le ((grows (Nat.succ_le_of_lt order)).trans above)) (lt_irrefl _)

end Windows

end PocketMint
