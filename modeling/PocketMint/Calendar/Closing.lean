import Mathlib.Order.Bounds.Basic
import PocketMint.Calendar.DueDates

/-! Billing cycles of the calendar: the day that closes the cycle of a day, and the day that is due next. -/

namespace PocketMint

namespace Calendar

/-- The closing day of a day's cycle: the cutoff day of its month, or of the next once that has passed. -/
def closingDay (cutoffDay day : Int) : Int :=
  if day ≤ dayIn cutoffDay (monthOf day) then dayIn cutoffDay (monthOf day)
  else dayIn cutoffDay (monthOf day + 1)

/-- The first day on or after a day that is the cutoff day of its month. -/
def ClosesOn (cutoffDay day closing : Int) : Prop :=
  IsLeast {later | day ≤ later ∧ dayIn cutoffDay (monthOf later) = later} closing

/-- The same day of a later month is later. -/
theorem dayIn_lt_iff {dueDay month later : Int} (low : 1 ≤ dueDay) :
    dayIn dueDay month < dayIn dueDay later ↔ month < later := by
  -- Days lie in their months, so they are ordered as these.
  have forward : ∀ {first second : Int}, first < second → dayIn dueDay first < dayIn dueDay second := by
    intro first second order
    apply lt_of_monthOf_lt
    rwa [monthOf_dayIn low, monthOf_dayIn low]
  constructor
  · intro before
    by_contra after
    rcases (not_lt.mp after).lt_or_eq with less | rfl
    · exact lt_asymm before (forward less)
    · exact lt_irrefl _ before
  · exact forward

theorem dayIn_le_iff {dueDay month later : Int} (low : 1 ≤ dueDay) :
    dayIn dueDay month ≤ dayIn dueDay later ↔ month ≤ later := by
  rw [← not_lt, dayIn_lt_iff low, not_lt]

theorem dayIn_inj {dueDay month later : Int} (low : 1 ≤ dueDay) :
    dayIn dueDay month = dayIn dueDay later ↔ month = later := by
  rw [le_antisymm_iff, dayIn_le_iff low, dayIn_le_iff low, ← le_antisymm_iff]

/-- The month of a closing day is that of the day, or the next. -/
theorem monthOf_closingDay {cutoffDay : Int} (low : 1 ≤ cutoffDay) (day : Int) :
    monthOf (closingDay cutoffDay day) =
      if day ≤ dayIn cutoffDay (monthOf day) then monthOf day else monthOf day + 1 := by
  unfold closingDay
  split <;> exact monthOf_dayIn low _

/-- A closing day is the cutoff day of its own month. -/
theorem dayIn_closingDay {cutoffDay : Int} (low : 1 ≤ cutoffDay) (day : Int) :
    dayIn cutoffDay (monthOf (closingDay cutoffDay day)) = closingDay cutoffDay day := by
  rw [monthOf_closingDay low, closingDay]
  split <;> rfl

theorem closesOn_closingDay {cutoffDay : Int} (low : 1 ≤ cutoffDay) (day : Int) :
    ClosesOn cutoffDay day (closingDay cutoffDay day) := by
  constructor
  · refine ⟨?_, dayIn_closingDay low day⟩
    unfold closingDay
    split
    · assumption
    · -- Any day of the month after comes after the day.
      apply le_of_lt
      apply lt_of_monthOf_lt
      rw [monthOf_dayIn low]
      omega
  · rintro later ⟨reached, own⟩
    -- A cutoff day that is not before the day is in its month or a later one.
    have inMonth : monthOf day ≤ monthOf later := by
      by_contra before
      exact absurd (lt_of_monthOf_lt (not_le.mp before)) (not_lt.mpr reached)
    rw [← own, closingDay]
    split
    · exact (dayIn_le_iff low).mpr inMonth
    · rename_i passed
      rw [dayIn_le_iff low]
      by_contra same
      have month : monthOf later = monthOf day := by omega
      rw [month] at own
      omega

theorem closesOn_iff {cutoffDay day closing : Int} (low : 1 ≤ cutoffDay) :
    ClosesOn cutoffDay day closing ↔ closing = closingDay cutoffDay day := by
  constructor
  · intro closes
    exact closes.unique (closesOn_closingDay low day)
  · rintro rfl
    exact closesOn_closingDay low day

/-- A later day's cycle does not close earlier. -/
theorem closingDay_le {cutoffDay day later : Int} (low : 1 ≤ cutoffDay) (order : day ≤ later) :
    closingDay cutoffDay day ≤ closingDay cutoffDay later := by
  -- What closes the later cycle is a cutoff day after the earlier day too.
  obtain ⟨reached, own⟩ := (closesOn_closingDay low later).1
  exact (closesOn_closingDay low day).2 ⟨order.trans reached, own⟩

/-- The day due after a closing day comes after it. -/
theorem lt_dayIn_succ {dueDay : Int} (low : 1 ≤ dueDay) (closing : Int) :
    closing < dayIn dueDay (monthOf closing + 1) := by
  apply lt_of_monthOf_lt
  rw [monthOf_dayIn low]
  omega

end Calendar

end PocketMint
