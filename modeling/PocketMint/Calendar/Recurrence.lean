import PocketMint.Calendar.Months

/-! Monthly recurrences: the same day of each month, or the last day of a month that is shorter. -/

namespace PocketMint

namespace Calendar

/-- The day of a month that stands for a start's day of its month. -/
def clampedDay (start month : Int) : Int :=
  monthOpens month + min (start - monthOpens (monthOf start)) (monthLength month - 1)

/-- The occurrence so many months after the start. -/
def monthlyDay (start : Int) (months : Int) : Int := clampedDay start (monthOf start + months)

/-- The first occurrence on or after a day. -/
def nextMonthly (start today : Int) : Int :=
  if today < start then start
  else if clampedDay start (monthOf today) < today then clampedDay start (monthOf today + 1)
  else clampedDay start (monthOf today)

/-- The day of the month a start counts from is one that some month has. -/
theorem start_offset (start : Int) :
    0 ≤ start - monthOpens (monthOf start) ∧
      start - monthOpens (monthOf start) < monthLength (monthOf start) := by
  have spec := monthOf_spec start
  have next := monthOpens_succ (monthOf start)
  omega

/-- A clamped day falls in its month. -/
theorem monthOf_clampedDay (start month : Int) : monthOf (clampedDay start month) = month := by
  -- The day is clamped to the length of its month.
  obtain ⟨low, _⟩ := start_offset start
  have length := monthLength_bounds month
  have next := monthOpens_succ month
  rw [monthOf_eq_iff, clampedDay]
  omega

/-- In its own month, the start stands for itself. -/
theorem clampedDay_monthOf (start : Int) : clampedDay start (monthOf start) = start := by
  obtain ⟨_, high⟩ := start_offset start
  rw [clampedDay]
  omega

@[simp] theorem monthlyDay_zero (start : Int) : monthlyDay start 0 = start := by
  rw [monthlyDay, Int.add_zero, clampedDay_monthOf]

/-- Occurrences are at least four weeks apart, across short months and clamped days too. -/
theorem clampedDay_gap (start month : Int) :
    clampedDay start month + 28 ≤ clampedDay start (month + 1) := by
  -- A day that is clamped lies beyond the 28th, so the month after it holds as many days before it.
  obtain ⟨low, _⟩ := start_offset start
  have length := monthLength_bounds month
  have length' := monthLength_bounds (month + 1)
  have next := monthOpens_succ month
  rw [clampedDay, clampedDay]
  omega

/-- Occurrences of later months are later. -/
theorem clampedDay_le {start month later : Int} (order : month ≤ later) :
    clampedDay start month ≤ clampedDay start later := by
  obtain ⟨more, rfl⟩ := Int.le.dest order
  -- From one month to the next the day grows, whatever it is clamped to.
  induction more with
  | zero => simp
  | succ more ih =>
    have gap := clampedDay_gap start (month + more)
    have earlier := ih (by omega)
    push_cast
    rw [← Int.add_assoc]
    omega

/-- The next occurrence is one of the start's, on or after the day. -/
theorem nextMonthly_mem (start today : Int) :
    ∃ months : Nat, nextMonthly start today = monthlyDay start months := by
  -- From the start on, the month of the day is as many months after the start's.
  unfold nextMonthly
  by_cases early : today < start
  · exact ⟨0, by rw [if_pos early]; simp⟩
  · have order : monthOf start ≤ monthOf today := by
      by_contra later
      have := lt_of_monthOf_lt (not_le.mp later)
      omega
    rw [if_neg early]
    split
    -- The occurrence of this month has passed, so the next one is meant.
    · refine ⟨(monthOf today + 1 - monthOf start).toNat, ?_⟩
      rw [monthlyDay]
      congr 1
      omega
    -- The occurrence of this month is still to come.
    · refine ⟨(monthOf today - monthOf start).toNat, ?_⟩
      rw [monthlyDay]
      congr 1
      omega

theorem le_nextMonthly (start today : Int) : today ≤ nextMonthly start today := by
  -- The occurrence of this month is taken unless it has passed, and then that of the next.
  unfold nextMonthly
  split
  · omega
  · split
    · -- The month after opens after the day.
      have closes := (monthOf_spec today).2
      obtain ⟨low, _⟩ := start_offset start
      have length := monthLength_bounds (monthOf today + 1)
      simp only [clampedDay]
      omega
    · omega

/-- No occurrence on or after the day comes before the next one. -/
theorem nextMonthly_le {start today : Int} {months : Nat} (due : today ≤ monthlyDay start months) :
    nextMonthly start today ≤ monthlyDay start months := by
  unfold nextMonthly
  -- Before the start, the next occurrence is the start itself.
  split
  · have first : clampedDay start (monthOf start) ≤ monthlyDay start months := clampedDay_le (by omega)
    rwa [clampedDay_monthOf] at first
  · -- An occurrence on or after the day is in the day's month or a later one.
    have reached : monthOf today ≤ monthOf start + months := by
      by_contra earlier
      have before : monthOf (monthlyDay start months) < monthOf today := by
        rw [monthlyDay, monthOf_clampedDay]
        omega
      have := lt_of_monthOf_lt before
      omega
    split
    · rename_i passed
      -- The occurrence of the day's own month has passed already.
      have beyond : monthOf today + 1 ≤ monthOf start + months := by
        by_contra same
        have here : monthOf start + months = monthOf today := by omega
        rw [monthlyDay, here] at due
        omega
      exact clampedDay_le beyond
    · exact clampedDay_le reached

/-- With a lead of less than four weeks, the next occurrence is the only one that can be led up to. -/
theorem nextMonthly_sub_eq_iff {start today lead : Int} (low : 0 ≤ lead) (high : lead < 28) :
    nextMonthly start today - lead = today ↔ ∃ months : Nat, monthlyDay start months - lead = today := by
  constructor
  · intro due
    obtain ⟨months, same⟩ := nextMonthly_mem start today
    exact ⟨months, same ▸ due⟩
  · rintro ⟨months, due⟩
    -- An earlier occurrence on or after the day would be within four weeks of this one.
    have upper : nextMonthly start today ≤ monthlyDay start months := nextMonthly_le (by omega)
    have lower := le_nextMonthly start today
    obtain ⟨other, same⟩ := nextMonthly_mem start today
    by_contra apart
    have order : monthOf start + other < monthOf start + months := by
      by_contra later
      have reached : monthlyDay start months ≤ monthlyDay start other := clampedDay_le (not_lt.mp later)
      omega
    have gap := clampedDay_gap start (monthOf start + other)
    have rest : clampedDay start (monthOf start + other + 1) ≤ monthlyDay start months :=
      clampedDay_le (by omega)
    simp only [monthlyDay] at *
    omega

end Calendar

end PocketMint
