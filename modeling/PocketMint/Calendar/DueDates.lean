import PocketMint.Calendar.Recurrence

/-! A day of each month, and what becomes of it when each month's is counted from the one before. -/

namespace PocketMint

namespace Calendar

/-- The given day of a month, or the month's last day when it is shorter. -/
def dayIn (dueDay month : Int) : Int := monthOpens month + min dueDay (monthLength month) - 1

/-- A day counted from month to month, starting in a month with the given day. -/
def countedDay (dueDay first : Int) : Nat → Int
  | 0 => dayIn dueDay first
  | months + 1 =>
    clampedDay (countedDay dueDay first months) (monthOf (countedDay dueDay first months) + 1)

/-- What is left of a day after the months that it was counted through. -/
def shortestDay (dueDay first : Int) : Nat → Int
  | 0 => dueDay
  | months + 1 => min (shortestDay dueDay first months) (monthLength (first + months))

/-- The day of a month falls in the month. -/
theorem monthOf_dayIn {dueDay : Int} (low : 1 ≤ dueDay) (month : Int) :
    monthOf (dayIn dueDay month) = month := by
  -- The day is cut to the length of the month, so it stays in the month.
  have length := monthLength_bounds month
  have next := monthOpens_succ month
  rw [monthOf_eq_iff, dayIn]
  omega

/-- Clamping a month's day forgets the days by which it was cut already. -/
theorem clampedDay_dayIn {dueDay : Int} (low : 1 ≤ dueDay) (month later : Int) :
    clampedDay (dayIn dueDay month) later = dayIn (min dueDay (monthLength month)) later := by
  rw [clampedDay, monthOf_dayIn low, dayIn, dayIn]
  omega

/-- A day counted through months is never shorter than its days in these, nor before the first. -/
theorem le_shortestDay_iff {dueDay first bound : Int} {months : Nat} :
    bound ≤ shortestDay dueDay first months ↔
      bound ≤ dueDay ∧ ∀ earlier : Nat, earlier < months → bound ≤ monthLength (first + earlier) := by
  -- Each month that is counted through adds one bound.
  induction months with
  | zero => simp [shortestDay]
  | succ months ih =>
    rw [shortestDay, Int.le_min, ih]
    constructor
    · intro bounds
      rcases bounds with ⟨⟨day, before⟩, last⟩
      refine ⟨day, ?_⟩
      intro earlier within
      rcases Nat.lt_succ_iff_lt_or_eq.mp within with before_ | rfl
      · exact before earlier before_
      · exact last
    · intro bounds
      rcases bounds with ⟨day, all⟩
      refine ⟨⟨day, ?_⟩, all months (Nat.lt_succ_self months)⟩
      intro earlier within
      exact all earlier (Nat.lt_succ_of_lt within)

/-- A day counted through months is that of its month, cut by the shortest month before it. -/
theorem countedDay_eq {dueDay : Int} (low : 1 ≤ dueDay) (first : Int) (months : Nat) :
    1 ≤ shortestDay dueDay first months ∧
      countedDay dueDay first months = dayIn (shortestDay dueDay first months) (first + months) := by
  -- The induction carries that no month is so short as to leave no day.
  induction months with
  | zero => exact ⟨low, by simp [countedDay, shortestDay]⟩
  | succ months ih =>
    rcases ih with ⟨positive, counted⟩
    have length := monthLength_bounds (first + months)
    have place : first + ((months + 1 : Nat) : Int) = first + months + 1 := by
      push_cast
      omega
    refine ⟨?_, ?_⟩
    · rw [shortestDay]
      omega
    · rw [countedDay, counted, monthOf_dayIn positive, clampedDay_dayIn positive, shortestDay, place]

theorem monthOf_countedDay {dueDay : Int} (low : 1 ≤ dueDay) (first : Int) (months : Nat) :
    monthOf (countedDay dueDay first months) = first + months := by
  rcases countedDay_eq low first months with ⟨positive, counted⟩
  rw [counted, monthOf_dayIn positive]

/-- A counted day is its month's own when no month before it was shorter than that. -/
theorem countedDay_eq_dayIn_iff {dueDay : Int} (low : 1 ≤ dueDay) (first : Int) (months : Nat) :
    countedDay dueDay first months = dayIn dueDay (first + months) ↔
      ∀ earlier : Nat, earlier < months →
        min dueDay (monthLength (first + months)) ≤ monthLength (first + earlier) := by
  -- The day is only ever cut, so it suffices that it was not cut below the month's own.
  have cut : shortestDay dueDay first months ≤ dueDay := (le_shortestDay_iff.mp (le_refl _)).1
  have kept : min dueDay (monthLength (first + months)) ≤ shortestDay dueDay first months ↔
      ∀ earlier : Nat, earlier < months →
        min dueDay (monthLength (first + months)) ≤ monthLength (first + earlier) := by
    rw [le_shortestDay_iff]
    exact and_iff_right (min_le_left _ _)
  rw [(countedDay_eq low first months).2, ← kept, dayIn, dayIn]
  omega

/-- The day of a term, counted from month to month, starting on a day. -/
def termDay (first : Int) : Nat → Int := countedDay (first - monthOpens (monthOf first) + 1) (monthOf first)

@[simp] theorem termDay_zero (first : Int) : termDay first 0 = first := by
  have offset := start_offset first
  rw [termDay, countedDay, dayIn]
  omega

theorem termDay_succ (first : Int) (terms : Nat) :
    termDay first (terms + 1) = clampedDay (termDay first terms) (monthOf (termDay first terms) + 1) := rfl

/-- The days of later terms are later, by four weeks for each month in between. -/
theorem termDay_lt (first : Int) {terms later : Nat} (order : terms < later) :
    termDay first terms + 28 ≤ termDay first later := by
  -- The induction is on the months in between, each of which is a step of the count.
  have next : ∀ terms, termDay first terms + 28 ≤ termDay first (terms + 1) := by
    intro terms
    have gap := clampedDay_gap (termDay first terms) (monthOf (termDay first terms))
    rw [clampedDay_monthOf] at gap
    rw [termDay_succ]
    exact gap
  obtain ⟨more, rfl⟩ := Nat.exists_eq_add_of_lt order
  -- The days of later terms are further away still.
  induction more with
  | zero => exact next terms
  | succ more ih =>
    have earlier := ih (by omega)
    have further := next (terms + more + 1)
    rw [show terms + (more + 1) + 1 = terms + more + 1 + 1 by omega]
    omega

end Calendar

end PocketMint
