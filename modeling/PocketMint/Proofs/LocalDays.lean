import PocketMint.Domain.LocalMidnight

/-! Reporting days in zones whose clocks are changed: when a day's range is the day that clocks show. -/

namespace PocketMint

open Js Calendar Clock

/-- Whether a date has a range, and its instants are those at which the clocks show the date. -/
def ShowsDay (zone : Zone) (date : CivilDate) : Prop :=
  ∃ range, getReportingDayRange date zone = .ok range ∧
    ∀ i, (range.startInclusive ≤ i ∧ i < range.endExclusive) ↔ utcDate (i + zone.offset i) = date

/-- A time is within a day exactly when the day's date is that of the time. -/
theorem utcDate_eq_iff {shown day : Int} :
    utcDate shown = civilFromDays day ↔ day * msPerDay ≤ shown ∧ shown < (day + 1) * msPerDay := by
  rw [utcDate, civilFromDays_injective.eq_iff]
  simp only [msPerDay]
  omega

/-- A range goes from the beginning of the day to that of the day after. -/
theorem localMidnight_of_dayRange {zone : Zone} {date : CivilDate} {range : ReportingRange}
    (computed : getReportingDayRange date zone = .ok range) :
    localMidnight date zone = .ok range.startInclusive ∧
      localMidnight (addCalendarDays date 1) zone = .ok range.endExclusive := by
  -- A range is computed from the two midnights alone.
  unfold getReportingDayRange at computed
  cases first : localMidnight date zone with
  | error message => simp [first, bind, Except.bind] at computed
  | ok start =>
    cases second : localMidnight (addCalendarDays date 1) zone with
    | error message => simp [first, second, bind, Except.bind] at computed
    | ok finish =>
      simp only [first, second, bind, Except.bind, pure, Except.pure, Except.ok.injEq] at computed
      subst computed
      exact ⟨rfl, rfl⟩

/-- A real date of a four-digit year is that of a day. -/
theorem exists_day {date : CivilDate} (real : isRealCalendarDate date)
    (years : 1000 ≤ date.year ∧ date.year ≤ 9998) :
    ∃ day, date = civilFromDays day ∧ dateUTC date.year (date.month - 1) date.day = day * msPerDay ∧
      Midnightly day ∧ Midnightly (day + 1) := by
  -- A real date is the date of the day that its parts count.
  simp only [isRealCalendarDate, Bool.and_eq_true, decide_eq_true_eq] at real
  obtain ⟨-, same⟩ := real
  refine ⟨makeDay (fullYear date.year) (date.month - 1) date.day, ?_, rfl, ?_⟩
  · rw [dateUTC, utcDate_mul] at same
    exact same.symm
  · rw [dateUTC, utcDate_mul] at same
    generalize makeDay (fullYear date.year) (date.month - 1) date.day = day at *
    -- A day of these years has midnights at both ends that the bounds of the zone cover.
    subst same
    obtain ⟨_, _, _⟩ := civilFromDays_bounds day
    obtain ⟨opens, closes⟩ := monthOf_spec day
    have low : 12 * 1000 ≤ monthOf day := by
      simp only [monthOf]
      omega
    have high : monthOf day + 1 ≤ 12 * 9999 := by
      simp only [monthOf]
      omega
    have first := monthOpens_le_iff.mpr low
    have last := monthOpens_le_iff.mpr high
    constructor <;> constructor <;> omega

namespace Zone.Lawful

variable {zone : Zone} (lawful : zone.Lawful) {day : Int}

include lawful

/-- A day begins at the first instant at which the clocks show it exactly when its midnight is smooth. -/
theorem localMidnight_iff (midnightly : Midnightly day) :
    (∃ start, localMidnight (civilFromDays day) zone = .ok start ∧
        ∀ i, start ≤ i ↔ day * msPerDay ≤ i + zone.offset i) ↔
      Smooth zone.offset 3600000 (day * msPerDay) := by
  have resolved := lawful.localMidnight_eq midnightly
  -- What the search finds is the opening exactly if the offset is smooth around it.
  rw [← lawful.steady.finds_iff_smooth (by decide) (by decide), resolved]
  constructor
  · rintro ⟨start, found, starts⟩
    split at found
    · rename_i within
      obtain rfl := Except.ok.inj found
      exact ⟨within.2, starts⟩
    · cases found
  · rintro ⟨near, starts⟩
    refine ⟨_, if_pos ⟨(starts _).mp le_rfl, near⟩, starts⟩

/-- A day's range is the day that clocks show exactly when both of its midnights are smooth. -/
theorem showsDay_iff (midnightly : Midnightly day) (next : Midnightly (day + 1)) :
    ShowsDay zone (civilFromDays day) ↔
      Smooth zone.offset 3600000 (day * msPerDay) ∧ Smooth zone.offset 3600000 ((day + 1) * msPerDay) := by
  have full : firstFullDay ≤ day := by
    have earliest : firstFullDay ≤ monthOpens (12 * 1000) := by decide
    exact earliest.trans midnightly.1
  -- A day is longer than the two hours around its ends that matter.
  have wide : day * msPerDay + 2 * 3600000 < (day + 1) * msPerDay := by
    simp only [msPerDay]
    omega
  rw [← lawful.localMidnight_iff midnightly, ← lawful.localMidnight_iff next]
  -- A range shows its day exactly if each of its ends is found.
  constructor
  · rintro ⟨range, computed, shows⟩
    obtain ⟨first, second⟩ := localMidnight_of_dayRange computed
    rw [addCalendarDays_full full] at second
    simp only [utcDate_eq_iff] at shows
    obtain ⟨starts, finishes⟩ := (lawful.steady.span_iff wide).mp shows
    exact ⟨⟨_, first, starts⟩, _, second, finishes⟩
  · rintro ⟨⟨start, first, starts⟩, finish, second, finishes⟩
    refine ⟨{ startInclusive := start, endExclusive := finish }, ?_, ?_⟩
    · simp only [getReportingDayRange, addCalendarDays_full full, first, second]
      -- Conversely, the two midnights make the range.
      rfl
    · simp only [utcDate_eq_iff]
      exact (lawful.steady.span_iff wide).mpr ⟨starts, finishes⟩

end Zone.Lawful

/--
The range of a date is the day that clocks show exactly when the midnights at both of its ends are smooth.

Two ranges that follow one another meet, so ranges of such days tile the time that their dates are shown.
-/
theorem getReportingDayRange_exact_iff {zone : Zone} (lawful : zone.Lawful) {date : CivilDate}
    (real : isRealCalendarDate date) (years : 1000 ≤ date.year ∧ date.year ≤ 9998) :
    let midnight := dateUTC date.year (date.month - 1) date.day
    (ShowsDay zone date ↔
        Smooth zone.offset 3600000 midnight ∧ Smooth zone.offset 3600000 (midnight + msPerDay)) ∧
      ∀ range next, getReportingDayRange date zone = .ok range →
        getReportingDayRange (addCalendarDays date 1) zone = .ok next →
        range.endExclusive = next.startInclusive := by
  intro midnight
  -- The end of a day and the start of the next are the same search.
  constructor
  · obtain ⟨day, rfl, same, midnightly, next⟩ := exists_day real years
    have after : midnight + msPerDay = (day + 1) * msPerDay := by
      rw [show midnight = _ from same, add_mul, one_mul]
    rw [after, show midnight = _ from same]
    exact lawful.showsDay_iff midnightly next
  · intro range next computed computed'
    have finish := (localMidnight_of_dayRange computed).2
    have start := (localMidnight_of_dayRange computed').1
    exact Except.ok.inj (finish.symm.trans start)

/-- A zone whose clocks are changed once, from one number of minutes to another. -/
def changedOnce (name : String) (change : Instant) (before after : Int) : Zone :=
  { name, offset := fun i => if i < change then before * 60000 else after * 60000 }

/-- Its clocks are changed at no other instant. -/
theorem changedOnce_alone {name : String} {change : Int} {before after : Int} {i : Int}
    (changes : ChangesAt (changedOnce name change before after).offset i) : i = change := by
  have offset : ∀ i : Int, (changedOnce name change before after).offset i =
      if i < change then before * 60000 else after * 60000 := fun _ => rfl
  by_contra elsewhere
  refine changes ?_
  rw [offset, offset]
  split <;> split <;> omega

/-- A single change of at most two hours makes a lawful zone. -/
theorem changedOnce_lawful {name : String} {change : Int} {before after : Int}
    (low : -900 ≤ before ∧ -900 ≤ after) (high : before ≤ 900 ∧ after ≤ 900)
    (small : after - before ≤ 120 ∧ before - after ≤ 120) :
    (changedOnce name change before after).Lawful := by
  -- The offset is a constant before the change and another one after it.
  have offset : ∀ i : Int, (changedOnce name change before after).offset i =
      if i < change then before * 60000 else after * 60000 := fun _ => rfl
  -- Two changes cannot follow each other, since there is only one.
  constructor
  · intro i
    rw [offset]
    split <;> omega
  · constructor
    · intro i
      rw [offset]
      split <;> omega
    · intro i
      rw [offset]
      split <;> omega
    · intro i
      rw [offset, offset]
      split <;> split <;> omega
    · intro first second changes changes' order
      rw [changedOnce_alone changes, changedOnce_alone changes'] at order
      exact absurd order (lt_irrefl _)

/-- The clocks of New York in 2026, up to the change back. -/
def newYork : Zone := changedOnce "America/New_York" 1772953200000 (-300) (-240)

/-- The day of 23 hours on which New York's clocks go forward has the range that the clocks show. -/
theorem getReportingDayRange_exact_spring : ShowsDay newYork { year := 2026, month := 3, day := 8 } := by
  have lawful : newYork.Lawful := changedOnce_lawful (by decide) (by decide) (by decide)
  have smooth : ∀ target : Int, target = 1772928000000 ∨ target = 1773014400000 →
      Smooth newYork.offset 3600000 target := by
    -- The clocks go from two to three, well after the one midnight and before the other.
    intro target either change changes
    obtain rfl := changedOnce_alone changes
    rcases either with rfl | rfl
    · exact .inl (by decide)
    · exact .inr (.inl (by decide))
  exact ((getReportingDayRange_exact_iff lawful (by decide) (by decide)).1).mpr
    ⟨smooth _ (.inl (by decide)), smooth _ (.inr (by decide))⟩

/-- The clocks of Sao Paulo in 2018, from the change forward at midnight on. -/
def saoPaulo : Zone := changedOnce "America/Sao_Paulo" 1541300400000 (-180) (-120)

/-- The day that begins with a gap is shown at its noon, and its range is refused. -/
theorem getReportingDayRange_refuses_gap :
    let date : CivilDate := { year := 2018, month := 11, day := 4 }
    saoPaulo.Lawful ∧ utcDate (1541340000000 + saoPaulo.offset 1541340000000) = date ∧
      getReportingDayRange date saoPaulo =
        .error "Unable to resolve reporting day in America/Sao_Paulo" ∧
      ¬ShowsDay saoPaulo date := by
  intro date
  have refused : getReportingDayRange date saoPaulo =
      .error "Unable to resolve reporting day in America/Sao_Paulo" := by decide
  refine ⟨changedOnce_lawful (by decide) (by decide) (by decide), by decide, refused, ?_⟩
  rintro ⟨range, computed, -⟩
  rw [refused] at computed
  cases computed

end PocketMint
