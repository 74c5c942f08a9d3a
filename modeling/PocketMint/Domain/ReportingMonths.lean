import PocketMint.Calendar.Months
import PocketMint.Domain.ReportingDays

/-! Which reporting months of a zone with a fixed offset have a range, and how the ranges tile time. -/

namespace PocketMint

open Js Calendar

/-- The place of a month in the count of months from January of year zero. -/
def CalendarMonth.index (value : CalendarMonth) : Int := value.year * 12 + (value.month - 1)

/-- The month at a place of the count. -/
def calendarMonthAt (index : Int) : CalendarMonth := { year := index / 12, month := index % 12 + 1 }

/-- Whether a month is one of the twelve. -/
def CalendarMonth.Valid (value : CalendarMonth) : Prop := 1 ≤ value.month ∧ value.month ≤ 12

@[simp] theorem index_calendarMonthAt (index : Int) : (calendarMonthAt index).index = index := by
  simp only [CalendarMonth.index, calendarMonthAt]
  omega

theorem calendarMonthAt_valid (index : Int) : (calendarMonthAt index).Valid := by
  simp only [CalendarMonth.Valid, calendarMonthAt]
  omega

theorem calendarMonthAt_index {value : CalendarMonth} (valid : value.Valid) :
    calendarMonthAt value.index = value := by
  obtain ⟨low, high⟩ := valid
  -- The count divides by twelve, and the month lies in one to twelve, so both parts come back.
  cases value
  simp only [CalendarMonth.index, calendarMonthAt, CalendarMonth.mk.injEq] at *
  omega

/-- The first day of a month, as a date. -/
theorem civilFromDays_monthOpens (month : Int) :
    civilFromDays (monthOpens month) = { year := month / 12, month := month % 12 + 1, day := 1 } := by
  -- The month opens on the first of its days.
  rw [civilFromDays_eq le_rfl (monthOpens_lt_iff.mpr (by omega))]
  simp

/-- The first date of a month is that of the day on which it opens. -/
theorem CalendarMonth.Valid.first_eq {value : CalendarMonth} (valid : value.Valid) :
    (⟨value.year, value.month, 1⟩ : CivilDate) = civilFromDays (monthOpens value.index) := by
  obtain ⟨low, high⟩ := valid
  rw [civilFromDays_monthOpens, CalendarMonth.index, CivilDate.mk.injEq]
  omega

/-- A month that is written is read as the beginning of the day on which it opens. -/
theorem parseReportingAnchor_month {text : String} {value : CalendarMonth} (valid : value.Valid)
    (written : matchMonth text = some (value.year, value.month)) (zone : Zone) (now : Instant) :
    parseReportingAnchor (some text) zone now =
      localMidnight (civilFromDays (monthOpens value.index)) zone := by
  -- The year and the month that are read form a month, so the parser raises no error.
  have notOut : ¬(value.month < 1 ∨ 12 < value.month) := by
    obtain ⟨low, high⟩ := valid
    omega
  simp only [parseReportingAnchor, written, if_neg notOut, valid.first_eq]

/-- The beginning of a day is what the correction comes to, and shows the day's date. -/
theorem localMidnight_ok {value : CivilDate} {zone : Zone} {start : Instant}
    (resolved : localMidnight value zone = .ok start) :
    isRealCalendarDate value = true ∧
      resolveCandidate (dateUTC value.year (value.month - 1) value.day) zone 4
        (dateUTC value.year (value.month - 1) value.day) = .ok start ∧
      calendarDateFromInstant start zone = value := by
  unfold localMidnight at resolved
  -- Only a day of the calendar is resolved at all.
  cases real : isRealCalendarDate value with
  | false => simp [real, bind, Except.bind, throw, throwThe, MonadExceptOf.throw] at resolved
  | true =>
    -- The candidate instant is the one that four corrections of the offset settle on.
    cases candidate : resolveCandidate (dateUTC value.year (value.month - 1) value.day) zone 4
        (dateUTC value.year (value.month - 1) value.day) with
    | error message => simp [real, candidate, bind, Except.bind] at resolved
    | ok instant =>
      -- Neither of the last two checks has failed.
      simp only [real, candidate, Bool.not_true, Bool.false_eq_true, if_false, bind, Except.bind, pure,
        Except.pure] at resolved
      split at resolved
      · cases resolved
      · split at resolved
        · cases resolved
        -- The instant shows the day that was asked for, with the same year, month and day.
        · rename_i shown
          obtain rfl := Except.ok.inj resolved
          simp only [not_or, not_not] at shown
          refine ⟨rfl, rfl, ?_⟩
          rw [calendarDateFromInstant, shown.1, shown.2.1, shown.2.2.1]

/-- A day that begins is in a year that is shown as it is. -/
theorem year_of_localMidnight {value : CivilDate} {zone : Zone} {start : Instant}
    (resolved : localMidnight value zone = .ok start) : 1 ≤ value.year := by
  -- The year that is shown at the beginning is positive, and it is the date's.
  rw [← (localMidnight_ok resolved).2.2, calendarDateFromInstant, formatToParts]
  simp only
  split <;> omega

namespace FixedZone

variable (fixed : FixedZone)

/-- The instants of a month. -/
def monthRange (month : Int) : ReportingRange :=
  { startInclusive := fixed.midnight (monthOpens month)
    endExclusive := fixed.midnight (monthOpens (month + 1)) }

/-- A month whose first day and whose next month's first day are found by the correction. -/
def MonthResolves (month : Int) : Prop :=
  fixed.Resolves (monthOpens month) ∧ fixed.Resolves (monthOpens (month + 1))

/-- The range of a month, from the first days of two months. -/
theorem getReportingMonthRange_eq {value : CalendarMonth} (valid : value.Valid) :
    getReportingMonthRange value fixed.zone =
      (do
        let startInclusive ← localMidnight (civilFromDays (monthOpens value.index)) fixed.zone
        let endExclusive ← localMidnight (civilFromDays (monthOpens (value.index + 1))) fixed.zone
        return { startInclusive, endExclusive }) := by
  -- December is followed by January of the next year, which the count does not single out.
  -- Both openings are the first days of their months.
  have first := valid.first_eq
  obtain ⟨low, high⟩ := valid
  have notLow : ¬(value.month < 1 ∨ 12 < value.month) := by omega
  have next : (⟨(if value.month = 12 then ⟨value.year + 1, 1⟩ else ⟨value.year, value.month + 1⟩ :
        CalendarMonth).year,
      (if value.month = 12 then ⟨value.year + 1, 1⟩ else ⟨value.year, value.month + 1⟩ :
        CalendarMonth).month, 1⟩ : CivilDate) = civilFromDays (monthOpens (value.index + 1)) := by
    rw [civilFromDays_monthOpens, CalendarMonth.index]
    rw [CivilDate.mk.injEq]
    refine ⟨?_, ?_, rfl⟩
    · split <;>
      · dsimp only
        omega
    · split <;>
      · dsimp only
        omega
  simp only [getReportingMonthRange, if_neg notLow, first, next]

/-- A month that resolves has the range between its own opening and that of the next. -/
theorem getReportingMonthRange_resolves {value : CalendarMonth} (valid : value.Valid)
    (resolves : fixed.MonthResolves value.index) :
    getReportingMonthRange value fixed.zone = .ok (fixed.monthRange value.index) := by
  rw [fixed.getReportingMonthRange_eq valid, fixed.localMidnight_resolves resolves.1,
    fixed.localMidnight_resolves resolves.2]
  rfl

/-- A day that is resolved, and opens a month, resolves to its midnight. -/
theorem resolves_of_localMidnight {day : Int} {start : Instant}
    (resolved : localMidnight (civilFromDays day) fixed.zone = .ok start) : fixed.Resolves day := by
  -- A day that does not resolve is refused, unless its year is before the common era.
  by_contra refused
  have year := year_of_localMidnight resolved
  obtain ⟨message, failed⟩ := fixed.localMidnight_refuses (by omega) refused
  rw [failed] at resolved
  cases resolved

/-- A month has a range only when it resolves. -/
theorem monthResolves_of_range {value : CalendarMonth} {range : ReportingRange}
    (computed : getReportingMonthRange value fixed.zone = .ok range) :
    value.Valid ∧ fixed.MonthResolves value.index ∧ range = fixed.monthRange value.index := by
  -- A month that is none of the twelve is refused, and both openings must resolve.
  have valid : value.Valid := by
    by_contra invalid
    have out : value.month < 1 ∨ 12 < value.month := by
      simp only [CalendarMonth.Valid] at invalid
      omega
    simp [getReportingMonthRange, out, bind, Except.bind, throw, throwThe, MonadExceptOf.throw] at computed
  refine ⟨valid, ?_⟩
  -- The range is refused when either midnight is.
  have both := computed
  rw [fixed.getReportingMonthRange_eq valid] at both
  cases first : localMidnight (civilFromDays (monthOpens value.index)) fixed.zone with
  | error message => simp [first, bind, Except.bind] at both
  | ok start =>
    cases next : localMidnight (civilFromDays (monthOpens (value.index + 1))) fixed.zone with
    | error message => simp [first, next, bind, Except.bind] at both
    | ok finish =>
      -- Both midnights resolved, so the month does, and its range is the one that was computed.
      have resolves : fixed.MonthResolves value.index :=
        ⟨fixed.resolves_of_localMidnight first, fixed.resolves_of_localMidnight next⟩
      rw [fixed.getReportingMonthRange_resolves valid resolves, Except.ok.injEq] at computed
      exact ⟨resolves, computed.symm⟩

/-- The months of the years 101 to 9999 and more resolve. -/
theorem monthResolves_of_bounds {month : Int} (low : 12 * 101 ≤ month) (high : month ≤ 12 * 200000) :
    fixed.MonthResolves month := by
  -- Their days are farther from either end of the calendar than any offset reaches.
  have opens : ∀ month : Int, 12 * 101 ≤ month → month ≤ 12 * 200000 + 1 →
      fixed.Resolves (monthOpens month) := by
    intro month low high
    have first : monthOpens (12 * 101) ≤ monthOpens month := monthOpens_le_iff.mpr low
    have last : monthOpens month ≤ monthOpens (12 * 200000 + 1) := monthOpens_le_iff.mpr high
    have earliest : firstFullDay < monthOpens (12 * 101) := by decide
    have latest : monthOpens (12 * 200000 + 1) * msPerDay + msPerDay ≤ maxTime := by decide
    -- An offset is less than a day, and the bounds leave more than a day on each side.
    have bounds := fixed.shift_bounds
    constructor
    · omega
    · omega
    · simp only [msPerDay] at *
      omega
    · simp only [midnight, msPerDay] at *
      omega
  exact ⟨opens month low (by omega), opens (month + 1) (by omega) (by omega)⟩

/-- A day of the years 1000 to 9999 resolves. -/
theorem resolves_of_monthOf {day : Int} (low : 12 * 1000 ≤ monthOf day) (high : monthOf day < 12 * 10000) :
    fixed.Resolves day := by
  -- The day is not before its month opens, and before the next one does.
  have spec := monthOf_spec day
  have first : fixed.Resolves (monthOpens (12 * 1000)) :=
    (fixed.monthResolves_of_bounds (by decide) (by decide)).1
  have last : fixed.Resolves (monthOpens (12 * 10000)) :=
    (fixed.monthResolves_of_bounds (by decide) (by decide)).1
  -- The day lies between the first month that resolves and the last.
  refine first.between last ?_ ?_
  · exact (monthOpens_le_iff.mpr low).trans spec.1
  · exact spec.2.le.trans (monthOpens_le_iff.mpr (by omega))

/-- From the first full day on, the calendar shows the date of the day. -/
theorem formatReportingDate_full {instant : Int} (full : firstFullDay ≤ fixed.dayOf instant) :
    formatReportingDate instant fixed.zone = formatCalendarDate (civilFromDays (fixed.dayOf instant)) := by
  rw [formatReportingDate, fixed.calendarDate_full full]

/-- The month that the zone's calendar is in at an instant. -/
def monthAt (instant : Int) : Int := monthOf (fixed.dayOf instant)

/-- Whether an instant lies in the range of a month. -/
def InMonth (month instant : Int) : Prop :=
  fixed.midnight (monthOpens month) ≤ instant ∧ instant < fixed.midnight (monthOpens (month + 1))

/-- An instant lies in the range of the month that the calendar is in, and in no other's. -/
theorem inMonth_iff {month instant : Int} : fixed.InMonth month instant ↔ fixed.monthAt instant = month := by
  rw [monthAt, monthOf_eq_iff]
  simp only [InMonth, midnight, dayOf, msPerDay]
  omega

end FixedZone

end PocketMint
