import PocketMint.Calendar.DueDates
import PocketMint.Domain.BillingCycleLaws
import PocketMint.Domain.ReportingMonths

/-! The openings of days in any zone: the dates that they show, and the dates of bills that are read there. -/

namespace PocketMint

open Js Calendar BillingCycle

/-- A zone whose clocks are less than a day ahead of UTC, or behind it. -/
structure Zone.WithinDay (zone : Zone) : Prop where
  low : ∀ i, -msPerDay < zone.offset i
  high : ∀ i, zone.offset i < msPerDay

theorem FixedZone.withinDay (fixed : FixedZone) : fixed.zone.WithinDay :=
  ⟨fun _ => fixed.shift_bounds.1, fun _ => fixed.shift_bounds.2.1⟩

/-- The shown parts stand for what the clock shows, without the part of a second. -/
theorem representedInstant_near {zone : Zone} {candidate : Int}
    (full : firstFullDay ≤ (candidate + zone.offset candidate) / msPerDay) :
    candidate + zone.offset candidate ≥ representedInstant (formatToParts candidate zone) ∧
      candidate + zone.offset candidate < representedInstant (formatToParts candidate zone) + 1000 := by
  -- The parts put the shown day and the shown time of day back together, less the milliseconds.
  have parts : representedInstant (formatToParts candidate zone) =
      shownDay ((candidate + zone.offset candidate) / msPerDay) * msPerDay +
        (candidate + zone.offset candidate) % msPerDay / 3600000 * 3600000 +
        (candidate + zone.offset candidate) % msPerDay / 60000 % 60 * 60000 +
        (candidate + zone.offset candidate) % msPerDay / 1000 % 60 * 1000 := rfl
  -- Hours, minutes and seconds lose less than a second of the time of day.
  have time : ∀ shown : Int,
      shown / msPerDay * msPerDay + shown % msPerDay / 3600000 * 3600000 +
          shown % msPerDay / 60000 % 60 * 60000 + shown % msPerDay / 1000 % 60 * 1000 ≤ shown ∧
        shown < shown / msPerDay * msPerDay + shown % msPerDay / 3600000 * 3600000 +
          shown % msPerDay / 60000 % 60 * 60000 + shown % msPerDay / 1000 % 60 * 1000 + 1000 := by
    simp only [msPerDay]
    omega
  rw [parts, shownDay_full full]
  exact time _

namespace Zone.WithinDay

variable {zone : Zone} (within : zone.WithinDay) {day candidate start : Int}

include within

/-- The rounds of the correction stay within a day, and a second, of a target from the year 1000 on. -/
theorem resolveCandidate_near (later : firstFullDay + 4 ≤ day) {rounds : Nat}
    (near : day * msPerDay - msPerDay - 1000 ≤ candidate ∧ candidate ≤ day * msPerDay + msPerDay + 1000)
    (resolved : resolveCandidate (day * msPerDay) zone rounds candidate = .ok start) :
    day * msPerDay - msPerDay - 1000 ≤ start ∧ start ≤ day * msPerDay + msPerDay + 1000 := by
  -- The candidate stays near the day in every round, so the induction is over the rounds left.
  induction rounds generalizing candidate with
  | zero =>
    obtain rfl := Except.ok.inj resolved
    exact near
  | succ rounds ih =>
    rw [resolveCandidate_succ] at resolved
    split at resolved
    · cases resolved
    · -- A zone is at most a day off, which keeps the next candidate in the same bounds.
      have low := within.low candidate
      have high := within.high candidate
      have full : firstFullDay ≤ (candidate + zone.offset candidate) / msPerDay := by
        simp only [msPerDay] at *
        omega
      have shown := representedInstant_near full
      simp only at resolved
      split at resolved
      · obtain rfl := Except.ok.inj resolved
        exact near
      · exact ih (by omega) resolved

/-- A day from the year 1000 on begins within a day, and a second, of its midnight in UTC. -/
theorem localMidnight_near (later : firstFullDay + 4 ≤ day)
    (resolved : localMidnight (civilFromDays day) zone = .ok start) :
    day * msPerDay - msPerDay - 1000 ≤ start ∧ start ≤ day * msPerDay + msPerDay + 1000 := by
  -- The search starts from the day's own number of milliseconds.
  have found := (localMidnight_ok resolved).2.1
  rw [dateUTC_full (by omega)] at found
  refine within.resolveCandidate_near later ?_ found
  simp only [msPerDay]
  omega

/-- A day that comes days later begins later. -/
theorem localMidnight_lt {next start' : Int} (first : firstFullDay + 4 ≤ day) (later : day + 4 ≤ next)
    (resolved : localMidnight (civilFromDays day) zone = .ok start)
    (resolved' : localMidnight (civilFromDays next) zone = .ok start') : start < start' := by
  -- Two days that are four days apart leave no room for both to be near one instant.
  have near := within.localMidnight_near first resolved
  have near' := within.localMidnight_near (by omega) resolved'
  simp only [msPerDay] at *
  omega

end Zone.WithinDay

/-! Dates as texts: what is written of an instant, and read back. -/

/-- A written number is digits, perhaps behind a sign. -/
theorem digit_of_toString {value : Int} {char : Char} (among : char ∈ (toString value).toList) :
    char.isDigit = true ∨ char = '-' := by
  -- A negative number is written as a sign and digits.
  cases value with
  | ofNat n =>
    rw [show Int.ofNat n = (n : Int) from rfl, toList_toString_ofNat] at among
    exact .inl (Nat.isDigit_of_mem_toDigits (by decide) (by decide) among)
  | negSucc n =>
    rw [toList_toString_negSucc] at among
    rcases List.mem_cons.mp among with sign | digit
    · exact .inr sign
    · exact .inl (Nat.isDigit_of_mem_toDigits (by decide) (by decide) digit)

/-- A written date is digits, dashes, and perhaps a sign. -/
theorem digit_of_format {date : CivilDate} (month : 0 ≤ date.month ∧ date.month ≤ 99)
    (day : 0 ≤ date.day ∧ date.day ≤ 99) {char : Char} (among : char ∈ (formatCalendarDate date).toList) :
    char.isDigit = true ∨ char = '-' := by
  -- The year is a number, and the others are single digits with dashes between them.
  rw [toList_formatCalendarDate_year month day] at among
  simp only [List.mem_append, List.mem_cons, List.not_mem_nil, or_false] at among
  rcases among with year | dash | tens | ones | dash | tens | ones
  · exact digit_of_toString year
  · exact .inr dash
  · exact .inl (tens ▸ (isDigit_digitOf (by omega) (by omega)).1)
  · exact .inl (ones ▸ (isDigit_digitOf (by omega) (by omega)).1)
  · exact .inr dash
  · exact .inl (tens ▸ (isDigit_digitOf (by omega) (by omega)).1)
  · exact .inl (ones ▸ (isDigit_digitOf (by omega) (by omega)).1)

/-- No written date is a timestamp, which has a `T` behind its date. -/
theorem hasExplicitOffset_format {date : CivilDate} (month : 0 ≤ date.month ∧ date.month ≤ 99)
    (day : 0 ≤ date.day ∧ date.day ≤ 99) : hasExplicitOffset (formatCalendarDate date) = false := by
  unfold hasExplicitOffset
  split
  · rename_i separator rest listed
    have among : separator ∈ (formatCalendarDate date).toList := by
      rw [listed]
      simp
    -- The text of a date holds digits and dashes alone, so no letter separates a time.
    have letter : ¬(separator = 'T' ∨ separator = 't') := by
      rintro (rfl | rfl)
      · rcases digit_of_format month day among with digit | dash
        · exact absurd digit (by decide)
        · exact absurd dash (by decide)
      · rcases digit_of_format month day among with digit | dash
        · exact absurd digit (by decide)
        · exact absurd dash (by decide)
    simp only [not_or] at letter
    simp [letter.1, letter.2]
  · rfl

/-- The day that is shown at an instant. -/
def Zone.shown (zone : Zone) (instant : Instant) : Int := daysFromCivil (calendarDateFromInstant instant zone)

/-- An instant whose date is one of the calendar, with a year of four digits. -/
structure Zone.Dates (zone : Zone) (instant : Instant) : Prop where
  written : FourDigit (zone.shown instant)
  real : calendarDateFromInstant instant zone = civilFromDays (zone.shown instant)

theorem Zone.dates_of {zone : Zone} {instant : Instant} {day : Int} (written : FourDigit day)
    (date : calendarDateFromInstant instant zone = civilFromDays day) :
    zone.shown instant = day ∧ zone.Dates instant := by
  have same : zone.shown instant = day := by
    rw [Zone.shown, date, daysFromCivil_civilFromDays]
  exact ⟨same, by rwa [same], by rwa [same]⟩

/-- At the beginning of a day, the day is shown. -/
theorem shown_localMidnight {zone : Zone} {day : Int} {start : Instant} (written : FourDigit day)
    (resolved : localMidnight (civilFromDays day) zone = .ok start) :
    zone.shown start = day ∧ zone.Dates start :=
  Zone.dates_of written (localMidnight_ok resolved).2.2

/-- A date whose text is read as a business date is real, and read as the beginning of the day. -/
theorem parseBusinessDate_format {date : CivilDate} {zone : Zone} {now start : Instant}
    (month : 0 ≤ date.month ∧ date.month ≤ 99) (day : 0 ≤ date.day ∧ date.day ≤ 99)
    (parsed : parseBusinessDate (some (formatCalendarDate date)) zone now = .ok start) :
    date.Plain ∧ localMidnight date zone = .ok start := by
  cases read : matchDate (formatCalendarDate date) with
  | none =>
    -- A text that is no date is read only with a time behind it.
    simp [parseBusinessDate, read, hasExplicitOffset_format month day] at parsed
  | some parts =>
    have plain : date.Plain := ⟨year_of_matchDate month day read, month, day⟩
    simp only [parseBusinessDate, matchDate_format plain] at parsed
    exact ⟨plain, parsed⟩

/-- A day of a year of four digits. -/
theorem fourDigit_of_plain {day : Int} (plain : (civilFromDays day).Plain) : FourDigit day := by
  -- The year of a short date is that of its month count.
  have year := plain.year
  rw [year_civilFromDays] at year
  rw [FourDigit]
  omega

/-- What a day's text is read back as is the beginning of the day. -/
theorem parseBusinessDate_text {zone : Zone} {now start : Instant} {day : Int}
    (parsed : parseBusinessDate (some (dayText day)) zone now = .ok start) :
    FourDigit day ∧ localMidnight (civilFromDays day) zone = .ok start := by
  obtain ⟨_, _, _, _⟩ := civilFromDays_bounds day
  obtain ⟨plain, opens⟩ := parseBusinessDate_format (by omega) (by omega) parsed
  exact ⟨fourDigit_of_plain plain, opens⟩

/-- The date that is shown at an instant has its month and its day in range. -/
theorem calendarDateFromInstant_bounds (instant : Instant) (zone : Zone) :
    1 ≤ (calendarDateFromInstant instant zone).month ∧ (calendarDateFromInstant instant zone).month ≤ 12 ∧
      1 ≤ (calendarDateFromInstant instant zone).day ∧ (calendarDateFromInstant instant zone).day ≤ 31 :=
  civilFromDays_bounds _

/-- What is read back of an instant's date is the beginning of the day that is shown there. -/
theorem parseBusinessDate_shown {zone : Zone} {instant now start : Instant}
    (parsed : parseBusinessDate (some (formatReportingDate instant zone)) zone now = .ok start) :
    zone.Dates instant ∧ localMidnight (civilFromDays (zone.shown instant)) zone = .ok start := by
  obtain ⟨_, _, _, _⟩ := calendarDateFromInstant_bounds instant zone
  obtain ⟨plain, opens⟩ := parseBusinessDate_format (by omega) (by omega) parsed
  -- A day begins only where its date is one of the calendar.
  have real := (localMidnight_ok opens).1
  simp only [isRealCalendarDate, Bool.and_eq_true, decide_eq_true_eq] at real
  have date := real.2.symm
  rw [utcDate] at date
  have dates := (Zone.dates_of (fourDigit_of_plain (date ▸ plain)) date).2
  rw [← dates.real]
  exact ⟨dates, opens⟩

/-- The text of a plain date tells the date. -/
theorem CivilDate.Plain.eq_of_format {date other : CivilDate} (plain : date.Plain) (plain' : other.Plain)
    (same : formatCalendarDate date = formatCalendarDate other) : date = other := by
  -- The numbers of a date are read back from its text.
  have read := matchDate_format plain
  rw [same, matchDate_format plain', Option.some.injEq, Prod.mk.injEq, Prod.mk.injEq] at read
  obtain ⟨year, month, day⟩ := date
  obtain ⟨year', month', day'⟩ := other
  obtain ⟨rfl, rfl, rfl⟩ := read
  rfl

/-- A shown date that the billing calendar reads is one of the calendar. -/
theorem parseCalendarDate_shown {zone : Zone} {instant : Instant} {date : BillingCycle.CalendarDate}
    (parsed : parseCalendarDate (formatReportingDate instant zone) = .ok date) : zone.Dates instant := by
  -- A date that is read has a year that was written with four digits.
  obtain ⟨_, _, _, _⟩ := calendarDateFromInstant_bounds instant zone
  cases read : matchDate (formatReportingDate instant zone) with
  | none => simp [parseCalendarDate, read] at parsed
  | some parts =>
    have plain : (calendarDateFromInstant instant zone).Plain :=
      ⟨year_of_matchDate (by omega) (by omega) read, by omega, by omega⟩
    -- The date that is read is the one that was written, so that it is a day's.
    have year : date.year = (calendarDateFromInstant instant zone).year := by
      rw [parseCalendarDate, formatReportingDate, matchDate_format plain] at parsed
      simp only at parsed
      split at parsed
      · cases parsed
      · exact (congrArg BillingCycle.CalendarDate.year (Except.ok.inj parsed)).symm
    obtain ⟨day, written, -, text⟩ := eq_dayText_of_parseCalendarDate parsed (year ▸ plain.year.1)
    exact (Zone.dates_of written (plain.eq_of_format written.plain text)).2

/-- Such a date is written as the day that it shows. -/
theorem Zone.Dates.text {zone : Zone} {instant : Instant} (dates : zone.Dates instant) :
    formatReportingDate instant zone = dayText (zone.shown instant) :=
  congrArg formatCalendarDate dates.real

/-- A month after an instant's date, the date is that of the clamped day. -/
theorem addBillingMonth_shown {zone : Zone} {instant : Instant} {text : String}
    (added : addBillingMonth (formatReportingDate instant zone) 1 = .ok text) :
    zone.Dates instant ∧
      text = dayText (clampedDay (zone.shown instant) (monthOf (zone.shown instant) + 1)) := by
  cases parsed : parseCalendarDate (formatReportingDate instant zone) with
  -- A start that is not read back has no next month.
  | error message => simp [addBillingMonth, parsed, bind, Except.bind] at added
  -- The start that is read back is a day, whose next month clamps its date.
  | ok date =>
    have dates := parseCalendarDate_shown parsed
    have low := dates.written.1
    rw [dates.text, addBillingMonth_eq dates.written (by omega)] at added
    exact ⟨dates, (Except.ok.inj added).symm⟩

/-! Texts that are not read back. -/

/-- A day whose year has more than four digits, or fewer, is not read back from its text. -/
theorem parseBusinessDate_wide {day : Int} (zone : Zone) (now : Instant) (wide : ¬FourDigit day) :
    ∃ message, parseBusinessDate (some (dayText day)) zone now = .error message := by
  cases parsed : parseBusinessDate (some (dayText day)) zone now with
  | error message => exact ⟨message, rfl⟩
  | ok start => exact absurd (parseBusinessDate_text parsed).1 wide

/-- Nor is a shown date that is not one of the calendar, or whose year has other than four digits. -/
theorem parseBusinessDate_unread {zone : Zone} {instant : Instant} (now : Instant)
    (unread : ¬zone.Dates instant) :
    ∃ message, parseBusinessDate (some (formatReportingDate instant zone)) zone now = .error message := by
  cases parsed : parseBusinessDate (some (formatReportingDate instant zone)) zone now with
  | error message => exact ⟨message, rfl⟩
  | ok start => exact absurd (parseBusinessDate_shown parsed).1 unread

/-- The billing calendar does not read it either. -/
theorem parseCalendarDate_unread {zone : Zone} {instant : Instant} (unread : ¬zone.Dates instant) :
    ∃ message, parseCalendarDate (formatReportingDate instant zone) = .error message := by
  cases parsed : parseCalendarDate (formatReportingDate instant zone) with
  | error message => exact ⟨message, rfl⟩
  | ok date => exact absurd (parseCalendarDate_shown parsed) unread

end PocketMint
