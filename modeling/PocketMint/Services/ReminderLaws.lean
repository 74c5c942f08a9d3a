import PocketMint.Domain.DayOpenings
import PocketMint.Domain.PaddedText
import PocketMint.Services.ReminderEngine

/-! Laws of the reminder engine's dates: what it reads off a text, and the days it counts back. -/

namespace PocketMint

open Js Calendar ReminderEngine

namespace ReminderEngine

/-- A number is read back from its digits, however many they are. -/
theorem digitsValue_toDigits (value : Nat) : digitsValue (Nat.toDigits 10 value) = some value := by
  have digits : (Nat.toDigits 10 value).all Char.isDigit = true :=
    List.all_eq_true.mpr fun _ among => Nat.isDigit_of_mem_toDigits (by decide) (by decide) among
  rw [digitsValue, if_pos digits, Nat.ofDigitChars_ten_toDigits]

/-- The numbers of a date are read off its text, piece by piece, whatever the length of its year. -/
theorem splitDate_format {date : CivilDate} (year : 0 ≤ date.year)
    (month : 0 ≤ date.month ∧ date.month ≤ 99) (day : 0 ≤ date.day ∧ date.day ≤ 99) :
    splitDate (formatCalendarDate date) = some (date.year, date.month, date.day) := by
  -- The year is written as its digits, and month and day in two digits each.
  obtain ⟨count, named⟩ := Int.eq_ofNat_of_zero_le year
  have text := toList_formatCalendarDate_year month day
  rw [named, toList_toString_ofNat] at text
  -- No digit is a dash, so each piece ends where its number does.
  have digits : ∀ char ∈ Nat.toDigits 10 count, decide (char ≠ '-') = true := by
    intro char among
    have digit := Nat.isDigit_of_mem_toDigits (by decide) (by decide) among
    refine decide_eq_true fun dash => ?_
    rw [dash] at digit
    exact absurd digit (by decide)
  have digit : ∀ {value : Int}, 0 ≤ value → value ≤ 9 → digitOf value ≠ '-' :=
    fun low high => (isDigit_digitOf low high).2
  -- None of the four digits of month and day is a dash.
  have first := digit (show 0 ≤ date.month / 10 by omega) (by omega)
  have second := digit (show 0 ≤ date.month % 10 by omega) (by omega)
  have third := digit (show 0 ≤ date.day / 10 by omega) (by omega)
  have fourth := digit (show 0 ≤ date.day % 10 by omega) (by omega)
  simp only [splitDate, text, List.takeWhile_append_of_pos digits, List.dropWhile_append_of_pos digits]
  simp [first, second, third, fourth, digitsValue_toDigits, digitsValue_two month.1 month.2,
    digitsValue_two day.1 day.2]
  omega

/-- Counting back from a day counts day numbers, from the year 100 on. -/
theorem subtractDays_dayText {day : Int} (full : firstFullDay ≤ day) (days : Int) :
    subtractDays (dayText day) days = dayText (day - days) := by
  have year := firstFullDay_le_iff.mp full
  -- Year, month and day of a day that is written in full are within the bounds of the text.
  obtain ⟨_, _, _, _⟩ := civilFromDays_bounds day
  -- The text is read back into its parts, and the days are counted from them.
  have counted := makeDay_civilFromDays day (-days)
  rw [← sub_eq_add_neg, ← sub_eq_add_neg] at counted
  have read : splitDate (formatCalendarDate (civilFromDays day)) =
      some ((civilFromDays day).year, (civilFromDays day).month, (civilFromDays day).day) :=
    splitDate_format (by omega) (by omega) (by omega)
  simp only [subtractDays, dayText, read, dateUTC_of_year (.inr year), counted, utcDate_mul]

/--
A text that counts back to a reminder's day is due on a date that is padded, when that is the day and
its year has four digits.
-/
theorem dueReminder_paddedText {text : String} {occurrence offsetDays today : Int}
    (counted : subtractDays text offsetDays = dayText (occurrence - offsetDays)) (padded : Padded today) :
    dueReminder (paddedText today) text offsetDays =
      if FourDigit today ∧ occurrence - offsetDays = today then some (dayText today) else none := by
  -- Two texts are the same if they are of the same day.
  have same : dayText (occurrence - offsetDays) = paddedText today ↔
      FourDigit today ∧ occurrence - offsetDays = today := paddedText_eq_dayText_iff padded
  simp only [dueReminder, counted, same]
  split
  · rename_i due
    rw [due.2]
  · rfl

/-- The unique key of the reminder that the engine finds for a template. -/
def templateKey (template : RecurringTransactionTemplate) (found : Int × Instant × Instant) :
    Id × Instant × Int :=
  (template.id, found.2.1, found.1)

/-- The unique key of the reminder that the engine finds for an instalment. -/
def installmentKey (installment : Installment) (found : Instant × Instant) : Id × Instant × Int :=
  (installment.id, found.1, installmentReminderOffsetDays)

theorem id_of_templateKey {template : RecurringTransactionTemplate} {found : Option (Int × Instant × Instant)}
    {key : Id × Instant × Int} (named : key ∈ found.map (templateKey template)) : key.1 = template.id := by
  obtain ⟨_, -, rfl⟩ := Option.mem_map.mp named
  rfl

theorem id_of_installmentKey {installment : Installment} {found : Option (Instant × Instant)}
    {key : Id × Instant × Int} (named : key ∈ found.map (installmentKey installment)) :
    key.1 = installment.id := by
  obtain ⟨_, -, rfl⟩ := Option.mem_map.mp named
  rfl

end ReminderEngine

/-- A year of four digits lies after the years that `Date.UTC` moves into the twentieth century. -/
theorem FourDigit.full {day : Int} (fourDigit : FourDigit day) : firstFullDay ≤ day := by
  have year := fourDigit.plain.year.1
  exact firstFullDay_le_iff.mpr (by omega)

namespace FixedZone

variable (fixed : FixedZone)

/-- A day's text is parsed as the midnight that begins the day. -/
theorem parseBusinessDate_dayText {day : Int} (fourDigit : FourDigit day) (now : Instant) :
    parseBusinessDate (some (dayText day)) fixed.zone now = .ok (fixed.midnight day) := by
  have date := civilFromDays_eq (monthOf_spec day).1 (monthOf_spec day).2
  have resolves := fixed.resolves_of_monthOf fourDigit.1 fourDigit.2
  simp only [parseBusinessDate, matchDate_dayText fourDigit, ← date]
  exact fixed.localMidnight_resolves resolves

/-- An instant of the years 1000 to 9999 is shown as the text of its day. -/
theorem formatReportingDate_dayText {instant : Int} (fourDigit : FourDigit (fixed.dayOf instant)) :
    formatReportingDate instant fixed.zone = dayText (fixed.dayOf instant) :=
  fixed.formatReportingDate_full fourDigit.full

/-- The date that is shown at an instant has a positive year. -/
theorem year_shown (instant : Int) : 1 ≤ (calendarDateFromInstant instant fixed.zone).year := by
  rw [fixed.calendarDate_eq]
  simp only [shownYear]
  split <;> omega

/-- Counting back from a shown date starts at the day that `Date.UTC` takes the date for. -/
theorem subtractDays_shown (instant days : Int) :
    subtractDays (formatReportingDate instant fixed.zone) days =
      dayText (shownDay (fixed.dayOf instant) - days) := by
  have year := fixed.year_shown instant
  obtain ⟨_, _, _, _⟩ := calendarDateFromInstant_bounds instant fixed.zone
  -- The shown year is positive, so that the text is read back into its parts.
  have read : splitDate (formatReportingDate instant fixed.zone) = some
      ((calendarDateFromInstant instant fixed.zone).year, (calendarDateFromInstant instant fixed.zone).month,
        (calendarDateFromInstant instant fixed.zone).day) :=
    splitDate_format (by omega) (by omega) (by omega)
  -- The days are counted from the shown date, whose day is the shown day.
  simp only [subtractDays, read, fixed.calendarDate_eq, dateUTC, utcDate_mul, dayText, shownDay]
  congr 2
  simp only [makeDay, daysFromCivil]
  omega

/-- An instant of the years 1000 to 9999 shows the date of its day. -/
theorem dates_dayOf {instant : Int} (fourDigit : FourDigit (fixed.dayOf instant)) :
    fixed.zone.shown instant = fixed.dayOf instant ∧ fixed.zone.Dates instant :=
  Zone.dates_of fourDigit (fixed.calendarDate_full fourDigit.full)

/-- A template whose dates are shown with years of four digits. -/
structure Dated (template : RecurringTransactionTemplate) : Prop where
  starts : FourDigit (fixed.dayOf template.startDate)
  ends : ∀ last ∈ template.endDate, FourDigit (fixed.dayOf last)

/--
A template whose dates are shown with years of four digits, with a lead of less than four weeks.

Its start leaves room for the occurrence that follows the last day before the year 9991.
-/
structure Regular (template : RecurringTransactionTemplate) : Prop where
  starts : 12 * 1000 ≤ monthOf (fixed.dayOf template.startDate) ∧
    monthOf (fixed.dayOf template.startDate) < 12 * 9991
  ends : ∀ last ∈ template.endDate, FourDigit (fixed.dayOf last)
  leads : ∃ lead, template.reminderOffsetDays = some lead ∧ 0 ≤ lead ∧ lead < 28

theorem Regular.dated {template : RecurringTransactionTemplate} (regular : fixed.Regular template) :
    fixed.Dated template := by
  obtain ⟨low, high⟩ := regular.starts
  exact ⟨⟨low, by omega⟩, regular.ends⟩

theorem Regular.lead {template : RecurringTransactionTemplate} (regular : fixed.Regular template) :
    ∀ lead ∈ template.reminderOffsetDays, 0 ≤ lead ∧ lead < 28 := by
  obtain ⟨lead, offset, bounds⟩ := regular.leads
  intro other given
  obtain rfl : lead = other := Option.some.inj (offset.symm.trans given)
  exact bounds

/-- The occurrence of a template that an evaluation of a day looks at. -/
def nextOccurrence (template : RecurringTransactionTemplate) (today : Int) : Int :=
  nextMonthly (fixed.dayOf template.startDate) today

/-- The unique key of the reminder that a template is due on a day, if there is one. -/
def dueKey (template : RecurringTransactionTemplate) (today : Int) : Option (Id × Instant × Int) :=
  template.reminderOffsetDays.bind fun lead =>
    if fixed.nextOccurrence template today - lead = today ∧
        ∀ last ∈ template.endDate, fixed.nextOccurrence template today ≤ fixed.dayOf last then
      some (template.id, fixed.midnight (fixed.nextOccurrence template today), lead)
    else none

/-- Whether the text of a template's end comes before a text. -/
def EndsBefore (template : RecurringTransactionTemplate) (text : String) : Prop :=
  ∃ last ∈ template.endDate, formatReportingDate last fixed.zone < text

instance (template : RecurringTransactionTemplate) (text : String) :
    Decidable (fixed.EndsBefore template text) :=
  inferInstanceAs (Decidable (∃ last ∈ template.endDate, formatReportingDate last fixed.zone < text))

/-- The occurrence that a template's start leads to when it is read back as it is shown. -/
def shownOccurrence (template : RecurringTransactionTemplate) (today : Int) : Int :=
  nextMonthly (fixed.zone.shown template.startDate) today

section Templates

variable {fixed} {template : RecurringTransactionTemplate} {today lead : Int} {now : Instant}
  {found : Option (Int × Instant × Instant)}

/-- The text of the end is compared by the engine as the text that it is shown as. -/
theorem endsBefore_iff {text : String} :
    (∃ last ∈ template.endDate.map fun day => formatReportingDate day fixed.zone, last < text) ↔
      fixed.EndsBefore template text := by
  cases finish : template.endDate <;> simp [EndsBefore, finish]

/-- On a day whose year is padded, no template has a reminder. -/
theorem templateReminder_early (padded : Padded today) (early : ¬FourDigit today) :
    templateReminder fixed.zone now (paddedText today) template = .ok none := by
  cases offset : template.reminderOffsetDays with
  | none => simp [templateReminder, offset]
  | some lead =>
  -- The start comes later as a text, so it is the occurrence, and its text counts back to no padded one.
  obtain ⟨_, _, _, _⟩ := calendarDateFromInstant_bounds template.startDate fixed.zone
  have later : paddedText today < formatReportingDate template.startDate fixed.zone :=
    paddedText_lt padded early (fixed.year_shown _) (by omega) (by omega)
  have due := dueReminder_paddedText (fixed.subtractDays_shown template.startDate lead) padded
  rw [if_neg fun both => early both.1] at due
  simp only [templateReminder, offset, nextMonthlyOccurrence, if_pos later, bind,
    Except.bind, pure, Except.pure]
  -- The occurrence is the start, or there is none.
  split
  · rfl
  · rename_i occurrence same
    split at same
    · cases same
    · cases same
      simp only [due]

/-- What the engine finds for a template whose start is read back, on a day of a year of four digits. -/
theorem templateReminder_read (offset : template.reminderOffsetDays = some lead) (current : FourDigit today)
    (dates : fixed.zone.Dates template.startDate) :
    templateReminder fixed.zone now (dayText today) template = .ok found ↔
      if fixed.shownOccurrence template today - lead = today ∧
          ¬fixed.EndsBefore template (dayText (fixed.shownOccurrence template today)) then
        FourDigit (fixed.shownOccurrence template today) ∧ found =
          some (lead, fixed.midnight (fixed.shownOccurrence template today), fixed.midnight today)
      else found = none := by
  -- The occurrence is the one that the texts lead to, and the end is compared as a text.
  have next := nextMonthlyOccurrence_text dates.written current
    (template.endDate.map fun day => formatReportingDate day fixed.zone)
  rw [← shownOccurrence] at next
  simp only [endsBefore_iff] at next
  simp only [templateReminder, offset, dates.text, next, bind, Except.bind]
  -- The next occurrence is on or after the start or the day, so that days are counted back from it.
  have full : firstFullDay ≤ fixed.shownOccurrence template today :=
    current.full.trans (le_nextMonthly _ _)
  generalize fixed.shownOccurrence template today = occurrence at *
  have due := dueReminder_paddedText (subtractDays_dayText full lead) current.padded
  rw [paddedText_eq_dayText current] at due
  by_cases ended : fixed.EndsBefore template (dayText occurrence)
  -- The template has ended.
  · rw [if_pos ended, if_neg fun both => both.2 ended]
    simp [pure, Except.pure, eq_comm]
  · rw [if_neg ended]
    -- The lead counts back from the occurrence to the day, or to another one.
    by_cases leads : occurrence - lead = today
    · rw [if_pos ⟨current, leads⟩] at due
      rw [if_pos ⟨leads, ended⟩]
      have reminded := fixed.parseBusinessDate_dayText current now
      simp only [due, reminded]
      by_cases written : FourDigit occurrence
      · simp [fixed.parseBusinessDate_dayText written now, written, pure, Except.pure, eq_comm]
      -- An occurrence of more digits is refused when it is read back.
      · obtain ⟨message, refused⟩ := parseBusinessDate_wide fixed.zone now written
        simp [refused, written]
    -- The reminder of the occurrence is not due on this day.
    · rw [if_neg fun both => leads both.2] at due
      rw [if_neg fun both => leads both.1]
      simp [due, pure, Except.pure, eq_comm]

/-- What the engine finds for a template whose start is not read back, on a day of a year of four digits. -/
theorem templateReminder_unread (offset : template.reminderOffsetDays = some lead) (current : FourDigit today)
    (unread : ¬fixed.zone.Dates template.startDate) :
    templateReminder fixed.zone now (dayText today) template = .ok found ↔
      dayText today < formatReportingDate template.startDate fixed.zone ∧
        (shownDay (fixed.dayOf template.startDate) - lead = today →
          fixed.EndsBefore template (formatReportingDate template.startDate fixed.zone)) ∧ found = none := by
  -- Neither the engine nor the billing calendar reads the start.
  obtain ⟨message, refused⟩ := parseBusinessDate_unread now unread
  obtain ⟨message', refused'⟩ := parseCalendarDate_unread unread
  have due := dueReminder_paddedText (fixed.subtractDays_shown template.startDate lead) current.padded
  rw [paddedText_eq_dayText current] at due
  simp only [templateReminder, offset, nextMonthlyOccurrence, endsBefore_iff, refused', bind, Except.bind]
  generalize formatReportingDate template.startDate fixed.zone = start at *
  -- Only a start that comes later as a text is not read by the billing calendar.
  by_cases later : dayText today < start
  · rw [if_pos later]
    -- The template has ended before it starts.
    by_cases ended : fixed.EndsBefore template start
    · simp [ended, later, pure, Except.pure, eq_comm]
    -- A reminder that is due would have to read the start.
    · by_cases leads : shownDay (fixed.dayOf template.startDate) - lead = today
      · rw [if_pos ⟨current, leads⟩] at due
        simp [ended, leads, due, refused]
      · rw [if_neg fun both => leads both.2] at due
        simp [ended, later, leads, due, pure, Except.pure, eq_comm]
  -- The billing calendar would have to read the start.
  · simp [later]

end Templates

/-- The unique key of the reminder that an instalment is due on a day, if its lead time says so. -/
def dueBill (installment : Installment) (today : Int) : Option (Id × Instant × Int) :=
  if fixed.dayOf installment.nextDueDate - installmentReminderOffsetDays = today then
    some (installment.id, fixed.midnight (fixed.dayOf installment.nextDueDate),
      installmentReminderOffsetDays)
  else none

end FixedZone

end PocketMint
