import PocketMint.Domain.BillingCycleLaws
import PocketMint.Domain.ReportingDays
import Mathlib.Order.Bounds.Basic

/-! The next monthly occurrence is the least one of the recurrence on or after a day. -/

namespace PocketMint

open Js Calendar BillingCycle

/-- A text that is read as a date of the years 1000 to 9998. -/
def ValidDate (text : String) : Prop :=
  ∃ date, parseCalendarDate text = .ok date ∧ 1000 ≤ date.year ∧ date.year ≤ 9998

/-- The days that a recurrence falls on, some whole number of months after its start. -/
def occurrences (start : String) : Set Int :=
  {day | ∃ months : Nat, addBillingMonth start months = .ok (dayText day)}

/-- A valid date is the text of a day. -/
theorem ValidDate.eq_dayText {text : String} (valid : ValidDate text) :
    ∃ day, FourDigit day ∧ monthOf day < 12 * 9999 ∧ text = dayText day := by
  rcases valid with ⟨date, parsed, low, high⟩
  rcases eq_dayText_of_parseCalendarDate parsed low with ⟨day, fourDigit, year, written⟩
  exact ⟨day, fourDigit, by omega, written⟩

/-- A recurrence falls on the days that the calendar counts from its start. -/
theorem mem_occurrences {start day : Int} (starts : FourDigit start) :
    day ∈ occurrences (dayText start) ↔ ∃ months : Nat, day = monthlyDay start months := by
  -- Each number of months gives one text, and a text stands for one day.
  have added : ∀ months : Nat, addBillingMonth (dayText start) months =
      .ok (dayText (monthlyDay start months)) := by
    intro months
    have low := starts.1
    exact addBillingMonth_eq starts (by omega)
  constructor
  -- A listed text was written for some number of months.
  · intro listed
    rcases listed with ⟨months, reached⟩
    rw [added] at reached
    injection reached with same
    exact ⟨months, formatCalendarDate_inj same.symm⟩
  · intro counted
    rcases counted with ⟨months, rfl⟩
    exact ⟨months, added months⟩

/-- The next occurrence is the least of a recurrence's days on or after a day. -/
theorem nextMonthly_isLeast {start today : Int} (starts : FourDigit start) :
    IsLeast {day | day ∈ occurrences (dayText start) ∧ today ≤ day} (nextMonthly start today) := by
  constructor
  · exact ⟨(mem_occurrences starts).mpr (nextMonthly_mem start today), le_nextMonthly start today⟩
  · intro day due
    rcases (mem_occurrences starts).mp due.1 with ⟨months, rfl⟩
    exact nextMonthly_le due.2

/-- The next occurrence of dates up to the year 9998 is written with a year of four digits. -/
theorem nextMonthly_fourDigit {start today : Int} (starts : FourDigit start) (current : FourDigit today)
    (near : monthOf today < 12 * 9999) : FourDigit (nextMonthly start today) := by
  rcases current with ⟨low, high⟩
  unfold nextMonthly
  split
  · exact starts
  · split
    · exact ⟨by rw [monthOf_clampedDay]; omega, by rw [monthOf_clampedDay]; omega⟩
    · exact ⟨by rw [monthOf_clampedDay]; omega, by rw [monthOf_clampedDay]; omega⟩

/-- The next occurrence is the least of the recurrence's days on or after today, unless it is past the end. -/
theorem nextMonthlyOccurrence_least {startDate todayStr : String} {endDate : Option String}
    (starts : ValidDate startDate) (current : ValidDate todayStr) (ends : ∀ text ∈ endDate, ValidDate text) :
    ∃ today next : Int, todayStr = dayText today ∧
      IsLeast {day | day ∈ occurrences startDate ∧ today ≤ day} next ∧
      nextMonthlyOccurrence startDate endDate todayStr =
        .ok (if ∃ last ∈ endDate, last < dayText next then none else some (dayText next)) ∧
      ∀ text other, text ∈ startDate :: todayStr :: dayText next :: endDate.toList →
        other ∈ startDate :: todayStr :: dayText next :: endDate.toList →
        ∃ day later, text = dayText day ∧ other = dayText later ∧ (text < other ↔ day < later) := by
  -- Every date is the text of a day of a four-digit year, and such texts are ordered as their days.
  rcases starts.eq_dayText with ⟨start, writtenStart, _, rfl⟩
  rcases current.eq_dayText with ⟨today, writtenToday, near, rfl⟩
  have writtenNext := nextMonthly_fourDigit writtenStart writtenToday near
  -- The end date is the text of a day as well, if there is one.
  have ended : ∃ last : Option Int, endDate = last.map dayText ∧ ∀ day ∈ last, FourDigit day := by
    cases endDate with
    | none => exact ⟨none, rfl, by simp⟩
    | some text =>
      rcases (ends text rfl).eq_dayText with ⟨last, written, _, rfl⟩
      exact ⟨some last, rfl, by simpa using written⟩
  rcases ended with ⟨last, rfl, writtenLast⟩
  refine ⟨today, nextMonthly start today, rfl, nextMonthly_isLeast writtenStart, ?_, ?_⟩
  -- The end date is compared as a text, which is the order of the days.
  · rw [nextMonthlyOccurrence_eq writtenStart writtenToday (by omega) writtenLast]
    cases last with
    | none => simp
    | some last =>
      have order := dayText_lt_iff (writtenLast last rfl) writtenNext
      simp only [Option.map_some, Option.mem_some_iff, exists_eq_left', order]
  -- All the texts that are compared are of days with a year of four digits.
  · have written : ∀ text ∈ dayText start :: dayText today :: dayText (nextMonthly start today) ::
        (last.map dayText).toList, ∃ day, FourDigit day ∧ text = dayText day := by
      intro text listed
      simp only [List.mem_cons, Option.mem_toList, Option.map_eq_some_iff] at listed
      rcases listed with rfl | rfl | rfl | ⟨day, same, rfl⟩
      · exact ⟨start, writtenStart, rfl⟩
      · exact ⟨today, writtenToday, rfl⟩
      · exact ⟨_, writtenNext, rfl⟩
      · exact ⟨day, writtenLast day same, rfl⟩
    intro text other listed listed'
    rcases written text listed with ⟨day, first, rfl⟩
    rcases written other listed' with ⟨later, second, rfl⟩
    exact ⟨day, later, rfl, rfl, dayText_lt_iff first second⟩

/-- A recurrence on the 31st that starts in a leap year falls on the last day of February. -/
theorem nextMonthlyOccurrence_least_leap :
    ∃ today next : Int, "2024-02-01" = dayText today ∧
      IsLeast {day | day ∈ occurrences "2024-01-31" ∧ today ≤ day} next ∧
      nextMonthlyOccurrence "2024-01-31" (some "2024-12-31") "2024-02-01" =
        .ok (if ∃ last ∈ some "2024-12-31", last < dayText next then none else some (dayText next)) ∧
      ∀ text other, text ∈ "2024-01-31" :: "2024-02-01" :: dayText next :: (some "2024-12-31").toList →
        other ∈ "2024-01-31" :: "2024-02-01" :: dayText next :: (some "2024-12-31").toList →
        ∃ day later, text = dayText day ∧ other = dayText later ∧ (text < other ↔ day < later) :=
  nextMonthlyOccurrence_least
    ⟨⟨2024, 0, 31⟩, by decide, by decide, by decide⟩ ⟨⟨2024, 1, 1⟩, by decide, by decide, by decide⟩
    (by
      intro text given
      cases given
      exact ⟨⟨2024, 11, 31⟩, by decide, by decide, by decide⟩)

end PocketMint
