import PocketMint.Proofs.DueDates

/-! For how many months the due date of an instalment can be moved on. -/

namespace PocketMint

open Calendar BillingCycle Prog InstallmentPaymentService

/-- The due date a month after another, as a payment computes it. -/
def monthAfter (zone : Zone) (due : Instant) : Except String Instant := do
  let text ← addBillingMonth (formatReportingDate due zone) 1
  parseBusinessDate (some text) zone 0

/-- Whether a due date can be moved on by a month, some times over. -/
def Renews (zone : Zone) : Instant → Nat → Prop
  | _, 0 => True
  | due, months + 1 => ∃ next, monthAfter zone due = .ok next ∧ Renews zone next months

/-- Before the last term a payment moves the due date on by a month, if it can be. -/
theorem nextDueDate_ok_iff {zone : Zone} {row : Installment} (more : isFinalTerm row = false) (now : Instant)
    {due : Instant} : nextDueDate zone now row = .ok due ↔ monthAfter zone row.nextDueDate = .ok due := by
  -- A date that is given is read without the clock.
  have same : nextDueDate zone now row = (monthAfter zone row.nextDueDate).mapError Failure.thrown := by
    rw [nextDueDate, more]
    rfl
  rw [same, mapError_ok]

/-- Whether a due date is written with a year of four digits, and still is some months later. -/
def Renewable (zone : Zone) (due : Instant) (months : Int) : Prop :=
  ∃ date, parseCalendarDate (formatReportingDate due zone) = .ok date ∧
    12 * date.year + date.monthIndex + months < 12 * 10000

theorem Renewable.mono {zone : Zone} {due : Instant} {months fewer : Int}
    (renewable : Renewable zone due months)
    (less : fewer ≤ months) : Renewable zone due fewer := by
  rcases renewable with ⟨date, parsed, within⟩
  exact ⟨date, parsed, by omega⟩

/-- A due date that is written to be read is that of the day it shows, in a year of four digits. -/
theorem eq_dayText_of_parse {zone : Zone} {due : Instant} {date : CalendarDate}
    (parsed : parseCalendarDate (formatReportingDate due zone) = .ok date) :
    ∃ day, FourDigit day ∧ formatReportingDate due zone = dayText day ∧
      12 * date.year + date.monthIndex = monthOf day := by
  have dates := parseCalendarDate_shown parsed
  refine ⟨zone.shown due, dates.written, dates.text, ?_⟩
  -- The numbers that are read are those of the month of the day.
  rw [dates.text, parseCalendarDate_dayText dates.written] at parsed
  cases parsed
  simp only
  omega

namespace FixedZone

variable {fixed : FixedZone} {due : Instant}

/-- A due date whose next month still has a year of four digits is moved on. -/
theorem monthAfter_renewable (renewable : Renewable fixed.zone due 1) :
    ∃ next, monthAfter fixed.zone due = .ok next := by
  rcases renewable with ⟨date, parsed, within⟩
  rcases eq_dayText_of_parse parsed with ⟨day, fourDigit, text, month⟩
  have low := fourDigit.1
  -- The month after is still written with four digits.
  have next : FourDigit (clampedDay day (monthOf day + 1)) := by
    rw [FourDigit, monthOf_clampedDay]
    omega
  have added := addBillingMonth_eq fourDigit (show 12 * 100 ≤ monthOf day + 1 by omega)
  refine ⟨fixed.midnight (clampedDay day (monthOf day + 1)), ?_⟩
  simp only [monthAfter, text, added, fixed.parseBusinessDate_dayText next, Bind.bind, Except.bind]

/-- A due date that was moved on by a month can be moved on by one month less than it could before. -/
theorem renewable_monthAfter {next : Instant} (moved : monthAfter fixed.zone due = .ok next) :
    Renewable fixed.zone due 1 ∧ ∀ left,
      (Renewable fixed.zone next left ↔ Renewable fixed.zone due (left + 1)) := by
  -- The text of the date was read, so that it is the text of a day.
  cases parsed : parseCalendarDate (formatReportingDate due fixed.zone) with
  | error message => simp [monthAfter, addBillingMonth, parsed, Bind.bind, Except.bind] at moved
  | ok date =>
    rcases eq_dayText_of_parse parsed with ⟨day, fourDigit, text, month⟩
    have low := fourDigit.1
    have high := fourDigit.2
    have added := addBillingMonth_eq fourDigit (show 12 * 100 ≤ monthOf day + 1 by omega)
    have later := monthOf_clampedDay day (monthOf day + 1)
    have within : monthOf day + 1 < 12 * 10000 := by
      by_contra beyond
      -- A month after the year 9999 is written with five digits, and not read.
      have wide : ¬FourDigit (clampedDay day (monthOf day + 1)) := by
        rw [FourDigit]
        omega
      rcases parseBusinessDate_wide fixed.zone 0 wide with ⟨message, refused⟩
      simp [monthAfter, text, added, refused, Bind.bind, Except.bind] at moved
    have written : FourDigit (clampedDay day (monthOf day + 1)) := by
      rw [FourDigit, later]
      omega
    -- The next due date is the midnight of that day in the zone.
    simp only [monthAfter, text, added, fixed.parseBusinessDate_dayText written, Bind.bind,
      Except.bind] at moved
    obtain rfl : fixed.midnight (clampedDay day (monthOf day + 1)) = next := by
      injection moved
    have own : FourDigit (fixed.dayOf (fixed.midnight (clampedDay day (monthOf day + 1)))) := by
      rw [fixed.dayOf_midnight]
      exact written
    -- It shows the day that it was computed from, so the next renewal starts there.
    have shown := fixed.formatReportingDate_dayText own
    rw [fixed.dayOf_midnight] at shown
    refine ⟨⟨date, parsed, by omega⟩, ?_⟩
    intro left
    simp only [Renewable, shown, parseCalendarDate_dayText written, parsed, Except.ok.injEq,
      exists_eq_left', later]
    omega

/-- In a zone of fixed offset a due date can be moved on for as long as its year has four digits. -/
theorem renews_iff {months : Nat} :
    Renews fixed.zone due months ↔ months = 0 ∨ Renewable fixed.zone due months := by
  -- The induction is on the months, each of which leaves one less from the next due date.
  induction months generalizing due with
  | zero => simp [Renews]
  | succ months ih =>
    rw [Renews, or_iff_right (Nat.succ_ne_zero months)]
    constructor
    -- A renewal is one month, and then the months that are left.
    · intro renews
      rcases renews with ⟨next, moved, further⟩
      rcases renewable_monthAfter moved with ⟨first, counted⟩
      rcases ih.mp further with rfl | rest
      · exact first
      · exact_mod_cast (counted months).mp rest
    -- Conversely, enough room for all the months is enough for the first.
    · intro renewable
      rcases monthAfter_renewable (renewable.mono (by push_cast; omega)) with ⟨next, moved⟩
      refine ⟨next, moved, ih.mpr (.inr (((renewable_monthAfter moved).2 months).mpr ?_))⟩
      exact_mod_cast renewable

end FixedZone

end PocketMint
