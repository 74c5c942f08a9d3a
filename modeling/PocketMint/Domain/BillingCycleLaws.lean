import PocketMint.Calendar.Closing
import PocketMint.Domain.DateText

/-! Laws of monthly recurrences on texts: they compute the occurrences of the calendar. -/

namespace PocketMint

open Js Calendar BillingCycle

/-- The day number of a year, a month and a day, through the count of months. -/
theorem makeDay_eq (year monthIndex day : Int) :
    makeDay year monthIndex day = monthOpens (12 * year + monthIndex) + (day - 1) := by
  -- Months are carried into the year, and the rest counts the month.
  have years : (12 * year + monthIndex) / 12 = year + monthIndex / 12 := by omega
  have months : (12 * year + monthIndex) % 12 = monthIndex % 12 := by omega
  have counted := daysFromCivil_addDays
    { year := year + monthIndex / 12, month := monthIndex % 12 + 1, day := 1 } (day - 1)
  have own : 1 + (day - 1) = day := by omega
  rw [own] at counted
  rw [makeDay, monthOpens, years, months, ← counted]

/-- The last day of a month is read off the day before the next month opens. -/
theorem maxDay_eq {month : Int} (low : 12 * 100 ≤ month) :
    maxDay (month / 12) (month % 12) = monthLength month := by
  have length := monthLength_bounds month
  have next := monthOpens_succ month
  have place : 12 * (month / 12) + (month % 12 + 1) = month + 1 := by omega
  -- The last day is the one before the next month opens.
  have within : monthOpens month ≤ monthOpens (month + 1) + (0 - 1) ∧
      monthOpens (month + 1) + (0 - 1) < monthOpens (month + 1) := by omega
  rw [maxDay, dateUTC_of_year (.inr (by omega)), utcDate_mul, makeDay_eq, place,
    civilFromDays_eq within.1 within.2]
  simp only
  omega

/-- A day's date is read as its year, its month and its day of the month. -/
theorem parseCalendarDate_dayText {day : Int} (fourDigit : FourDigit day) :
    parseCalendarDate (dayText day) =
      .ok { year := monthOf day / 12, monthIndex := monthOf day % 12,
            day := day - monthOpens (monthOf day) + 1 } := by
  -- The day is at most as long as the month that it is read in.
  obtain ⟨low, high⟩ := start_offset day
  have index : monthOf day % 12 + 1 - 1 = monthOf day % 12 := by omega
  have length := maxDay_eq (show 12 * 100 ≤ monthOf day by have := fourDigit.1; omega)
  rw [parseCalendarDate, matchDate_dayText fourDigit]
  simp only [index, length]
  rw [if_neg (by omega)]

/-- A text that is read as a date is that of a day, in the same year. -/
theorem eq_dayText_of_parseCalendarDate {text : String} {date : BillingCycle.CalendarDate}
    (parsed : parseCalendarDate text = .ok date) (low : 1000 ≤ date.year) :
    ∃ day, FourDigit day ∧ monthOf day / 12 = date.year ∧ text = dayText day := by
  -- The day is as many days into its month as the date says, and the date is its own.
  unfold parseCalendarDate at parsed
  split at parsed
  · cases parsed
  · rename_i year month day read
    simp only at parsed
    split at parsed
    · cases parsed
    · rename_i inMonth
      cases parsed
      simp only at low inMonth
      -- The digits that were read spell the date that is written.
      obtain ⟨written, high, _, _⟩ := eq_format_of_matchDate read low
      have months : (12 * year + (month - 1)) / 12 = year ∧ (12 * year + (month - 1)) % 12 = month - 1 := by
        omega
      have length := maxDay_eq (show 12 * 100 ≤ 12 * year + (month - 1) by omega)
      rw [months.1, months.2] at length
      have next := monthOpens_succ (12 * year + (month - 1))
      -- The day that was read lies between the openings of its month and the next.
      have opened : monthOpens (12 * year + (month - 1)) ≤ monthOpens (12 * year + (month - 1)) + (day - 1) ∧
          monthOpens (12 * year + (month - 1)) + (day - 1) < monthOpens (12 * year + (month - 1) + 1) := by
        omega
      have own := monthOf_eq_iff.mpr opened
      have inYear : monthOf (monthOpens (12 * year + (month - 1)) + (day - 1)) / 12 = year := by omega
      refine ⟨monthOpens (12 * year + (month - 1)) + (day - 1), ⟨by omega, by omega⟩, inYear, ?_⟩
      rw [written, dayText, civilFromDays_eq opened.1 opened.2]
      congr 2 <;> omega

/-- A billing day is clamped to the length of its month. -/
theorem clampDay_dayIn {dueDay month : Int} (first : 1 ≤ dueDay) (last : dueDay ≤ 31)
    (low : 12 * 100 ≤ month) :
    clampDay (month / 12) (month % 12) dueDay = .ok (dayText (dayIn dueDay month)) := by
  -- The date is written from the numbers that the day in the month is read as.
  have bounds := monthLength_bounds month
  have next := monthOpens_succ month
  have inYear : ¬(month % 12 < 0 ∨ 11 < month % 12) := by omega
  have inMonth : ¬(dueDay < 1 ∨ 31 < dueDay) := by omega
  have date : dayText (dayIn dueDay month) =
      formatDate (month / 12) (month % 12) (min dueDay (monthLength month)) := by
    have within : monthOpens month ≤ dayIn dueDay month ∧ dayIn dueDay month < monthOpens (month + 1) := by
      rw [dayIn]
      omega
    rw [dayText, civilFromDays_eq within.1 within.2, formatDate_eq]
    congr 2
    rw [dayIn]
    omega
  simp only [clampDay, assertBillingDay, if_neg inYear, if_neg inMonth, maxDay_eq low, date, bind,
    Except.bind, pure, Except.pure]

/-- A day's day of the month, in another month, is the day clamped to it. -/
theorem clampDay_eq {start month : Int} (low : 12 * 100 ≤ month) :
    clampDay (month / 12) (month % 12) (start - monthOpens (monthOf start) + 1) =
      .ok (dayText (clampedDay start month)) := by
  -- The day of the start's month is the due day, clamped to the month.
  obtain ⟨first, last⟩ := start_offset start
  have bounds := monthLength_bounds (monthOf start)
  have same : dayIn (start - monthOpens (monthOf start) + 1) month = clampedDay start month := by
    rw [dayIn, clampedDay]
    omega
  rw [clampDay_dayIn (by omega) (by omega) low, same]

/-- The last two characters of a day's text spell its day of the month. -/
theorem lastTwoDigits_dayText {day : Int} (fourDigit : FourDigit day) :
    lastTwoDigits (dayText day) = day - monthOpens (monthOf day) + 1 := by
  -- The text ends in the two digits of the day of the month.
  have plain := fourDigit.plain
  have text := toList_formatCalendarDate plain
  have date := congrArg CivilDate.day (civilFromDays_eq (monthOf_spec day).1 (monthOf_spec day).2)
  simp only at date
  have spelled := digitsValue_two plain.day.1 plain.day.2
  obtain ⟨low, _⟩ := start_offset day
  simp only [lastTwoDigits, dayText, text, dateText, List.length_cons, List.length_nil, Nat.reduceAdd,
    Nat.reduceSub, List.drop_succ_cons, List.drop_zero, spelled, Option.getD_some]
  omega

/-- The first due date is the payment day of the month after the one that closes the purchase's cycle. -/
theorem calculateFirstDueDate_eq {day cutoffDay paymentDueDay : Int} (fourDigit : FourDigit day)
    (closing : 1 ≤ cutoffDay ∧ cutoffDay ≤ 31) (billing : 1 ≤ paymentDueDay ∧ paymentDueDay ≤ 31) :
    calculateFirstDueDate
        { transactionDate := dayText day, cutoffDay, paymentDueDay, timeZone := "Asia/Jakarta" } =
      .ok (dayText (dayIn paymentDueDay (monthOf (closingDay cutoffDay day) + 1))) := by
  have low := fourDigit.1
  -- Closing and due days are checked to be days of a month.
  have month := monthOf_dayIn closing.1 (monthOf day)
  have cutoff := clampDay_dayIn closing.1 closing.2 (show 12 * 100 ≤ monthOf day by omega)
  have shown : lastTwoDigits (dayText (dayIn cutoffDay (monthOf day))) =
      dayIn cutoffDay (monthOf day) - monthOpens (monthOf day) + 1 := by
    rw [lastTwoDigits_dayText (by rwa [FourDigit, month]), month]
  have target : ∀ months : Int, monthOf day / 12 * 12 + monthOf day % 12 + months = monthOf day + months := by
    intro months
    omega
  rw [calculateFirstDueDate, monthOf_closingDay closing.1]
  simp only [assertBillingDay, if_neg (show ¬(cutoffDay < 1 ∨ 31 < cutoffDay) by omega),
    if_neg (show ¬(paymentDueDay < 1 ∨ 31 < paymentDueDay) by omega), parseCalendarDate_dayText fourDigit,
    cutoff, shown, bind, Except.bind, ne_eq, not_true_eq_false, if_false, target]
  -- Within one month, days are compared by their days of the month.
  have order : day - monthOpens (monthOf day) + 1 ≤
      dayIn cutoffDay (monthOf day) - monthOpens (monthOf day) + 1 ↔
      day ≤ dayIn cutoffDay (monthOf day) := by omega
  simp only [order]
  -- The bill closes in the month of the purchase or in the one after.
  split
  · exact clampDay_dayIn billing.1 billing.2 (by omega)
  · rw [show monthOf day + 2 = monthOf day + 1 + 1 by omega]
    exact clampDay_dayIn billing.1 billing.2 (by omega)

/-- A first due date is the payment day of the first or the second month after the purchase's. -/
theorem calculateFirstDueDate_ok {day cutoffDay paymentDueDay : Int} {timeZone text : String}
    (fourDigit : FourDigit day)
    (computed : calculateFirstDueDate
      { transactionDate := dayText day, cutoffDay, paymentDueDay, timeZone } = .ok text) :
    1 ≤ paymentDueDay ∧ paymentDueDay ≤ 31 ∧ ∃ monthsUntilDue : Int,
      (monthsUntilDue = 1 ∨ monthsUntilDue = 2) ∧
      text = dayText (dayIn paymentDueDay (monthOf day + monthsUntilDue)) := by
  -- The zone and both days are checked first, so that they can be taken to be in range.
  obtain rfl : timeZone = "Asia/Jakarta" := by
    by_contra zoned
    simp [calculateFirstDueDate, zoned, bind, Except.bind, throw, throwThe, MonadExceptOf.throw] at computed
  have closing : ¬(cutoffDay < 1 ∨ 31 < cutoffDay) := by
    intro closing
    simp [calculateFirstDueDate, assertBillingDay, closing, bind, Except.bind] at computed
  have billing : ¬(paymentDueDay < 1 ∨ 31 < paymentDueDay) := by
    intro billing
    simp [calculateFirstDueDate, assertBillingDay, closing, billing, bind, Except.bind] at computed
  rw [calculateFirstDueDate_eq fourDigit (by omega) (by omega), Except.ok.injEq,
    monthOf_closingDay (by omega)] at computed
  -- The cycle closes in the month of the purchase, or in the next.
  refine ⟨by omega, by omega, ?_⟩
  split at computed
  · exact ⟨1, .inl rfl, computed.symm⟩
  · refine ⟨2, .inr rfl, ?_⟩
    rw [← computed, Int.add_assoc]
    rfl

/-- Some months after a start, the date is that of the clamped day. -/
theorem addBillingMonth_eq {start months : Int} (fourDigit : FourDigit start)
    (reached : 12 * 100 ≤ monthOf start + months) :
    addBillingMonth (dayText start) months = .ok (dayText (clampedDay start (monthOf start + months))) := by
  -- The months that are added may run into the years that follow.
  have target : monthOf start / 12 * 12 + monthOf start % 12 + months = monthOf start + months := by
    omega
  rw [addBillingMonth, parseCalendarDate_dayText fourDigit]
  simp only [bind, Except.bind, target]
  exact clampDay_eq reached

/--
The next occurrence of a recurrence is the calendar's, unless the text of its end comes before that
occurrence's.
-/
theorem nextMonthlyOccurrence_text {start today : Int} (starts : FourDigit start) (current : FourDigit today)
    (last : Option String) :
    nextMonthlyOccurrence (dayText start) last (dayText today) =
      .ok (if ∃ text ∈ last, text < dayText (nextMonthly start today) then none
        else some (dayText (nextMonthly start today))) := by
  -- The texts of the start and of the month's occurrence compare as their days, so the branches are the
  -- calendar's.
  have months : (monthOf today / 12 - monthOf start / 12) * 12 + (monthOf today % 12 - monthOf start % 12) =
      monthOf today - monthOf start := by omega
  simp only [nextMonthlyOccurrence, dayText_lt_iff current starts, nextMonthly]
  by_cases early : today < start
  · simp only [if_pos early]
  · obtain ⟨low, high⟩ := current
    -- This month's occurrence has a year of four digits, as the day has.
    have this : FourDigit (clampedDay start (monthOf today)) := by
      rw [FourDigit, monthOf_clampedDay]
      exact ⟨low, high⟩
    have place : monthOf start + (monthOf today - monthOf start) = monthOf today := by omega
    have later : monthOf start + (monthOf today - monthOf start + 1) = monthOf today + 1 := by omega
    simp only [if_neg early, parseCalendarDate_dayText starts, parseCalendarDate_dayText ⟨low, high⟩,
      bind, Except.bind, months, pure, Except.pure,
      addBillingMonth_eq starts (show 12 * 100 ≤ monthOf start + (monthOf today - monthOf start) by omega),
      addBillingMonth_eq starts
        (show 12 * 100 ≤ monthOf start + (monthOf today - monthOf start + 1) by omega),
      place, later, dayText_lt_iff this ⟨low, high⟩]
    split
    · rfl
    · rfl

/-- The next occurrence is the start, or falls in the month of the day or in the one after. -/
theorem fourDigit_nextMonthly {start today : Int} (starts : FourDigit start) (current : FourDigit today)
    (near : monthOf today + 1 < 12 * 10000) : FourDigit (nextMonthly start today) := by
  -- The occurrence is in the start's month, in the day's own month or in the next.
  obtain ⟨low, high⟩ := current
  rw [nextMonthly]
  split
  · exact starts
  · split
    · rw [FourDigit, monthOf_clampedDay]
      omega
    · rw [FourDigit, monthOf_clampedDay]
      omega

/-- The next occurrence of a recurrence is the calendar's, unless the recurrence has ended by then. -/
theorem nextMonthlyOccurrence_eq {start today : Int} {last : Option Int} (starts : FourDigit start)
    (current : FourDigit today) (near : monthOf today + 1 < 12 * 10000)
    (ends : ∀ day ∈ last, FourDigit day) :
    nextMonthlyOccurrence (dayText start) (last.map dayText) (dayText today) =
      .ok (if ∃ day ∈ last, day < nextMonthly start today then none
        else some (dayText (nextMonthly start today))) := by
  -- Before the last month of the year 9999, the end's text compares as its day.
  have written := fourDigit_nextMonthly starts current near
  have ended : (∃ text ∈ last.map dayText, text < dayText (nextMonthly start today)) ↔
      ∃ day ∈ last, day < nextMonthly start today := by
    cases last with
    | none => simp
    | some day =>
      simp only [Option.map_some, Option.mem_some_iff, exists_eq_left', dayText_lt_iff (ends day rfl) written]
  rw [nextMonthlyOccurrence_text starts current]
  simp only [ended]

end PocketMint
