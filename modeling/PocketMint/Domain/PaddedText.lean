import PocketMint.Domain.DateText

/-! Dates whose years are padded to four digits: their texts, beside the texts that pad no year. -/

namespace PocketMint

open Js Calendar

/-- A date whose year has at most four digits, and whose month and day have at most two. -/
structure CivilDate.Short (date : CivilDate) : Prop where
  year : 0 ≤ date.year ∧ date.year ≤ 9999
  month : 0 ≤ date.month ∧ date.month ≤ 99
  day : 0 ≤ date.day ∧ date.day ≤ 99

theorem CivilDate.Plain.short {date : CivilDate} (plain : date.Plain) : date.Short := by
  obtain ⟨year, month, day⟩ := plain
  exact ⟨⟨by omega, year.2⟩, month, day⟩

/-- The digits of a date tell the date. -/
theorem dateText_inj {date other : CivilDate} (short : date.Short) (short' : other.Short)
    (same : dateText date = dateText other) : date = other := by
  simp only [dateText, List.cons.injEq, true_and, and_true] at same
  obtain ⟨y1, y2, y3, y4, m1, m2, d1, d2⟩ := same
  -- Each number is spelled by the same digits in both dates.
  have years := digitsValue_four short.year.1 short.year.2
  have months := digitsValue_two short.month.1 short.month.2
  have days := digitsValue_two short.day.1 short.day.2
  rw [y1, y2, y3, y4, digitsValue_four short'.year.1 short'.year.2, Option.some.injEq] at years
  rw [m1, m2, digitsValue_two short'.month.1 short'.month.2, Option.some.injEq] at months
  rw [d1, d2, digitsValue_two short'.day.1 short'.day.2, Option.some.injEq] at days
  obtain ⟨year, month, day⟩ := short
  obtain ⟨year', month', day'⟩ := short'
  cases date
  cases other
  simp only [CivilDate.mk.injEq] at *
  omega

/-- A day in the years 0 to 9999, whose number of a year four digits can hold. -/
def Padded (day : Int) : Prop := 0 ≤ monthOf day ∧ monthOf day < 12 * 10000

instance (day : Int) : Decidable (Padded day) := inferInstanceAs (Decidable (_ ∧ _))

theorem FourDigit.padded {day : Int} (fourDigit : FourDigit day) : Padded day := by
  obtain ⟨low, high⟩ := fourDigit
  exact ⟨by omega, high⟩

theorem Padded.short {day : Int} (padded : Padded day) : (civilFromDays day).Short := by
  -- The year is read off the month count, and the other numbers are always short.
  obtain ⟨low, high⟩ := padded
  obtain ⟨_, _, _, _⟩ := civilFromDays_bounds day
  simp only [monthOf] at low high
  constructor <;> omega

/-- A day of the years zero to 9999 has a short date. -/
theorem civilFromDays_short {day : Int} (low : monthOpens 0 ≤ day) (high : day < monthOpens (12 * 10000)) :
    (civilFromDays day).Short := by
  -- The month of the day lies between the months that open the first year and close the last.
  obtain ⟨opens, closes⟩ := monthOf_spec day
  have first : 0 < monthOf day + 1 := monthOpens_lt_iff.mp (low.trans_lt closes)
  have last : monthOf day < 12 * 10000 := monthOpens_lt_iff.mp (opens.trans_lt high)
  exact Padded.short ⟨by omega, last⟩

/-- The text of a day's date, with its year padded to four digits. -/
def paddedText (day : Int) : String := String.ofList (dateText (civilFromDays day))

/-- A year of four digits is not padded. -/
theorem paddedText_eq_dayText {day : Int} (fourDigit : FourDigit day) : paddedText day = dayText day := by
  rw [← String.toList_inj, paddedText, String.toList_ofList, dayText,
    toList_formatCalendarDate fourDigit.plain]

/-- The numbers of a day's date are read off its padded text. -/
theorem matchDate_paddedText {day : Int} (padded : Padded day) :
    matchDate (paddedText day) =
      some ((civilFromDays day).year, (civilFromDays day).month, (civilFromDays day).day) := by
  -- The digits of the padded date are read as its three numbers.
  obtain ⟨year, month, day⟩ := padded.short
  simp only [matchDate, paddedText, String.toList_ofList, dateText, digitsValue_four year.1 year.2,
    digitsValue_two month.1 month.2, digitsValue_two day.1 day.2]
  simp
  omega

/-- A padded text is that of a day without padding when it is the day's own and its year has four digits. -/
theorem paddedText_eq_dayText_iff {day other : Int} (padded : Padded day) :
    dayText other = paddedText day ↔ FourDigit day ∧ other = day := by
  constructor
  · intro same
    obtain ⟨_, _, _, _⟩ := civilFromDays_bounds other
    -- A written date that is read has a year of four digits, and then its digits tell the day.
    have read := matchDate_paddedText padded
    rw [← same] at read
    have year := year_of_matchDate (by omega) (by omega) read
    have plain : (civilFromDays other).Plain := ⟨year, by omega, by omega⟩
    have digits := congrArg String.toList same
    rw [dayText, toList_formatCalendarDate plain, paddedText, String.toList_ofList] at digits
    obtain rfl : other = day := civilFromDays_injective (dateText_inj plain.short padded.short digits)
    rw [year_civilFromDays] at year
    exact ⟨⟨by omega, padded.2⟩, rfl⟩
  · rintro ⟨fourDigit, rfl⟩
    exact (paddedText_eq_dayText fourDigit).symm

/-- A positive number is written with a digit above zero in front. -/
theorem exists_head_toDigits {value : Nat} (positive : 0 < value) :
    ∃ digit rest, Nat.toDigits 10 value = digit :: rest ∧ '0' < digit := by
  -- The front digit of a long number is that of the number without its last digit.
  -- The induction takes the last digit off.
  induction value using Nat.strongRecOn with
  | ind value ih =>
    by_cases small : value < 10
    · refine ⟨digitOf value, [], Nat.toDigits_of_lt_base small, ?_⟩
      have above := digitOf_lt_iff (show (0 : Int) ≤ 0 by decide) (by decide)
        (show (0 : Int) ≤ value by omega) (by omega)
      exact above.mpr (by omega)
    · obtain ⟨digit, rest, front, above⟩ := ih (value / 10) (by omega) (by omega)
      refine ⟨digit, rest ++ [(value % 10).digitChar], ?_, above⟩
      rw [Nat.toDigits_of_base_le (by decide) (by omega), front, List.cons_append]

/-- A padded year comes, as a text, before every positive year that is not padded. -/
theorem paddedText_lt {day : Int} (padded : Padded day) (early : ¬FourDigit day) {date : CivilDate}
    (common : 1 ≤ date.year) (month : 0 ≤ date.month ∧ date.month ≤ 99)
    (dayOfMonth : 0 ≤ date.day ∧ date.day ≤ 99) : paddedText day < formatCalendarDate date := by
  -- A year from one on begins with a digit that is not zero.
  obtain ⟨year, named⟩ := Int.eq_ofNat_of_zero_le (show 0 ≤ date.year by omega)
  obtain ⟨digit, rest, front, above⟩ := exists_head_toDigits (show 0 < year by omega)
  have written := toList_formatCalendarDate_year month dayOfMonth
  rw [named, toList_toString_ofNat, front] at written
  -- The first digit of the padded year is zero, and no other year begins with that.
  have thousands : (civilFromDays day).year / 1000 = 0 := by
    rw [year_civilFromDays]
    simp only [FourDigit, Padded] at early padded
    omega
  rw [String.lt_iff_toList_lt, written, paddedText, String.toList_ofList, dateText, thousands,
    List.cons_append, List.cons_lt_cons_iff]
  exact .inl above

end PocketMint
