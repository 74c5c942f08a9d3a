import PocketMint.Calendar.Months
import PocketMint.Domain.BillingCycle
import PocketMint.Domain.ReportingTime
import Mathlib.Data.String.Basic

/-! Dates of four-digit years as texts: their characters, what is read off them, and their order. -/

namespace PocketMint

open Js Calendar BillingCycle

/-- The character of a decimal digit. -/
def digitOf (value : Int) : Char := value.toNat.digitChar

/-- The characters of the numbers of a date. -/
def dateText (date : CivilDate) : List Char :=
  [digitOf (date.year / 1000), digitOf (date.year / 100 % 10), digitOf (date.year / 10 % 10),
    digitOf (date.year % 10), '-', digitOf (date.month / 10), digitOf (date.month % 10), '-',
    digitOf (date.day / 10), digitOf (date.day % 10)]

/-- A date whose year has four digits and whose month and day have at most two. -/
structure CivilDate.Plain (date : CivilDate) : Prop where
  year : 1000 ≤ date.year ∧ date.year ≤ 9999
  month : 0 ≤ date.month ∧ date.month ≤ 99
  day : 0 ≤ date.day ∧ date.day ≤ 99

/-- A number of four digits is written with each of them. -/
theorem toDigits_four {value : Nat} (low : 1000 ≤ value) (high : value ≤ 9999) :
    Nat.toDigits 10 value =
      [(value / 1000).digitChar, (value / 100 % 10).digitChar, (value / 10 % 10).digitChar,
        (value % 10).digitChar] := by
  -- Each round of the conversion splits off the last digit.
  rw [Nat.toDigits_of_base_le (by decide) (by omega), Nat.toDigits_of_base_le (by decide) (by omega),
    Nat.toDigits_of_base_le (by decide) (by omega), Nat.toDigits_of_lt_base (by omega)]
  simp [Nat.div_div_eq_div_mul]

/-- A number of at most two digits is padded to two. -/
theorem toList_padStart2 {value : Int} (low : 0 ≤ value) (high : value ≤ 99) :
    (padStart2 value).toList = [digitOf (value / 10), digitOf (value % 10)] := by
  -- The hundred cases are evaluated.
  have all : ∀ n : Fin 100,
      (padStart2 n.val).toList = [digitOf ((n.val : Int) / 10), digitOf ((n.val : Int) % 10)] := by
    decide +kernel
  have own := all ⟨value.toNat, by omega⟩
  rwa [Int.toNat_of_nonneg low] at own

/-- A natural number is written with its digits. -/
theorem toList_toString_ofNat (value : Nat) : (toString (value : Int)).toList = Nat.toDigits 10 value :=
  Nat.toList_repr

/-- A negative number is written with a sign in front of its digits. -/
theorem toList_toString_negSucc (value : Nat) :
    (toString (Int.negSucc value)).toList = '-' :: Nat.toDigits 10 (value + 1) := by
  show ("-" ++ Nat.repr (value + 1)).toList = _
  rw [String.toList_append, Nat.toList_repr]
  rfl

/-- The characters of a date, behind those of its year. -/
theorem toList_formatCalendarDate_year {date : CivilDate} (month : 0 ≤ date.month ∧ date.month ≤ 99)
    (day : 0 ≤ date.day ∧ date.day ≤ 99) :
    (formatCalendarDate date).toList =
      (toString date.year).toList ++ ['-', digitOf (date.month / 10), digitOf (date.month % 10), '-',
        digitOf (date.day / 10), digitOf (date.day % 10)] := by
  have dash : "-".toList = ['-'] := rfl
  simp [formatCalendarDate, String.toList_append, dash, toList_padStart2 month.1 month.2,
    toList_padStart2 day.1 day.2]

/-- The characters of a date with a four-digit year. -/
theorem toList_formatCalendarDate {date : CivilDate} (plain : date.Plain) :
    (formatCalendarDate date).toList = dateText date := by
  -- A year of four digits is written with just these.
  obtain ⟨⟨low, high⟩, month, day⟩ := plain
  obtain ⟨year, named⟩ := Int.eq_ofNat_of_zero_le (show 0 ≤ date.year by omega)
  rw [toList_formatCalendarDate_year month day, dateText, named, toList_toString_ofNat,
    toDigits_four (show 1000 ≤ year by omega) (show year ≤ 9999 by omega)]
  rfl

theorem isDigit_digitOf {value : Int} (low : 0 ≤ value) (high : value ≤ 9) :
    (digitOf value).isDigit = true ∧ digitOf value ≠ '-' := by
  have all : ∀ n : Fin 10, (digitOf n.val).isDigit = true ∧ digitOf n.val ≠ '-' := by decide
  have own := all ⟨value.toNat, by omega⟩
  rwa [Int.toNat_of_nonneg low] at own

/-- Digits are ordered as their characters. -/
theorem digitOf_lt_iff {value other : Int} (low : 0 ≤ value) (high : value ≤ 9) (low' : 0 ≤ other)
    (high' : other ≤ 9) : digitOf value < digitOf other ↔ value < other := by
  have all : ∀ n m : Fin 10, digitOf n.val < digitOf m.val ↔ (n.val : Int) < m.val := by decide
  have own := all ⟨value.toNat, by omega⟩ ⟨other.toNat, by omega⟩
  simpa only [Int.toNat_of_nonneg low, Int.toNat_of_nonneg low'] using own

/-- Digits of the same character are equal. -/
theorem digitOf_inj {value other : Int} (low : 0 ≤ value) (high : value ≤ 9) (low' : 0 ≤ other)
    (high' : other ≤ 9) : digitOf value = digitOf other ↔ value = other := by
  have all : ∀ n m : Fin 10, digitOf n.val = digitOf m.val ↔ (n.val : Int) = m.val := by decide
  have own := all ⟨value.toNat, by omega⟩ ⟨other.toNat, by omega⟩
  simpa only [Int.toNat_of_nonneg low, Int.toNat_of_nonneg low'] using own

/-- Digits spell the number that they are the digits of. -/
theorem digitsValue_cons {value : Int} (low : 0 ≤ value) (high : value ≤ 9) {digits : List Char}
    {rest : Nat} (tail : digitsValue digits = some rest) :
    digitsValue (digitOf value :: digits) = some (value.toNat * 10 ^ digits.length + rest) := by
  -- The front digit counts for a power of ten for each digit behind it.
  have head := (isDigit_digitOf low high).1
  unfold digitsValue at tail ⊢
  split at tail
  · rename_i all
    -- The digits behind are all digits, so that the whole is a number.
    rw [Option.some.injEq] at tail
    rw [if_pos (by simp [head, all]), ← tail, digitOf,
      Nat.ofDigitChars_cons_digitChar_of_lt_ten (by omega), Nat.ofDigitChars_eq_ofDigitChars_zero]
    simp [Nat.mul_comm]
  · simp at tail

theorem digitsValue_two {value : Int} (low : 0 ≤ value) (high : value ≤ 99) :
    digitsValue [digitOf (value / 10), digitOf (value % 10)] = some value.toNat := by
  rw [digitsValue_cons (by omega) (by omega) (digitsValue_cons (by omega) (by omega) rfl)]
  simp
  omega

theorem digitsValue_four {value : Int} (low : 0 ≤ value) (high : value ≤ 9999) :
    digitsValue [digitOf (value / 1000), digitOf (value / 100 % 10), digitOf (value / 10 % 10),
      digitOf (value % 10)] = some value.toNat := by
  -- The digits are put in front one at a time.
  rw [digitsValue_cons (by omega) (by omega) (digitsValue_cons (by omega) (by omega)
    (digitsValue_cons (by omega) (by omega) (digitsValue_cons (by omega) (by omega) rfl)))]
  simp only [List.length_cons, List.length_nil, Nat.ofDigitChars_nil, zero_add, pow_zero, mul_one,
    add_zero, Nat.reduceAdd, Nat.reducePow, Option.some.injEq]
  obtain ⟨n, rfl⟩ := Int.eq_ofNat_of_zero_le low
  -- Each digit is split off the number that is left of the ones before.
  have hundreds : n / 100 = n / 1000 * 10 + n / 100 % 10 := by omega
  have tens : n / 10 = n / 100 * 10 + n / 10 % 10 := by omega
  have ones : n = n / 10 * 10 + n % 10 := by omega
  have spelled : n / 1000 * 1000 + (n / 100 % 10 * 100 + (n / 10 % 10 * 10 + n % 10)) = n := by
    omega
  have asNat : ((n : Int) / 1000).toNat = n / 1000 ∧ ((n : Int) / 100 % 10).toNat = n / 100 % 10 ∧
      ((n : Int) / 10 % 10).toNat = n / 10 % 10 ∧ ((n : Int) % 10).toNat = n % 10 :=
    ⟨rfl, rfl, rfl, rfl⟩
  rw [asNat.1, asNat.2.1, asNat.2.2.1, asNat.2.2.2, Int.toNat_natCast]
  exact spelled

/-- The numbers of a date are read off its text. -/
theorem matchDate_format {date : CivilDate} (plain : date.Plain) :
    matchDate (formatCalendarDate date) = some (date.year, date.month, date.day) := by
  -- The numbers are read back from the digits that spell them.
  have text := toList_formatCalendarDate plain
  obtain ⟨year, month, day⟩ := plain
  simp only [matchDate, text, dateText, digitsValue_four (by omega) year.2,
    digitsValue_two month.1 month.2, digitsValue_two day.1 day.2]
  simp
  omega

/-- Texts that begin with two digits are ordered by these, and then by what follows. -/
theorem twoDigits_lt_iff {value other : Int} (low : 0 ≤ value) (high : value ≤ 99) (low' : 0 ≤ other)
    (high' : other ≤ 99) {rest rest' : List Char} :
    digitOf (value / 10) :: digitOf (value % 10) :: rest <
        digitOf (other / 10) :: digitOf (other % 10) :: rest' ↔
      value < other ∨ value = other ∧ rest < rest' := by
  simp only [List.cons_lt_cons_iff]
  rw [digitOf_lt_iff (by omega) (by omega) (by omega) (by omega),
    digitOf_lt_iff (by omega) (by omega) (by omega) (by omega),
    digitOf_inj (by omega) (by omega) (by omega) (by omega),
    digitOf_inj (by omega) (by omega) (by omega) (by omega)]
  -- The first digit decides unless it is shared, and then the second does.
  constructor
  · rintro (first | ⟨first, second | ⟨second, later⟩⟩)
    · exact .inl (by omega)
    · exact .inl (by omega)
    · exact .inr ⟨by omega, later⟩
  · rintro (less | ⟨rfl, later⟩)
    · by_cases first : value / 10 = other / 10
      · exact .inr ⟨first, .inl (by omega)⟩
      · exact .inl (by omega)
    · exact .inr ⟨rfl, .inr ⟨rfl, later⟩⟩

/-- Dates are ordered as their texts. -/
theorem formatCalendarDate_lt_iff {date other : CivilDate} (plain : date.Plain) (plain' : other.Plain) :
    formatCalendarDate date < formatCalendarDate other ↔
      date.year < other.year ∨ date.year = other.year ∧
        (date.month < other.month ∨ date.month = other.month ∧ date.day < other.day) := by
  rw [String.lt_iff_toList_lt, toList_formatCalendarDate plain, toList_formatCalendarDate plain']
  obtain ⟨year, month, day⟩ := plain
  obtain ⟨year', month', day'⟩ := plain'
  -- A year is two pairs of digits, its century and its year of the century.
  have pairs : ∀ value : Int, value / 1000 = value / 100 / 10 ∧ value / 10 % 10 = value % 100 / 10 ∧
      value % 10 = value % 100 % 10 := by
    intro value
    omega
  have dash : ∀ rest rest' : List Char, '-' :: rest < '-' :: rest' ↔ rest < rest' := by
    intro rest rest'
    simp
  rw [dateText, dateText, (pairs date.year).1, (pairs date.year).2.1, (pairs date.year).2.2,
    (pairs other.year).1, (pairs other.year).2.1, (pairs other.year).2.2,
    twoDigits_lt_iff (by omega) (by omega) (by omega) (by omega),
    -- The century and the year of the century are compared like two numbers of two digits.
    twoDigits_lt_iff (by omega) (by omega) (by omega) (by omega), dash,
    twoDigits_lt_iff month.1 month.2 month'.1 month'.2, dash,
    twoDigits_lt_iff day.1 day.2 day'.1 day'.2]
  simp only [List.not_lt_nil, and_false, or_false]
  omega

/-- A day in the years 1000 to 9999, whose number of a year has four digits. -/
def FourDigit (day : Int) : Prop := 12 * 1000 ≤ monthOf day ∧ monthOf day < 12 * 10000

instance (day : Int) : Decidable (FourDigit day) := inferInstanceAs (Decidable (_ ∧ _))

/-- The text of a day's date. -/
def dayText (day : Int) : String := formatCalendarDate (civilFromDays day)

theorem FourDigit.plain {day : Int} (fourDigit : FourDigit day) : (civilFromDays day).Plain := by
  -- The year is that of the month, and a calendar date has short months and days.
  obtain ⟨low, high⟩ := fourDigit
  obtain ⟨_, _, _, _⟩ := civilFromDays_bounds day
  simp only [monthOf] at low high
  constructor <;> omega

/-- The numbers of a day's date are read off its text. -/
theorem matchDate_dayText {day : Int} (fourDigit : FourDigit day) :
    matchDate (dayText day) =
      some (monthOf day / 12, monthOf day % 12 + 1, day - monthOpens (monthOf day) + 1) := by
  have date := civilFromDays_eq (monthOf_spec day).1 (monthOf_spec day).2
  rw [dayText, matchDate_format fourDigit.plain, date]

/-- Days are ordered as their texts. -/
theorem dayText_lt_iff {day other : Int} (first : FourDigit day) (second : FourDigit other) :
    dayText day < dayText other ↔ day < other :=
  (formatCalendarDate_lt_iff first.plain second.plain).trans lt_iff_civilFromDays.symm

/-- A character that is a digit is the digit of a number. -/
theorem eq_digitOf {digit : Char} (isDigit : digit.isDigit = true) :
    ∃ value : Int, 0 ≤ value ∧ value ≤ 9 ∧ digit = digitOf value := by
  -- Digits lie between the codes of their first and their last.
  simp only [Char.isDigit, Bool.and_eq_true, decide_eq_true_eq, ge_iff_le, UInt32.le_iff_toNat_le] at isDigit
  obtain ⟨low, high⟩ := isDigit
  have low : 48 ≤ digit.toNat := low
  have high : digit.toNat ≤ 57 := high
  refine ⟨((digit.toNat - 48 : Nat) : Int), by omega, by omega, ?_⟩
  have all : ∀ n : Fin 10, Char.ofNat (n.val + 48) = n.val.digitChar := by decide
  have own := all ⟨digit.toNat - 48, by omega⟩
  have code : digit.toNat - 48 + 48 = digit.toNat := by omega
  rw [code, Char.ofNat_toNat] at own
  exact own

/-- Every digit of a text that spells a number is the digit of a number. -/
theorem eq_digitOf_of_digitsValue {digits : List Char} {value : Nat}
    (read : digitsValue digits = some value) {digit : Char} (listed : digit ∈ digits) :
    ∃ value : Int, 0 ≤ value ∧ value ≤ 9 ∧ digit = digitOf value := by
  -- What is read as a number consists of digits.
  unfold digitsValue at read
  split at read
  · rename_i all
    exact eq_digitOf (List.all_eq_true.mp all digit listed)
  · cases read

/-- A text that is read as a date is the one that this date is written as. -/
theorem eq_format_of_matchDate {text : String} {year month day : Int}
    (read : matchDate text = some (year, month, day)) (low : 1000 ≤ year) :
    text = formatCalendarDate { year, month, day } ∧ year ≤ 9999 ∧
      (0 ≤ month ∧ month ≤ 99) ∧ 0 ≤ day ∧ day ≤ 99 := by
  -- A text is read as a date only in the form of four, two and two digits.
  unfold matchDate at read
  split at read
  · rename_i y1 y2 y3 y4 m1 m2 d1 d2 listed
    cases years : digitsValue [y1, y2, y3, y4] with
    | none => simp [years] at read
    | some yearValue =>
    cases months : digitsValue [m1, m2] with
    | none => simp [years, months] at read
    | some monthValue =>
    cases days : digitsValue [d1, d2] with
    | none => simp [years, months, days] at read
    | some dayValue =>
    simp only [years, months, days, bind, Option.bind, pure, Option.some.injEq, Prod.mk.injEq] at read
    -- Each character is a digit, so that the numbers are those that the digits spell.
    obtain ⟨a, _, _, rfl⟩ := eq_digitOf_of_digitsValue years (show y1 ∈ _ by simp)
    obtain ⟨b, _, _, rfl⟩ := eq_digitOf_of_digitsValue years (show y2 ∈ _ by simp)
    obtain ⟨c, _, _, rfl⟩ := eq_digitOf_of_digitsValue years (show y3 ∈ _ by simp)
    obtain ⟨d, _, _, rfl⟩ := eq_digitOf_of_digitsValue years (show y4 ∈ _ by simp)
    obtain ⟨e, _, _, rfl⟩ := eq_digitOf_of_digitsValue months (show m1 ∈ _ by simp)
    obtain ⟨f, _, _, rfl⟩ := eq_digitOf_of_digitsValue months (show m2 ∈ _ by simp)
    obtain ⟨g, _, _, rfl⟩ := eq_digitOf_of_digitsValue days (show d1 ∈ _ by simp)
    obtain ⟨h, _, _, rfl⟩ := eq_digitOf_of_digitsValue days (show d2 ∈ _ by simp)
    have spelled := digitsValue_four (show 0 ≤ a * 1000 + b * 100 + c * 10 + d by omega) (by omega)
    have spelledMonth := digitsValue_two (show 0 ≤ e * 10 + f by omega) (by omega)
    have spelledDay := digitsValue_two (show 0 ≤ g * 10 + h by omega) (by omega)
    have digits : (a * 1000 + b * 100 + c * 10 + d) / 1000 = a ∧
        (a * 1000 + b * 100 + c * 10 + d) / 100 % 10 = b ∧
        (a * 1000 + b * 100 + c * 10 + d) / 10 % 10 = c ∧ (a * 1000 + b * 100 + c * 10 + d) % 10 = d := by
      -- The digits of a number tell the number and are told by it.
      omega
    have pair : ∀ tens ones : Int, 0 ≤ ones → ones ≤ 9 →
        (tens * 10 + ones) / 10 = tens ∧ (tens * 10 + ones) % 10 = ones := by
      intro tens ones low high
      omega
    obtain ⟨tens, ones⟩ := pair e f (by omega) (by omega)
    obtain ⟨tens', ones'⟩ := pair g h (by omega) (by omega)
    rw [digits.1, digits.2.1, digits.2.2.1, digits.2.2.2, years, Option.some.injEq] at spelled
    rw [tens, ones, months, Option.some.injEq] at spelledMonth
    rw [tens', ones', days, Option.some.injEq] at spelledDay
    have shape : year = a * 1000 + b * 100 + c * 10 + d ∧ month = e * 10 + f ∧ day = g * 10 + h := by
      omega
    obtain ⟨rfl, rfl, rfl⟩ := shape
    have high : a * 1000 + b * 100 + c * 10 + d ≤ 9999 := by omega
    have month : 0 ≤ e * 10 + f ∧ e * 10 + f ≤ 99 := by omega
    have day : 0 ≤ g * 10 + h ∧ g * 10 + h ≤ 99 := by omega
    -- All numbers of the date are as short as their digits say.
    have bounds : CivilDate.Plain
        { year := a * 1000 + b * 100 + c * 10 + d, month := e * 10 + f, day := g * 10 + h } :=
      ⟨⟨low, high⟩, month, day⟩
    refine ⟨?_, bounds.year.2, bounds.month, bounds.day⟩
    rw [← String.toList_inj, toList_formatCalendarDate bounds, listed, dateText]
    simp only [digits, tens, ones, tens', ones']
  · cases read

/-- A written date that is read has a year of four digits, because no year is padded. -/
theorem year_of_matchDate {date : CivilDate} (month : 0 ≤ date.month ∧ date.month ≤ 99)
    (day : 0 ≤ date.day ∧ date.day ≤ 99) {parts : Int × Int × Int}
    (read : matchDate (formatCalendarDate date) = some parts) : 1000 ≤ date.year ∧ date.year ≤ 9999 := by
  -- The text has ten characters, of which the month, the day and the dashes are six.
  have text := toList_formatCalendarDate_year month day
  unfold matchDate at read
  split at read
  · rename_i y1 y2 y3 y4 m1 m2 d1 d2 listed
    rw [text] at listed
    -- The year fills the four places in front of the first dash.
    cases years : digitsValue [y1, y2, y3, y4] with
    | none => simp [years] at read
    | some yearValue =>
    have width := congrArg List.length listed
    simp only [List.length_append, List.length_cons, List.length_nil] at width
    cases year : date.year with
    | ofNat n =>
      rw [year, show Int.ofNat n = (n : Int) from rfl, toList_toString_ofNat] at width
      have short := (Nat.length_toDigits_le_iff (show 1 < 10 by decide) (show 0 < 4 by decide)).mp
        (show (Nat.toDigits 10 n).length ≤ 4 by omega)
      have long : ¬n < 10 ^ 3 := by
        rw [← Nat.length_toDigits_le_iff (show 1 < 10 by decide) (show 0 < 3 by decide)]
        omega
      show 1000 ≤ (n : Int) ∧ (n : Int) ≤ 9999
      omega
    | negSucc n =>
      -- A sign is no digit.
      rw [year, toList_toString_negSucc] at listed
      injection listed with first
      rw [← first] at years
      simp [digitsValue] at years
  · cases read

/-- Both calendars write a date alike. -/
theorem formatDate_eq (year monthIndex day : Int) :
    formatDate year monthIndex day = formatCalendarDate { year, month := monthIndex + 1, day } := rfl

end PocketMint
