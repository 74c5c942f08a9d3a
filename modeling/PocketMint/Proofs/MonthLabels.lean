import PocketMint.Controllers.TransactionSummary
import PocketMint.Services.TransactionQueryLaws

/-! The label of a summary, sent back as the month of a query, asks for the same summary. -/

namespace PocketMint

open Js TransactionQueryService TransactionController

/-- The characters of a label are those of its year, a dash, and two digits. -/
theorem toList_monthLabel {value : CalendarMonth} (valid : value.Valid) :
    (monthLabel value).toList =
      (toString value.year).toList ++ ['-', digitOf (value.month / 10), digitOf (value.month % 10)] := by
  obtain ⟨low, high⟩ := valid
  have dash : "-".toList = ['-'] := rfl
  simp [monthLabel, String.toList_append, dash, toList_padStart2 (show 0 ≤ value.month by omega) (by omega)]

/-- A label with a year of four digits is read as its month. -/
theorem matchMonth_label {value : CalendarMonth} (valid : value.Valid) (low : 1000 ≤ value.year)
    (high : value.year ≤ 9999) : matchMonth (monthLabel value) = some (value.year, value.month) := by
  -- The label is written digit by digit, and so it is read.
  obtain ⟨year, named⟩ := Int.eq_ofNat_of_zero_le (show 0 ≤ value.year by omega)
  have text : (monthLabel value).toList =
      [digitOf (value.year / 1000), digitOf (value.year / 100 % 10), digitOf (value.year / 10 % 10),
        digitOf (value.year % 10), '-', digitOf (value.month / 10), digitOf (value.month % 10)] := by
    rw [toList_monthLabel valid, named, toList_toString_ofNat, toDigits_four (by omega) (by omega)]
    rfl
  obtain ⟨first, last⟩ := valid
  simp only [matchMonth, text, digitsValue_four (by omega) high,
    digitsValue_two (show 0 ≤ value.month by omega) (show value.month ≤ 99 by omega)]
  simp
  omega

/-- Only the label of a year of four digits is read as a month. -/
theorem year_of_matchMonth_label {value : CalendarMonth} (valid : value.Valid) {year month : Int}
    (read : matchMonth (monthLabel value) = some (year, month)) : 1000 ≤ value.year ∧ value.year ≤ 9999 := by
  unfold matchMonth at read
  split at read
  · rename_i y1 y2 y3 y4 m1 m2 listed
    -- A text whose first four characters are no digits is not matched.
    cases years : digitsValue [y1, y2, y3, y4] with
    | none => simp [years] at read
    | some spelled =>
      -- What stands before the dash is the year, so it has four characters, and all of them are digits.
      rw [toList_monthLabel valid] at listed
      have front : (toString value.year).toList = [y1, y2, y3, y4] :=
        (List.append_inj' (show _ = [y1, y2, y3, y4] ++ ['-', m1, m2] from listed) rfl).1
      cases named : value.year with
      | ofNat count =>
        rw [named, show (Int.ofNat count) = (count : Int) from rfl, toList_toString_ofNat] at front
        -- Four digits stand for a number from a thousand on, as no leading zero is written.
        have four : (Nat.toDigits 10 count).length = 4 := by simp [front]
        have below : count < 10 ^ 4 := (Nat.length_toDigits_le_iff (by decide) (by decide)).mp four.le
        have above : ¬ count < 10 ^ 3 := fun small => by
          have short := (Nat.length_toDigits_le_iff (k := 3) (by decide) (by decide)).mpr small
          omega
        show 1000 ≤ (count : Int) ∧ (count : Int) ≤ 9999
        omega
      | negSucc count =>
        -- A sign is no digit.
        rw [named, toList_toString_negSucc] at front
        obtain ⟨digit, low, high, sign⟩ := eq_digitOf_of_digitsValue years List.mem_cons_self
        have dash : '-' = y1 := (List.cons.inj front).1
        exact absurd (dash.trans sign).symm (isDigit_digitOf low high).2
  · cases read

/--
The label of a summary, sent back as the month of a later query, asks for the same summary if its year has
four digits. A label whose year has more or fewer digits is not read, and asks for the month of the clock.
-/
theorem summary_resent (zone : Zone) (now later : Instant) (userId : Id) (month : Option QueryValue) :
    let reported := reportedMonth zone now month
    let resent := some (QueryValue.text (monthLabel reported))
    (∀ s result after, (summary zone now userId month).run s = (.ok result, after) →
      result.month = monthLabel reported) ∧
    (1000 ≤ reported.year ∧ reported.year ≤ 9999 →
      summary zone later userId resent = summary zone now userId month) ∧
    (¬(1000 ≤ reported.year ∧ reported.year ≤ 9999) →
      summary zone later userId resent = summary zone later userId none) := by
  intro reported resent
  have valid : reported.Valid := resolveMonthYear_valid zone now _ _
  -- What is read back depends on the year alone, as a reported month is always one of the twelve.
  refine ⟨fun s result after answered => (getSummary_fields answered).2, fun years => ?_, fun years => ?_⟩
  · -- The label is read as the month that was reported, which needs no clock.
    have read : mapSummaryQuery resent = (some reported.month, some reported.year) := by
      simp [mapSummaryQuery, resent, scalarString, matchMonth_label valid years.1 years.2]
    have dated : reported.year ≠ 0 := by omega
    refine getSummary_congr ?_
    rw [read]
    exact resolveMonthYear_given reported valid dated
  -- A label of another width is not matched, so the summary of the clock's month is sent.
  · have unread : mapSummaryQuery resent = mapSummaryQuery none := by
      cases read : matchMonth (monthLabel reported) with
      | some found => exact absurd (year_of_matchMonth_label valid read) years
      | none =>
        simp only [mapSummaryQuery, resent, Option.bind_some, scalarString, Option.getD_some, read]
        rfl
    rw [summary, summary, unread]

/--
A thirteenth month is taken for December, whose label asks for the same summary; the year 500 is not read
back.
-/
theorem summary_resent_december :
    let asked := some (QueryValue.list [.text "2024-13", .object])
    summary defaultTimezone.zone 1 7 (some (.text "2024-12")) = summary defaultTimezone.zone 0 7 asked ∧
      summary defaultTimezone.zone 1 7 (some (.text "500-06")) = summary defaultTimezone.zone 1 7 none := by
  intro asked
  have clamped := (summary_resent defaultTimezone.zone 0 1 7 asked).2.1 (by decide +kernel)
  have label : monthLabel (reportedMonth defaultTimezone.zone 0 asked) = "2024-12" := by decide +kernel
  have unread := (summary_resent defaultTimezone.zone 0 1 7 (some (.text "0500-06"))).2.2 (by decide +kernel)
  have early : monthLabel (reportedMonth defaultTimezone.zone 0 (some (.text "0500-06"))) = "500-06" := by
    decide +kernel
  rw [label] at clamped
  rw [early] at unread
  exact ⟨clamped, unread⟩

end PocketMint
