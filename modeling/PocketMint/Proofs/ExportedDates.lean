import PocketMint.Domain.PaddedText
import PocketMint.Proofs.ExportQueries
import PocketMint.Proofs.Sparkline

/-! The dates in an exported file: the UTC day of each transaction, beside its reporting day. -/

namespace PocketMint

open Js Calendar

/-- A number that ends in a digit is padded in front of that digit. -/
theorem padDigits_succ {width : Nat} (positive : 0 < width) (front : Nat) {last : Nat} (digit : last < 10) :
    padDigits (width + 1) (10 * front + last) = padDigits width front ++ [last.digitChar] := by
  -- A number of one digit is padded, and a longer one is its front and its last digit.
  cases front with
  | zero =>
    -- A number of one digit fills the width with zeros in front.
    obtain ⟨width, rfl⟩ : ∃ n, width = n + 1 := ⟨width - 1, by omega⟩
    simp only [padDigits, Nat.mul_zero, Nat.zero_add, Nat.toDigits_of_lt_base digit,
      Nat.toDigits_of_lt_base (show 0 < 10 by decide), List.length_singleton]
    rw [show width + 1 + 1 - 1 = width + 1 by omega, show width + 1 - 1 = width by omega,
      List.replicate_succ']
    rfl
  | succ front =>
    -- Its digits are those of the front, and the last one.
    have digits : Nat.toDigits 10 (10 * (front + 1) + last) =
        Nat.toDigits 10 (front + 1) ++ [last.digitChar] := by
      rw [Nat.toDigits_of_base_le (by decide) (by omega)]
      congr 2
      · omega
      · congr 1
        omega
    simp only [padDigits, digits, List.length_append, List.length_singleton, Nat.add_sub_add_right,
      List.append_assoc]

/-- A number of at most two digits is padded to both. -/
theorem padDigits_two {value : Int} (low : 0 ≤ value) (high : value ≤ 99) :
    padDigits 2 value.natAbs = [digitOf (value / 10), digitOf (value % 10)] := by
  obtain ⟨n, rfl⟩ := Int.eq_ofNat_of_zero_le low
  have split : n = 10 * (n / 10) + n % 10 := by omega
  have front : padDigits 1 (n / 10) = [(n / 10).digitChar] := by
    simp [padDigits, Nat.toDigits_of_lt_base (show n / 10 < 10 by omega)]
  rw [Int.natAbs_natCast, split, padDigits_succ (by decide) _ (by omega), front, ← split]
  rfl

/-- A number of at most four digits is padded to all of them. -/
theorem padDigits_four {value : Int} (low : 0 ≤ value) (high : value ≤ 9999) :
    padDigits 4 value.natAbs =
      [digitOf (value / 1000), digitOf (value / 100 % 10), digitOf (value / 10 % 10),
        digitOf (value % 10)] := by
  obtain ⟨n, rfl⟩ := Int.eq_ofNat_of_zero_le low
  -- The last two digits are split off one after the other, and two are left.
  have pairs := padDigits_two (show 0 ≤ (n : Int) / 100 by omega) (by omega)
  have hundreds : ((n : Int) / 100).natAbs = n / 100 := by omega
  have tens : n / 10 = 10 * (n / 100) + n / 10 % 10 := by omega
  have ones : n = 10 * (n / 10) + n % 10 := by omega
  rw [hundreds] at pairs
  have three : padDigits 3 (n / 10) = padDigits 2 (n / 100) ++ [(n / 10 % 10).digitChar] := by
    conv_lhs => rw [tens]
    exact padDigits_succ (by decide) _ (by omega)
  have four : padDigits 4 n = padDigits 3 (n / 10) ++ [(n % 10).digitChar] := by
    conv_lhs => rw [ones]
    exact padDigits_succ (by decide) _ (by omega)
  have thousands : (n : Int) / 100 / 10 = (n : Int) / 1000 := by omega
  rw [Int.natAbs_natCast, four, three, pairs, thousands]
  rfl

/-- A day of the years zero to 9999 is written with four digits for the year. -/
theorem toList_isoDay {instant : Instant} (low : 0 ≤ (utcDate instant).year)
    (high : (utcDate instant).year ≤ 9999) : (isoDay instant).toList = dateText (utcDate instant) := by
  obtain ⟨_, _, _, _⟩ : 1 ≤ (utcDate instant).month ∧ (utcDate instant).month ≤ 12 ∧
      1 ≤ (utcDate instant).day ∧ (utcDate instant).day ≤ 31 := civilFromDays_bounds (instant / msPerDay)
  simp only [isoDay, if_pos (And.intro low high), String.toList_ofList, padDigits_four low high,
    padDigits_two (show 0 ≤ (utcDate instant).month by omega) (by omega),
    padDigits_two (show 0 ≤ (utcDate instant).day by omega) (by omega)]
  rfl

namespace FixedZone

variable (fixed : FixedZone) {instant : Int}

/--
The UTC day and the reporting day of an instant are one exactly when its time of day stays within the day.
-/
theorem dayOf_eq_iff : instant / msPerDay = fixed.dayOf instant ↔
    0 ≤ instant % msPerDay + fixed.shift ∧ instant % msPerDay + fixed.shift < msPerDay := by
  simp only [dayOf, msPerDay]
  omega

/--
From August 999 up to 9998, both texts of an instant agree on the days they share from the year 1000 on.
-/
theorem isoDay_eq_iff (low : 12 * 1000 - 5 ≤ fixed.monthAt instant)
    (high : fixed.monthAt instant < 12 * 9999) :
    isoDay instant = formatReportingDate instant fixed.zone ↔
      (0 ≤ instant % msPerDay + fixed.shift ∧ instant % msPerDay + fixed.shift < msPerDay) ∧
        12 * 1000 ≤ fixed.monthAt instant := by
  have bounds := fixed.shift_bounds
  -- The day lies between the openings of the first and the last month.
  obtain ⟨opens, closes⟩ := monthOf_spec (fixed.dayOf instant)
  have first : monthOpens (12 * 1000 - 5) ≤ fixed.dayOf instant :=
    (monthOpens_le_iff.mpr low).trans opens
  have last : fixed.dayOf instant < monthOpens (12 * 9999) :=
    closes.trans_le (monthOpens_le_iff.mpr (by
      rw [monthAt] at high
      omega))
  -- The UTC day is at most one day away.
  have near : fixed.dayOf instant - 1 ≤ instant / msPerDay ∧ instant / msPerDay ≤
      fixed.dayOf instant + 1 := by
    simp only [dayOf, msPerDay] at *
    omega
  have earliest : monthOpens 0 + 1 ≤ monthOpens (12 * 1000 - 5) := by decide
  have latest : monthOpens (12 * 9999) + 1 ≤ monthOpens (12 * 10000) := by decide
  -- Both days have years of at most four digits.
  have own := civilFromDays_short (show monthOpens 0 ≤ fixed.dayOf instant by omega) (by omega)
  have utc := civilFromDays_short (show monthOpens 0 ≤ instant / msPerDay by omega) (by omega)
  have written := toList_isoDay utc.year.1 utc.year.2
  -- The day is late enough to be shown as it is.
  have full : firstFullDay ≤ fixed.dayOf instant := by
    have earlier : firstFullDay ≤ monthOpens (12 * 1000 - 5) := by decide
    omega
  rw [← fixed.dayOf_eq_iff, fixed.formatReportingDate_full full, ← String.toList_inj, written]
  by_cases padded : 12 * 1000 ≤ fixed.monthAt instant
  · -- Both texts have ten characters, and so each tells its day.
    have plain : (civilFromDays (fixed.dayOf instant)).Plain :=
      FourDigit.plain ⟨padded, by rw [monthAt] at high; omega⟩
    rw [toList_formatCalendarDate plain]
    constructor
    · intro same
      exact ⟨civilFromDays_injective (dateText_inj utc own same), padded⟩
    · rintro ⟨same, -⟩
      rw [utcDate, same]
  · -- The year 999 is written without a zero in front, so its text has nine characters.
    refine iff_of_false ?_ fun both => padded both.2
    intro same
    have year : (civilFromDays (fixed.dayOf instant)).year = 999 := by
      obtain ⟨_, _, _⟩ := civilFromDays_bounds (fixed.dayOf instant)
      simp only [monthAt, monthOf] at low padded
      omega
    have width := congrArg List.length same
    simp only [dateText, formatCalendarDate, year, String.toList_append, List.length_append,
      toList_padStart2 own.month.1 own.month.2, toList_padStart2 own.day.1 own.day.2,
      List.length_cons, List.length_nil] at width
    exact absurd width (by decide)

/-- An instant before the end of a range of days shows one of these days. -/
theorem dayOf_bounds {first last : Int} (start : fixed.midnight first ≤ instant)
    (finish : instant < fixed.midnight (last + 1)) :
    first ≤ fixed.dayOf instant ∧ fixed.dayOf instant ≤ last := by
  simp only [dayOf, midnight, msPerDay] at *
  omega

/-- A month has begun exactly when the calendar is in it or in a later one. -/
theorem le_monthAt_iff {month : Int} :
    month ≤ fixed.monthAt instant ↔ fixed.midnight (monthOpens month) ≤ instant := by
  -- The month of an instant is that of its day.
  obtain ⟨opens, closes⟩ := monthOf_spec (fixed.dayOf instant)
  -- An instant is past a midnight exactly if its day is past the day of it.
  have begun : fixed.midnight (monthOpens month) ≤ instant ↔ monthOpens month ≤ fixed.dayOf instant := by
    simp only [dayOf, midnight, msPerDay]
    omega
  rw [begun, monthAt]
  -- Months are ordered like the days that open them.
  constructor
  · intro later
    exact (monthOpens_le_iff.mpr later).trans opens
  · intro before
    have order := monthOpens_lt_iff.mp (before.trans_lt closes)
    omega

/-- The month that an anchor names is one of the twelve. -/
theorem valid_of_names {now : Instant} {anchor : Option String} {value : CalendarMonth}
    (names : NamesMonth fixed.zone now anchor value) : value.Valid := by
  cases anchor with
  | none =>
    rw [show value = _ from names]
    exact currentReportingMonth_valid fixed.zone now
  | some text => exact names.2

/-- The name of a file tells the first and the last day of its range. -/
theorem exportFilename_days {first last : Int} (low : firstFullDay ≤ first) (order : first ≤ last) :
    exportFilename (fixed.midnight first) (fixed.midnight (last + 1)) fixed.zone =
      "financial-report-" ++ dayText first ++ "_to_" ++ dayText last ++ ".csv" := by
  -- A millisecond before the end, the calendar still shows the last day.
  have ends : fixed.dayOf (fixed.midnight (last + 1) - 1) = last := by
    simp only [dayOf, midnight, msPerDay]
    omega
  -- The start is shown as the first day.
  have start : formatReportingDate (fixed.midnight first) fixed.zone = dayText first := by
    rw [fixed.formatReportingDate_full (by rw [fixed.dayOf_midnight]; exact low), fixed.dayOf_midnight,
      dayText]
  have finish : formatReportingDate (fixed.midnight (last + 1) - 1) fixed.zone = dayText last := by
    rw [fixed.formatReportingDate_full (by rw [ends]; exact low.trans order), ends, dayText]
  -- The name joins the two texts.
  unfold exportFilename
  rw [start, finish]

/-- An export sends the transactions of its months, under a name that tells their first and last day. -/
theorem export_sends_period {now : Instant} {s : Store} {query : ExportQuery} {key : String}
    {period : ExportPeriod} {value : CalendarMonth} (given : query.period = some key)
    (named : ExportPeriod.ofKey? key = some period) (names : NamesMonth fixed.zone now query.anchor value)
    (years : 1000 ≤ value.year ∧ value.year ≤ 9998)
    (kept : ∀ row ∈ s.transactions.rows, (s.wallets.find? row.walletId).isSome) :
    let first := monthOpens (openingMonth period value)
    let last := monthOpens (value.index + 1) - 1
    firstFullDay ≤ first ∧ ∃ rows,
      (TransactionController.export_ fixed.zone now query).run s =
        (.ok (.send ("financial-report-" ++ dayText first ++ "_to_" ++ dayText last ++ ".csv")
          (transactionsToCsv rows)), s) ∧
      (rows.map ExportedTransaction.transaction).Perm
        (s.transactionsIn query.userId (fixed.midnight first) (fixed.midnight (last + 1))) := by
  intro first last
  -- The period counts back from the month of the anchor.
  obtain ⟨_, _⟩ := exportPeriodMonths_bounds period
  obtain ⟨_, _⟩ := fixed.valid_of_names names
  have index : value.index = value.year * 12 + (value.month - 1) := rfl
  have opening : openingMonth period value = value.index - (exportPeriodMonths period - 1) := rfl
  have opens : ∀ month : Int, 12 * 101 ≤ month → month ≤ 12 * 200000 → fixed.Resolves (monthOpens month) :=
    fun month low high => (fixed.monthResolves_of_bounds low high).1
  -- The anchor is accepted, and it shows the month that it names.
  obtain ⟨instant, accepted, shown⟩ :=
    fixed.parseReportingAnchor_names names fun _ => opens _ (by omega) (by omega)
  -- All the months in question lie where the zone resolves, so the range is computed.
  have resolved : resolveExportRangeOf fixed.zone key instant =
      .ok (fixed.midnight first, fixed.midnight (last + 1)) := by
    rw [show last + 1 = monthOpens (value.index + 1) from sub_add_cancel _ _]
    simp only [resolveExportRangeOf, named]
    exact fixed.resolveExportRange_resolves period shown (opens _ (by omega) (by omega))
      (opens _ (by omega) (by omega))
  -- The first day is late enough to be shown as it is, and the last one is not before it.
  have full := (opens (openingMonth period value) (by omega) (by omega)).full
  have order : first ≤ last := by
    have before : first < monthOpens (value.index + 1) := monthOpens_lt_iff.mpr (by omega)
    exact Int.le_sub_one_of_lt before
  -- The handler sends the rows of the window under the name of the two days.
  obtain ⟨rows, sent, selected⟩ := TransactionController.export_sends given
    (by simp [inExportPeriodMonths, named]) accepted resolved kept
  rw [fixed.exportFilename_days full order] at sent
  exact ⟨full, rows, sent, selected⟩

end FixedZone

/--
An export sends the transactions of its months under a name that tells their first and last day.

The date cell of a transaction is its reporting date, between those two, on exactly one condition.
Its time of day in UTC and the zone's offset stay within one day, and its reporting year is not 999.
-/
theorem export_dates_iff (fixed : FixedZone) (now : Instant) (s : Store) (userId : Id) {key : String}
    {anchor : Option String} {period : ExportPeriod} {value : CalendarMonth}
    (named : ExportPeriod.ofKey? key = some period) (names : NamesMonth fixed.zone now anchor value)
    (years : 1000 ≤ value.year ∧ value.year ≤ 9998)
    (kept : ∀ row ∈ s.transactions.rows, (s.wallets.find? row.walletId).isSome) :
    let first := monthOpens (openingMonth period value)
    let last := monthOpens (value.index + 1) - 1
    ∃ rows,
      (TransactionController.export_ fixed.zone now { userId, period := some key, anchor }).run s =
        (.ok (.send ("financial-report-" ++ dayText first ++ "_to_" ++ dayText last ++ ".csv")
          (transactionsToCsv rows)), s) ∧
      (rows.map ExportedTransaction.transaction).Perm
        (s.transactionsIn userId (fixed.midnight first) (fixed.midnight (last + 1))) ∧
      ∀ row ∈ rows,
        ((csvRow row).head? = some (formatReportingDate row.transaction.date fixed.zone) ∧
          ∃ day, (csvRow row).head? = some (dayText day) ∧ first ≤ day ∧ day ≤ last) ↔
        (0 ≤ row.transaction.date % msPerDay + fixed.shift ∧
          row.transaction.date % msPerDay + fixed.shift < msPerDay) ∧
          fixed.midnight (monthOpens (12 * 1000)) ≤ row.transaction.date := by
  intro first last
  let query : ExportQuery := { userId, period := some key, anchor }
  obtain ⟨_, _⟩ := exportPeriodMonths_bounds period
  obtain ⟨_, _⟩ := fixed.valid_of_names names
  have index : value.index = value.year * 12 + (value.month - 1) := rfl
  have opening : openingMonth period value = value.index - (exportPeriodMonths period - 1) := rfl
  -- The file holds the rows of the window.
  obtain ⟨full, rows, sent, selected⟩ :=
    fixed.export_sends_period (show query.period = some key from rfl) named names years kept
  refine ⟨rows, sent, selected, fun row among => ?_⟩
  -- A listed transaction lies in the window, so its reporting day is one of the named range.
  have within := ((mem_rowsBetween _).mp (selected.mem_iff.mp (List.mem_map_of_mem among))).2
  have shownDay : first ≤ fixed.dayOf row.transaction.date ∧ fixed.dayOf row.transaction.date ≤ last :=
    fixed.dayOf_bounds within.1 within.2
  -- So its month is one of the period, or one of the few before it.
  have month : 12 * 1000 - 5 ≤ fixed.monthAt row.transaction.date ∧
      fixed.monthAt row.transaction.date < 12 * 9999 := by
    obtain ⟨opens, closes⟩ := monthOf_spec (fixed.dayOf row.transaction.date)
    have low : openingMonth period value < fixed.monthAt row.transaction.date + 1 :=
      monthOpens_lt_iff.mp (shownDay.1.trans_lt closes)
    have high : fixed.monthAt row.transaction.date < value.index + 1 :=
      monthOpens_lt_iff.mp (opens.trans_lt (Int.lt_of_le_sub_one shownDay.2))
    omega
  -- The cell is the UTC date of the transaction.
  have cell : (csvRow row).head? = some (isoDay row.transaction.date) := rfl
  rw [← fixed.le_monthAt_iff, ← fixed.isoDay_eq_iff month.1 month.2, cell, Option.some.injEq]
  constructor
  · rintro ⟨same, -⟩
    exact same
  -- The cell of the row is that day, and it lies in the range.
  · intro same
    refine ⟨same, fixed.dayOf row.transaction.date, ?_, shownDay⟩
    rw [same, fixed.formatReportingDate_full (full.trans shownDay.1), dayText]

/-- The name of the file for January 2026. -/
theorem filename_january :
    let value : CalendarMonth := { year := 2026, month := 1 }
    "financial-report-" ++ dayText (monthOpens (openingMonth .month value)) ++ "_to_" ++
      dayText (monthOpens (value.index + 1) - 1) ++ ".csv" =
        "financial-report-2026-01-01_to_2026-01-31.csv" := by
  decide +kernel

/-- The export of January 2026 lists an expense of noon on its second day under that day. -/
theorem export_dates_noon :
    let s := serveAll defaultTimezone.zone .empty (spentOn "2026-01-02T05:00:00Z")
    ∃ rows, (TransactionController.export_ defaultTimezone.zone 0
        { userId := 1, period := some "month", anchor := some "2026-01" }).run s =
          (.ok (.send "financial-report-2026-01-01_to_2026-01-31.csv" (transactionsToCsv rows)), s) ∧
      ∃ row ∈ rows, (csvRow row).head? = some "2026-01-02" := by
  intro s
  let value : CalendarMonth := { year := 2026, month := 1 }
  -- At noon the two dates of a transaction agree, which the general rule turns into the cell.
  have kept : ∀ row ∈ s.transactions.rows, (s.wallets.find? row.walletId).isSome := by decide +kernel
  have spent : ∃ row ∈ s.transactionsIn 1
      (defaultTimezone.midnight (monthOpens (openingMonth .month value)))
      (defaultTimezone.midnight (monthOpens (value.index + 1) - 1 + 1)),
      row.date = 1767330000000 := by
    decide +kernel
  clear_value s
  obtain ⟨rows, sent, selected, dated⟩ := export_dates_iff defaultTimezone 0 s 1
    (show ExportPeriod.ofKey? "month" = some .month from rfl)
    (show NamesMonth defaultTimezone.zone 0 (some "2026-01") value from ⟨by decide, by decide, by decide⟩)
    ⟨by decide, by decide⟩ kept
  rw [filename_january] at sent
  refine ⟨rows, sent, ?_⟩
  -- One of the rows is the transaction of noon.
  obtain ⟨_, listed, noon⟩ := spent
  obtain ⟨row, among, rfl⟩ := List.mem_map.mp (selected.mem_iff.mpr listed)
  have cell := ((dated row among).mpr (by rw [noon]; decide)).1
  rw [noon] at cell
  exact ⟨row, among, cell.trans (by decide)⟩

/-- An expense of New Year's Day 2026 is exported under the last day of 2025, before the file begins. -/
theorem export_dates_new_year :
    let s := serveAll defaultTimezone.zone .empty (spentOn "2026-01-01")
    ∃ rows, (TransactionController.export_ defaultTimezone.zone 0
        { userId := 1, period := some "month", anchor := some "2026-01" }).run s =
          (.ok (.send "financial-report-2026-01-01_to_2026-01-31.csv" (transactionsToCsv rows)), s) ∧
      ∃ row ∈ rows, (csvRow row).head? = some "2025-12-31" ∧
        formatReportingDate row.transaction.date defaultTimezone.zone = "2026-01-01" := by
  intro s
  let value : CalendarMonth := { year := 2026, month := 1 }
  -- A transaction of the first midnight of the year is still in the old year of UTC.
  have kept : ∀ row ∈ s.transactions.rows, (s.wallets.find? row.walletId).isSome := by decide +kernel
  have spent : ∃ row ∈ s.transactionsIn 1
      (defaultTimezone.midnight (monthOpens (openingMonth .month value)))
      (defaultTimezone.midnight (monthOpens (value.index + 1) - 1 + 1)),
      row.date = 1767200400000 := by
    decide +kernel
  clear_value s
  obtain ⟨-, rows, sent, selected⟩ := defaultTimezone.export_sends_period
    (show ExportQuery.period { userId := 1, period := some "month", anchor := some "2026-01" } = _ from rfl)
    (show ExportPeriod.ofKey? "month" = some .month from rfl)
    (show NamesMonth defaultTimezone.zone 0 (some "2026-01") value from ⟨by decide, by decide, by decide⟩)
    ⟨by decide, by decide⟩ kept
  rw [filename_january] at sent
  refine ⟨rows, sent, ?_⟩
  -- One of the rows is the transaction of midnight.
  obtain ⟨_, listed, midnight⟩ := spent
  obtain ⟨row, among, rfl⟩ := List.mem_map.mp (selected.mem_iff.mpr listed)
  have cell : (csvRow row).head? = some (isoDay row.transaction.date) := rfl
  rw [midnight] at cell
  exact ⟨row, among, cell.trans (by decide), by rw [midnight]; decide⟩

end PocketMint
