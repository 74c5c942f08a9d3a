import PocketMint.Controllers.TransactionExport
import PocketMint.Services.ReminderLaws
import PocketMint.Services.TransactionQueryLaws
import PocketMint.Proofs.LedgerRaces
import Mathlib.Data.Int.ConditionallyCompleteOrder

/-! The export of a period, the lists of its months and their summaries agree on the transactions. -/

namespace PocketMint

open Js Calendar TransactionQueryService
open Prog (query)

/-- The reporting months of a period, of which the anchor is the last. -/
def periodMonths (period : ExportPeriod) (anchor : CalendarMonth) : List CalendarMonth :=
  (List.range (exportPeriodMonths period).toNat).map fun index : Nat =>
    calendarMonthAt (anchor.index - (exportPeriodMonths period - 1) + index)

/-- Carrying a month into the years before does not change its place in the count. -/
theorem carryMonth_eq {value : CalendarMonth} (high : value.month ≤ 12) :
    carryMonth value = calendarMonthAt value.index := by
  -- Each round moves a year's worth of months from one number to the other.
  induction value using carryMonth.induct with
  | case1 value early ih =>
    rw [carryMonth, if_pos early, ih (by simp only; omega)]
    congr 1
    simp only [CalendarMonth.index]
    omega
  | case2 value settled =>
    rw [carryMonth, if_neg settled, calendarMonthAt_index ⟨by omega, high⟩]

/-- The first month of a period that ends with a month. -/
def openingMonth (period : ExportPeriod) (value : CalendarMonth) : Int :=
  value.index - (exportPeriodMonths period - 1)

theorem exportPeriodMonths_bounds (period : ExportPeriod) :
    1 ≤ exportPeriodMonths period ∧ exportPeriodMonths period ≤ 6 := by
  cases period <;> decide

namespace FixedZone

variable (fixed : FixedZone) {instant : Instant}

/-- The calendar's month is read off the year and the month that it shows. -/
theorem currentReportingMonth_eq (instant : Instant) :
    currentReportingMonth fixed.zone instant =
      { year := shownYear (civilFromDays (fixed.dayOf instant)).year
        month := (civilFromDays (fixed.dayOf instant)).month } :=
  currentReportingMonth_shown fixed.zone instant

/-- At the opening of a month from the year 100 on, the calendar is in that month. -/
theorem currentReportingMonth_opens {month : Int} (full : firstFullDay ≤ monthOpens month) :
    currentReportingMonth fixed.zone (fixed.midnight (monthOpens month)) = calendarMonthAt month := by
  have year := firstFullDay_le_iff.mp full
  have shown : shownYear (civilFromDays (monthOpens month)).year =
      (civilFromDays (monthOpens month)).year := if_neg (by omega)
  rw [fixed.currentReportingMonth_eq, fixed.dayOf_midnight, shown, civilFromDays_monthOpens]
  rfl

/-- The loop goes back from the anchor's month to the one that opens the period. -/
theorem carryMonth_opening (period : ExportPeriod) {value : CalendarMonth} (valid : value.Valid) :
    carryMonth { value with month := value.month - (exportPeriodMonths period - 1) } =
      calendarMonthAt (openingMonth period value) := by
  obtain ⟨_, _⟩ := exportPeriodMonths_bounds period
  obtain ⟨_, _⟩ := valid
  rw [carryMonth_eq (by simp only; omega)]
  congr 1
  simp only [CalendarMonth.index, openingMonth]
  omega

/-- The months of a period have a range when its first day and the day after its last resolve. -/
theorem resolveExportRange_resolves (period : ExportPeriod) {value : CalendarMonth}
    (shown : currentReportingMonth fixed.zone instant = value)
    (opens : fixed.Resolves (monthOpens (openingMonth period value)))
    (closes : fixed.Resolves (monthOpens (value.index + 1))) :
    resolveExportRange fixed.zone period instant =
      .ok (fixed.midnight (monthOpens (openingMonth period value)),
        fixed.midnight (monthOpens (value.index + 1))) := by
  -- A period has from one to six months.
  obtain ⟨_, _⟩ := exportPeriodMonths_bounds period
  have valid : value.Valid := shown ▸ currentReportingMonth_valid fixed.zone instant
  -- The openings in between lie between two days that resolve.
  have within : ∀ month, openingMonth period value ≤ month → month ≤ value.index + 1 →
      fixed.Resolves (monthOpens month) := fun month low high =>
    opens.between closes (monthOpens_le_iff.mpr low) (monthOpens_le_iff.mpr high)
  -- The last month and the first one have ranges, which bound the export.
  have last := fixed.getReportingMonthRange_resolves valid
    ⟨within value.index (by simp only [openingMonth]; omega) (by omega), closes⟩
  have first := fixed.getReportingMonthRange_resolves (calendarMonthAt_valid (openingMonth period value))
    (by
      rw [index_calendarMonthAt]
      exact ⟨opens, within _ (by omega) (by simp only [openingMonth]; omega)⟩)
  rw [index_calendarMonthAt] at first
  simp only [resolveExportRange, shown, last, carryMonth_opening period valid, first]
  rfl

/-- The months of a period have ranges that end with the anchor's and begin as many months back. -/
theorem resolveExportRange_opening (period : ExportPeriod) {month : Int} (low : 12 * 1000 ≤ month)
    (high : month < 12 * 9999) :
    resolveExportRange fixed.zone period (fixed.midnight (monthOpens month)) =
      .ok (fixed.midnight (monthOpens (month - (exportPeriodMonths period - 1))),
        fixed.midnight (monthOpens (month + 1))) := by
  obtain ⟨_, _⟩ := exportPeriodMonths_bounds period
  -- The months of the range lie where the zone resolves.
  have opens : ∀ month : Int, 12 * 101 ≤ month → month ≤ 12 * 200000 → fixed.Resolves (monthOpens month) :=
    fun month low high => (fixed.monthResolves_of_bounds low high).1
  -- The anchor is the opening of a month, so that month is the one shown.
  have shown := fixed.currentReportingMonth_opens (opens month (by omega) (by omega)).full
  have range := fixed.resolveExportRange_resolves period shown
    (by
      simp only [openingMonth, index_calendarMonthAt]
      exact opens _ (by omega) (by omega))
    (by
      rw [index_calendarMonthAt]
      exact opens _ (by omega) (by omega))
  simpa only [openingMonth, index_calendarMonthAt] using range

end FixedZone

/-- Whether an instant lies in the range of a reporting month that has one. -/
def FallsIn (zone : Zone) (month : CalendarMonth) (instant : Instant) : Prop :=
  ∃ range, getReportingMonthRange month zone = .ok range ∧ range.startInclusive ≤ instant ∧
    instant < range.endExclusive

/-- An instant falls into no month but the one that the zone's calendar is in. -/
theorem fallsIn_unique {fixed : FixedZone} {month : CalendarMonth} {instant : Instant}
    (falls : FallsIn fixed.zone month instant) : month = calendarMonthAt (fixed.monthAt instant) := by
  obtain ⟨range, computed, start, finish⟩ := falls
  obtain ⟨valid, -, rfl⟩ := fixed.monthResolves_of_range computed
  have within : fixed.monthAt instant = month.index := fixed.inMonth_iff.mp ⟨start, finish⟩
  rw [within, calendarMonthAt_index valid]

/-- An instant falls into the month that the zone's calendar is in, when that month has a range. -/
theorem fallsIn_own {fixed : FixedZone} {instant : Instant} {range : ReportingRange}
    (computed : getReportingMonthRange (calendarMonthAt (fixed.monthAt instant)) fixed.zone = .ok range) :
    FallsIn fixed.zone (calendarMonthAt (fixed.monthAt instant)) instant := by
  refine ⟨range, computed, ?_⟩
  obtain ⟨-, -, rfl⟩ := fixed.monthResolves_of_range computed
  rw [index_calendarMonthAt]
  exact fixed.inMonth_iff.mpr rfl

/--
An instant falls into exactly one month when the month that the calendar is in resolves, and else into none.
-/
theorem existsUnique_fallsIn_iff {fixed : FixedZone} {instant : Instant} :
    (∃! value, FallsIn fixed.zone value instant) ↔ fixed.MonthResolves (fixed.monthAt instant) := by
  constructor
  · rintro ⟨value, falls, -⟩
    -- The month is the one that the instant is in.
    have own := fallsIn_unique falls
    obtain ⟨range, computed, -⟩ := falls
    -- A month that has a range resolves.
    rw [own] at computed
    obtain ⟨-, resolves, -⟩ := fixed.monthResolves_of_range computed
    rwa [index_calendarMonthAt] at resolves
  -- Its own month has a range, and no other month has one with the instant.
  · intro resolves
    have range := fixed.getReportingMonthRange_resolves (calendarMonthAt_valid (fixed.monthAt instant))
      (by rwa [index_calendarMonthAt])
    exact ⟨_, fallsIn_own range, fun value => fallsIn_unique⟩

/-- The sum of the amounts of one kind among some transactions. -/
def sumOfType (type : FinancialTxType) (rows : List Transaction) : Decimal :=
  ((rows.filter fun row => row.type = type).map Transaction.amount).sum

theorem sumOfType_perm {type : FinancialTxType} {rows other : List Transaction} (same : rows.Perm other) :
    sumOfType type rows = sumOfType type other :=
  ((same.filter _).map _).sum_eq

theorem sumOfType_flatMap {α : Type} (type : FinancialTxType) (parts : List α)
    (rows : α → List Transaction) :
    sumOfType type (parts.flatMap rows) = (parts.map fun part => sumOfType type (rows part)).sum := by
  induction parts with
  | nil => rfl
  | cons part parts ih =>
    rw [List.flatMap_cons, List.map_cons, List.sum_cons, ← ih]
    simp [sumOfType]

namespace FixedZone

variable (fixed : FixedZone) {now : Instant} {s : Store} {userId : Id}

/-- The bounds of the months from one on are in order. -/
theorem openings_monotone (first : Int) :
    Monotone fun index : Nat => fixed.midnight (monthOpens (first + index)) := by
  intro index later order
  have opens : monthOpens (first + index) ≤ monthOpens (first + later) :=
    monthOpens_le_iff.mpr (by omega)
  exact fixed.midnight_le_iff.mpr opens

/-- A month of the years 101 to 9999 is listed and summarized by its own transactions. -/
theorem month_reads {index : Int} (low : 12 * 101 ≤ index) (high : index < 12 * 10000) :
    let month := calendarMonthAt index
    let rows := s.transactionsIn userId (fixed.midnight (monthOpens index))
      (fixed.midnight (monthOpens (index + 1)))
    ∃ listed summary,
      (listTransactions fixed.zone now
        { userId, month := some month.month, year := some month.year }).run s = (.ok listed, s) ∧
      (getSummary fixed.zone now
        { userId, month := some month.month, year := some month.year }).run s = (.ok summary, s) ∧
      listed.Perm (rows.map s.includeTransaction) ∧
      summary.income = sumOfType .income rows ∧ summary.expenses = sumOfType .expense rows := by
  intro month rows
  have valid := calendarMonthAt_valid index
  have dated : month.year ≠ 0 := by
    simp only [month, calendarMonthAt]
    omega
  -- The month resolves, so both requests read the rows of the same window.
  have resolves := fixed.monthResolves_of_bounds low (by omega)
  rw [← index_calendarMonthAt index] at resolves
  have range := fixed.getReportingMonthRange_resolves valid resolves
  rw [index_calendarMonthAt] at range
  -- The month and the year are sent as they are.
  have given : resolveMonthYear fixed.zone now (some month.month) (some month.year) = month :=
    resolveMonthYear_given month valid dated
  have window : resolveWindow fixed.zone now
      { userId, month := some month.month, year := some month.year } =
        .ok (some (fixed.midnight (monthOpens index)), some (fixed.midnight (monthOpens (index + 1)))) := by
    simp [resolveWindow, given, month, range, monthRange, bind, Except.bind, pure, Except.pure]
  have reported : resolveMonthRange fixed.zone now (some month.month) (some month.year) =
      .ok (fixed.monthRange index, month) := by
    simp only [resolveMonthRange, given, month, range]
    rfl
  -- The list and the summary read the rows of the window.
  obtain ⟨listed, answered, same⟩ := listTransactions_run (s := s) rfl rfl rfl window
  obtain ⟨summary, summed, income, expenses⟩ := getSummary_run (s := s) reported
  exact ⟨listed, summary, answered, summed, same, income, expenses⟩

/-- The export of a period ending in a month selects the transactions from its first month's opening on. -/
theorem exportTransactions_run (period : ExportPeriod) {anchor : String} {value : CalendarMonth}
    (written : matchMonth anchor = some (value.year, value.month)) (valid : value.Valid)
    (low : 12 * 1000 ≤ value.index) (high : value.index < 12 * 9999) :
    ∃ file,
      (exportTransactions fixed.zone now
        { userId, period := .given period, anchor := some anchor }).run s = (.ok file, s) ∧
      file.transactions.Perm ((s.transactionsIn userId
        (fixed.midnight (monthOpens (value.index - (exportPeriodMonths period - 1))))
        (fixed.midnight (monthOpens (value.index + 1)))).map s.includeTransaction) := by
  have count := exportPeriodMonths_bounds period
  have resolves := (fixed.monthResolves_of_bounds (show 12 * 101 ≤ value.index by omega) (by omega)).1
  -- The anchor resolves to the opening of its month, and the period counts back from it.
  have anchored : parseReportingAnchor (some anchor) fixed.zone now =
      .ok (fixed.midnight (monthOpens value.index)) := by
    rw [parseReportingAnchor_month valid written]
    exact fixed.localMidnight_resolves resolves
  -- The range goes from the opening of the first month to the end of the last.
  have range := fixed.resolveExportRange_opening period low high
  have window : resolveWindow fixed.zone now
      { userId
        startDate := some (fixed.midnight (monthOpens (value.index - (exportPeriodMonths period - 1))))
        endDate := some (fixed.midnight (monthOpens (value.index + 1))) } =
      .ok (some (fixed.midnight (monthOpens (value.index - (exportPeriodMonths period - 1)))),
        some (fixed.midnight (monthOpens (value.index + 1)))) := by
    simp [resolveWindow]
  -- The listing reads the rows of the range, and the file holds them.
  obtain ⟨rows, answered, same⟩ := listTransactions_run (s := s) rfl rfl rfl window
  refine ⟨⟨exportFilename (fixed.midnight (monthOpens (value.index - (exportPeriodMonths period - 1))))
    (fixed.midnight (monthOpens (value.index + 1))) fixed.zone, rows⟩, ?_, same⟩
  simp only [exportTransactions, Arg.truthy, anchored, range, Except.mapError, Prog.ofExcept,
    Prog.ret_bind]
  rw [Prog.run_bind, answered]
  rfl

/-- The transactions of a user in one month. -/
def monthRows (s : Store) (userId : Id) (index : Int) : List Transaction :=
  s.transactionsIn userId (fixed.midnight (monthOpens index)) (fixed.midnight (monthOpens (index + 1)))

/-- The transactions of consecutive months are those from the first opening to the last end. -/
theorem monthRows_flatMap_perm (first : Int) (count : Nat) :
    ((List.range count).flatMap fun index : Nat => fixed.monthRows s userId (first + index)).Perm
      (s.transactionsIn userId (fixed.midnight (monthOpens first))
        (fixed.midnight (monthOpens (first + count)))) := by
  have tiles := rowsBetween_flatMap_perm Transaction.date _ (fixed.openings_monotone first)
    (s.transactions.rows.filter fun row => row.userId = userId) count
  simp only [Nat.cast_zero, add_zero, Nat.cast_succ, ← add_assoc] at tiles
  exact tiles

/-- No transaction is in two of the months. -/
theorem monthRows_disjoint (first : Int) {index later : Nat} (order : index < later) :
    (fixed.monthRows s userId (first + index)).Disjoint (fixed.monthRows s userId (first + later)) := by
  have apart := rowsBetween_disjoint Transaction.date _ (fixed.openings_monotone first) order
    (s.transactions.rows.filter fun row => row.userId = userId)
  simp only [Nat.cast_succ, ← add_assoc] at apart
  exact apart

end FixedZone

/--
The export of a period selects the transactions of its months, and sums as their summaries do.

The months follow one another, and no transaction is listed in two of them.
A transaction falls into no month but the one that the calendar is in at its date, and it falls into
exactly one month when that month resolves, as those of the years 101 to 9999 do, and else into none.
-/
theorem exportTransactions_agrees (fixed : FixedZone) (now : Instant) (s : Store) (userId : Id)
    (period : ExportPeriod) {anchor : String} {year month : Int}
    (written : matchMonth anchor = some (year, month)) (years : 1000 ≤ year ∧ year ≤ 9998)
    (valid : 1 ≤ month ∧ month ≤ 12) :
    let months := periodMonths period { year, month }
    (∃ (file : TransactionExport) (lists : CalendarMonth → List TransactionWithRelations)
        (summaries : CalendarMonth → TransactionSummaryResult),
      (exportTransactions fixed.zone now
        { userId, period := .given period, anchor := some anchor }).run s = (.ok file, s) ∧
      (∀ value ∈ months,
        (listTransactions fixed.zone now
          { userId, month := some value.month, year := some value.year }).run s =
            (.ok (lists value), s) ∧
        (getSummary fixed.zone now
          { userId, month := some value.month, year := some value.year }).run s =
            (.ok (summaries value), s)) ∧
      file.transactions.Perm (months.flatMap lists) ∧
      (months.Pairwise fun value later => (lists value).Disjoint (lists later)) ∧
      sumOfType .income (file.transactions.map TransactionWithRelations.transaction) =
        (months.map fun value => (summaries value).income).sum ∧
      sumOfType .expense (file.transactions.map TransactionWithRelations.transaction) =
        (months.map fun value => (summaries value).expenses).sum) ∧
    (∀ value : CalendarMonth, value.Valid → 101 ≤ value.year → value.year ≤ 9999 →
      ∃ range, getReportingMonthRange value fixed.zone = .ok range) ∧
    ∀ row ∈ s.transactions.rows,
      (∀ value, FallsIn fixed.zone value row.date → value = calendarMonthAt (fixed.monthAt row.date)) ∧
      ((∃! value, FallsIn fixed.zone value row.date) ↔ fixed.MonthResolves (fixed.monthAt row.date)) := by
  intro months
  refine ⟨?_, fun value valid low high => ⟨_, fixed.getReportingMonthRange_resolves valid ?_⟩,
    fun row _ => ⟨fun value => fallsIn_unique, existsUnique_fallsIn_iff⟩⟩
  swap
  -- A month between the years 101 and 9999 has a range.
  · obtain ⟨_, _⟩ := valid
    apply fixed.monthResolves_of_bounds <;>
    · simp only [CalendarMonth.index]
      omega
  -- The months of the period follow each other up to the anchored one.
  have count := exportPeriodMonths_bounds period
  let anchored : CalendarMonth := { year, month }
  let first := anchored.index - (exportPeriodMonths period - 1)
  have index : anchored.index = year * 12 + (month - 1) := rfl
  have consecutive : months = (List.range (exportPeriodMonths period).toNat).map fun index : Nat =>
      calendarMonthAt (first + index) := rfl
  have placed : ∀ value ∈ months, ∃ place : Nat, place < (exportPeriodMonths period).toNat ∧
      value = calendarMonthAt (first + place) := by
    intro value among
    obtain ⟨place, within, rfl⟩ := List.mem_map.mp among
    exact ⟨place, List.mem_range.mp within, rfl⟩
  -- Each of them is listed and summed up.
  have reads : ∀ value ∈ months, ∃ listed summary,
      (listTransactions fixed.zone now
        { userId, month := some value.month, year := some value.year }).run s = (.ok listed, s) ∧
      (getSummary fixed.zone now
        { userId, month := some value.month, year := some value.year }).run s = (.ok summary, s) ∧
      listed.Perm ((fixed.monthRows s userId value.index).map s.includeTransaction) ∧
      summary.income = sumOfType .income (fixed.monthRows s userId value.index) ∧
      summary.expenses = sumOfType .expense (fixed.monthRows s userId value.index) := by
    intro value among
    obtain ⟨place, within, rfl⟩ := placed value among
    rw [index_calendarMonthAt]
    exact fixed.month_reads (by omega) (by omega)
  have inhabited : Nonempty TransactionSummaryResult := ⟨⟨0, 0, 0, ""⟩⟩
  choose! lists summaries answered using reads
  -- And the export reads their common range.
  obtain ⟨file, exported, selected⟩ := fixed.exportTransactions_run (s := s) period
    (show matchMonth anchor = some (anchored.year, anchored.month) from written) valid
    (show 12 * 1000 ≤ anchored.index by omega) (by omega)
  -- What a month lists are its own rows.
  have own : ∀ index < (exportPeriodMonths period).toNat,
      (lists (calendarMonthAt (first + index))).Perm
        ((fixed.monthRows s userId (first + index)).map s.includeTransaction) ∧
      (summaries (calendarMonthAt (first + index))).income =
        sumOfType .income (fixed.monthRows s userId (first + index)) ∧
      (summaries (calendarMonthAt (first + index))).expenses =
        sumOfType .expense (fixed.monthRows s userId (first + index)) := by
    intro index within
    have answers := (answered (calendarMonthAt (first + index))
      (List.mem_map_of_mem (List.mem_range.mpr within))).2.2
    rwa [index_calendarMonthAt] at answers
  -- The months' own transactions, one month after the other, are what the export selects.
  let rows := (List.range (exportPeriodMonths period).toNat).flatMap fun index : Nat =>
    fixed.monthRows s userId (first + index)
  -- The file holds all of them.
  have whole : file.transactions.Perm (rows.map s.includeTransaction) := by
    have tiles : rows.Perm (s.transactionsIn userId (fixed.midnight (monthOpens first))
        (fixed.midnight (monthOpens (first + (exportPeriodMonths period).toNat)))) :=
      fixed.monthRows_flatMap_perm first _
    have last : first + (exportPeriodMonths period).toNat = anchored.index + 1 := by omega
    rw [last] at tiles
    exact selected.trans (tiles.map _).symm
  -- So it does without their relations.
  have bare : (file.transactions.map TransactionWithRelations.transaction).Perm rows := by
    have unjoined := whole.map TransactionWithRelations.transaction
    rw [List.map_map] at unjoined
    exact unjoined.trans (.of_eq (List.map_id _))
  refine ⟨file, lists, summaries, exported, fun value among =>
    ⟨(answered value among).1, (answered value among).2.1⟩, ?_, ?_, ?_, ?_⟩
  -- The file is made of the lists, one after the other.
  · refine whole.trans ?_
    rw [List.map_flatMap, consecutive, List.flatMap_map]
    refine List.Perm.flatMap_left _ fun index among => ?_
    exact (own index (List.mem_range.mp among)).1.symm
  -- A row is listed for the month that its date is in.
  · have listed : ∀ index < (exportPeriodMonths period).toNat,
        ∀ row ∈ lists (calendarMonthAt (first + index)),
          row.transaction ∈ fixed.monthRows s userId (first + index) := by
      intro index within row among
      obtain ⟨bare, member, rfl⟩ := List.mem_map.mp ((own index within).1.mem_iff.mp among)
      exact member
    rw [consecutive, List.pairwise_map]
    refine List.Pairwise.imp_of_mem ?_ List.pairwise_lt_range
    intro index later within after order row here there
    exact fixed.monthRows_disjoint first order (listed index (List.mem_range.mp within) row here)
      (listed later (List.mem_range.mp after) row there)
  -- The income of the file is that of the months.
  · rw [sumOfType_perm bare, sumOfType_flatMap, consecutive, List.map_map]
    congr 1
    refine List.map_congr_left fun index among => ?_
    exact (own index (List.mem_range.mp among)).2.1.symm
  -- And so are the expenses.
  · rw [sumOfType_perm bare, sumOfType_flatMap, consecutive, List.map_map]
    congr 1
    refine List.map_congr_left fun index among => ?_
    exact (own index (List.mem_range.mp among)).2.2.symm

/-- The half-year that ends with January 1970 is the lists of its six months, one after the other. -/
theorem exportTransactions_agrees_spent :
    let s := serveAll defaultTimezone.zone .empty spent
    let months := periodMonths .sixMonths { year := 1970, month := 1 }
    months.map (fun value => (value.year, value.month)) =
        [(1969, 8), (1969, 9), (1969, 10), (1969, 11), (1969, 12), (1970, 1)] ∧
      ∃ (file : TransactionExport) (lists : CalendarMonth → List TransactionWithRelations),
        (exportTransactions defaultTimezone.zone 0
          { userId := 1, period := .given .sixMonths, anchor := some "1970-01" }).run s = (.ok file, s) ∧
        file.transactions.Perm (months.flatMap lists) := by
  intro s months
  have agrees := exportTransactions_agrees defaultTimezone 0 s 1 .sixMonths
    (show matchMonth "1970-01" = some (1970, 1) by decide) (by decide) (by decide)
  obtain ⟨⟨file, lists, -, exported, -, selected, -⟩, -⟩ := agrees
  exact ⟨by decide, file, lists, exported, selected⟩

/-- A purchase dated to the year 50 by a timestamp. -/
def antique : List Call :=
  onboarding 1 1000 5000 ++
    [{ now := 0, request := .createTransaction
        { userId := 1, type := some .expense, amount := some (.exact 100), walletId := .given 12,
          categoryId := .given 0, date := some "0050-01-15T00:00:00Z" } }]

/-- The year 50 is taken for 1950, so its months have no range and the purchase falls into none. -/
theorem fallsIn_antique :
    let s := serveAll defaultTimezone.zone .empty antique
    ∃ row ∈ s.transactions.rows, ∀ value, ¬FallsIn defaultTimezone.zone value row.date := by
  intro s
  -- The run stores a row of that date.
  obtain ⟨row, member, dated⟩ : ∃ row ∈ s.transactions.rows, row.date = -60588086400000 := by
    decide +kernel
  refine ⟨row, member, fun value falls => ?_⟩
  -- Only the first month of the year 50 could hold it.
  have own := fallsIn_unique falls
  rw [dated, show defaultTimezone.monthAt (-60588086400000) = 600 by decide] at own
  -- But the month has no range.
  obtain ⟨range, computed, -⟩ := falls
  rw [own, show getReportingMonthRange (calendarMonthAt 600) defaultTimezone.zone =
    .error "date must be a valid date" by decide] at computed
  cases computed

end PocketMint
