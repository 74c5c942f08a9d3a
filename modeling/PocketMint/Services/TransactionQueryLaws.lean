import PocketMint.Domain.ReportingMonths
import PocketMint.Relational.Window
import PocketMint.Services.ReminderLaws
import PocketMint.Services.TransactionQuery

/-! What lists and summaries answer, in terms of the transactions between two instants. -/

namespace PocketMint

open TransactionQueryService
open Prog (query)

section Runs

variable {zone : Zone} {now : Instant} {s : Store}

/-- The transactions of a user from one instant up to another. -/
def Store.transactionsIn (s : Store) (userId : Id) (low high : Instant) : List Transaction :=
  rowsBetween Transaction.date low high (s.transactions.rows.filter fun row => row.userId = userId)

/-- A list without a cap answers with the transactions that it selects, in some order. -/
theorem listTransactions_run {input : ListTransactionsInput} (typed : input.type = .omitted)
    (anywhere : input.walletId = .omitted) (uncapped : input.limit = none) {low high : Instant}
    (resolved : resolveWindow zone now input = .ok (some low, some high)) :
    ∃ rows, (listTransactions zone now input).run s = (.ok rows, s) ∧
      rows.Perm ((s.transactionsIn input.userId low high).map s.includeTransaction) := by
  -- Without filters the selected rows are those of the window, and sorting permutes them.
  have selected : s.selectedTransactions input (some low, some high) =
      s.transactionsIn input.userId low high := by
    rw [Store.transactionsIn, rowsBetween, List.filter_filter]
    apply List.filter_congr
    intro row _
    -- An absent type and wallet keep every row, so only the owner and the window are tested.
    simp [typed, anywhere, Arg.truthy, Bool.and_comm, Bool.and_assoc]
  refine ⟨_, ?_, ((List.perm_insertionSort (fun row other =>
    newestFirst row.date row.createdAt row.id other.date other.createdAt other.id) _).map _)⟩
  -- The reads change nothing, and no limit cuts the list.
  simp [listTransactions, typed, resolved, Except.mapError, Prog.ofExcept, Prog.throwIf, query,
    Prog.run, uncapped, resolveTake, selected]

/-- The transactions of one kind that a summary selects are those of the period. -/
theorem summarized_ofType {userId : Id} {range : ReportingRange} {type : FinancialTxType}
    (counted : type = .income ∨ type = .expense) :
    (s.summarizedTransactions userId range).filter (fun row => row.type = type) =
      (s.transactionsIn userId range.startInclusive range.endExclusive).filter fun row =>
        row.type = type := by
  simp only [Store.summarizedTransactions, Store.transactionsIn, rowsBetween, List.filter_filter]
  apply List.filter_congr
  intro row _
  -- A row of the kind passes the test for either kind.
  by_cases same : row.type = type
  · rcases counted with rfl | rfl <;> simp [same, Bool.and_comm, Bool.and_assoc]
  -- A row of another kind is counted by neither side.
  · simp [same]

/-- A summary of a month that has a range reports the sums over the transactions of the month. -/
theorem getSummary_run {userId : Id} {month year : Option Int} {range : ReportingRange}
    {reported : CalendarMonth} (resolved : resolveMonthRange zone now month year = .ok (range, reported)) :
    ∃ summary, (getSummary zone now { userId, month, year }).run s = (.ok summary, s) ∧
      summary.income = (((s.transactionsIn userId range.startInclusive range.endExclusive).filter
        fun row => row.type = .income).map Transaction.amount).sum ∧
      summary.expenses = (((s.transactionsIn userId range.startInclusive range.endExclusive).filter
        fun row => row.type = .expense).map Transaction.amount).sum := by
  -- The sum that is looked up for a type is the sum over the rows of that type.
  have sums := fun type => lookup_groupSums Transaction.amount Transaction.type
    (s.summarizedTransactions userId range) type
  -- The two kinds that are summed up are income and expense.
  have income := sums .income
  have expenses := sums .expense
  rw [summarized_ofType (.inl rfl)] at income
  rw [summarized_ofType (.inr rfl)] at expenses
  simp only [getSummary, resolved, Except.mapError, Prog.ofExcept, query, Prog.ret_bind,
    Prog.read_bind, Prog.pure_eq, Prog.run, income, expenses]
  exact ⟨_, rfl, rfl, rfl⟩

/-- A summary of a month without a range is refused. -/
theorem getSummary_refused {userId : Id} {month year : Option Int} {message : String}
    (refused : resolveMonthRange zone now month year = .error message) :
    (getSummary zone now { userId, month, year }).run s = (.error (.thrown message), s) := by
  simp [getSummary, refused, Except.mapError, Prog.ofExcept, Prog.run]

/-- An answered summary reports what is left of the income, and the month that it is about. -/
theorem getSummary_fields {after : Store} {input : TransactionSummaryInput}
    {summary : TransactionSummaryResult}
    (answered : (getSummary zone now input).run s = (.ok summary, after)) :
    summary.netSavings = summary.income - summary.expenses ∧
      summary.month = toString (resolveMonthYear zone now input.month input.year).year ++ "-" ++
        Js.padStart2 (resolveMonthYear zone now input.month input.year).month := by
  -- Only a month that resolves is answered.
  cases resolved : resolveMonthRange zone now input.month input.year with
  | error message => simp [getSummary, resolved, Except.mapError, Prog.ofExcept, Prog.run] at answered
  | ok reported =>
    -- The month that is reported is the one that was asked for.
    have own : reported.2 = resolveMonthYear zone now input.month input.year := by
      unfold resolveMonthRange at resolved
      cases range : getReportingMonthRange (resolveMonthYear zone now input.month input.year) zone with
      | error message => simp [range, bind, Except.bind] at resolved
      | ok found =>
        simp only [range, bind, Except.bind, pure, Except.pure, Except.ok.injEq] at resolved
        rw [← resolved]
    simp only [getSummary, resolved, Except.mapError, Prog.ofExcept, query, Prog.ret_bind, Prog.read_bind,
      Prog.pure_eq, Prog.run, Prod.mk.injEq, Except.ok.injEq] at answered
    rcases answered with ⟨rfl, -⟩
    rw [← own]
    exact ⟨rfl, rfl⟩

/-- A summary depends on its month, its year and the clock only by the month that they resolve to. -/
theorem getSummary_congr {later : Instant} {userId : Id} {month year month' year' : Option Int}
    (same : resolveMonthYear zone later month' year' = resolveMonthYear zone now month year) :
    getSummary zone later { userId, month := month', year := year' } =
    getSummary zone now { userId, month, year } := by
  simp only [getSummary, resolveMonthRange, same]

/-- The month of the calendar is read off the year and the month that it shows. -/
theorem currentReportingMonth_shown (zone : Zone) (now : Instant) :
    currentReportingMonth zone now =
      { year := shownYear (Js.utcDate (now + zone.offset now)).year
        month := (Js.utcDate (now + zone.offset now)).month } := by
  -- The fields of the shown day are those of the shifted instant, but for the sign of its year.
  have shown : calendarDateFromInstant now zone =
      { Js.utcDate (now + zone.offset now) with
        year := shownYear (Js.utcDate (now + zone.offset now)).year } := rfl
  obtain ⟨_, _, _, _⟩ := Calendar.civilFromDays_bounds ((now + zone.offset now) / Js.msPerDay)
  -- The shown year has no sign, so the text of the date splits into its parts.
  have common : 0 ≤ shownYear (Js.utcDate (now + zone.offset now)).year := by
    simp only [shownYear]
    split <;> omega
  unfold currentReportingMonth
  rw [formatReportingDate, shown, ReminderEngine.splitDate_format common (by simp only [Js.utcDate]; omega)
    (by simp only [Js.utcDate]; omega)]

/-- A calendar shows one of the twelve months. -/
theorem currentReportingMonth_valid (zone : Zone) (now : Instant) :
    (currentReportingMonth zone now).Valid := by
  obtain ⟨low, high, _⟩ := Calendar.civilFromDays_bounds ((now + zone.offset now) / Js.msPerDay)
  rw [currentReportingMonth_shown]
  unfold CalendarMonth.Valid Js.utcDate
  exact ⟨low, high⟩

/-- The month to report is one of the twelve. -/
theorem resolveMonthYear_valid (zone : Zone) (now : Instant) (month year : Option Int) :
    (resolveMonthYear zone now month year).Valid := by
  have current := currentReportingMonth_valid zone now
  -- No month is given, so the current one stands.
  cases month with
  | none =>
    simp only [CalendarMonth.Valid, resolveMonthYear] at current ⊢
    exact current
  -- A given month is brought into one to twelve.
  | some month =>
    simp only [CalendarMonth.Valid, resolveMonthYear]
    omega

/-- A month that is asked for by its numbers is reported. -/
theorem resolveMonthYear_given (value : CalendarMonth) (valid : value.Valid) (dated : value.year ≠ 0) :
    resolveMonthYear zone now (some value.month) (some value.year) = value := by
  obtain ⟨low, high⟩ := valid
  -- A month of the calendar is not zero and lies within the bounds already.
  have some_ : value.month ≠ 0 := by omega
  have clamped : min (max value.month 1) 12 = value.month := by omega
  simp only [resolveMonthYear, if_neg some_, if_neg dated, clamped]

end Runs

end PocketMint
