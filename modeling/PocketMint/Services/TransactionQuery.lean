import PocketMint.Relational.Group
import PocketMint.Services.ReminderEngine
import PocketMint.Services.WalletQuery

/-! The transaction query service: a user's transactions by period, wallet and type. -/

namespace PocketMint

open Prog (query throwIf ofExcept)

/-- The filters of a transaction list. -/
structure ListTransactionsInput where
  userId : Id
  walletId : Arg Id := .omitted
  type : Arg FinancialTxType := .omitted
  month : Option Int := none
  year : Option Int := none
  limit : Option Int := none
  startDate : Option Instant := none
  endDate : Option Instant := none
  allTime : Bool := false

namespace TransactionQueryService

def maxLimit : Int := 200

/-- The calendar month of the clock in the reporting zone. -/
def currentReportingMonth (zone : Zone) (now : Instant) : CalendarMonth :=
  match ReminderEngine.splitDate (formatReportingDate now zone) with
  | some (year, month, _) => { year, month }
  | none => { year := 0, month := 0 }

/-- The month to report; a zero counts as an omitted value. -/
def resolveMonthYear (zone : Zone) (now : Instant) (month year : Option Int) : CalendarMonth :=
  let current := currentReportingMonth zone now
  { month :=
      match month with
      | none => current.month
      -- The month is moved into the year, while the year is taken as it is.
      | some m => min (max (if m = 0 then current.month else m) 1) 12
    year :=
      match year with
      | none => current.year
      | some y => if y = 0 then current.year else y }

/-- The range of the month to report, with the month. -/
def resolveMonthRange (zone : Zone) (now : Instant) (month year : Option Int) :
    Except String (ReportingRange × CalendarMonth) := do
  let resolved := resolveMonthYear zone now month year
  let range ← getReportingMonthRange resolved zone
  return (range, resolved)

/-- The most rows to return; nothing positive means no cap. -/
def resolveTake (limit : Option Int) : Option Nat :=
  (limit.map fun l => min (max l 0) maxLimit).bind fun take =>
    if 0 < take then some take.toNat else none

/-- The window of instants to list, either end of which may be open. -/
def resolveWindow (zone : Zone) (now : Instant) (input : ListTransactionsInput) :
    Except String (Option Instant × Option Instant) :=
  -- A date range takes precedence over the flag, and this over the month.
  if input.startDate.isSome ∨ input.endDate.isSome then .ok (input.startDate, input.endDate)
  else if input.allTime then .ok (none, none)
  else do
    let range ← getReportingMonthRange (resolveMonthYear zone now input.month input.year) zone
    return (some range.startInclusive, some range.endExclusive)

end TransactionQueryService

open TransactionQueryService

/-- The rows a list selects. -/
def Store.selectedTransactions (s : Store) (input : ListTransactionsInput)
    (window : Option Instant × Option Instant) : List Transaction :=
  s.transactions.rows.filter fun row =>
    row.userId = input.userId && input.walletId.truthy.all (row.walletId = ·) &&
      input.type.truthy.all (row.type = ·) && window.1.all (· ≤ row.date) && window.2.all (row.date < ·)

def listTransactions (zone : Zone) (now : Instant) (input : ListTransactionsInput) :
    Service (List TransactionWithRelations) := do
  throwIf (input.type = .invalid)
    (.service "Invalid type. Allowed: INCOME, EXPENSE, TRANSFER" 400 "BAD_REQUEST")
  let window ← ofExcept ((resolveWindow zone now input).mapError Failure.thrown)
  -- The newest rows come first, and the cap keeps the first of them.
  query fun s =>
    let rows := (s.selectedTransactions input window).insertionSort fun row other =>
      newestFirst row.date row.createdAt row.id other.date other.createdAt other.id
    let taken := match resolveTake input.limit with
      | some take => rows.take take
      | none => rows
    taken.map s.includeTransaction

/-- The month of a summary. -/
structure TransactionSummaryInput where
  userId : Id
  month : Option Int := none
  year : Option Int := none

/-- What came in and what went out in a month. -/
structure TransactionSummaryResult where
  income : Decimal
  expenses : Decimal
  netSavings : Decimal
  month : String
  deriving DecidableEq

/-- The incomes and expenses of a user in a period; transfers are left out. -/
def Store.summarizedTransactions (s : Store) (userId : Id) (range : ReportingRange) :
    List Transaction :=
  s.transactions.rows.filter fun row =>
    row.userId = userId && (row.type = .income || row.type = .expense) &&
      range.startInclusive ≤ row.date && row.date < range.endExclusive

def getSummary (zone : Zone) (now : Instant) (input : TransactionSummaryInput) :
    Service TransactionSummaryResult := do
  let (range, reported) ←
    ofExcept ((resolveMonthRange zone now input.month input.year).mapError Failure.thrown)
  let sums ← query fun s =>
    groupSums Transaction.amount Transaction.type (s.summarizedTransactions input.userId range)
  -- A type that no row of the month has is missing among the groups.
  let sumFor := fun type => ((sums.lookup type).bind id).getD 0
  let income := sumFor .income
  let expenses := sumFor .expense
  return { income, expenses
           netSavings := income - expenses
           month := toString reported.year ++ "-" ++ Js.padStart2 reported.month }

end PocketMint
