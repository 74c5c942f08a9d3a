import PocketMint.Services.TransactionQuery

/-! The export of a period: the reporting months that end with an anchor, and their transactions. -/

namespace PocketMint

open Prog (throwIf ofExcept)
open TransactionQueryService (currentReportingMonth)

/-- The periods of an export. -/
inductive ExportPeriod where
  | month
  | quarter
  | sixMonths
  deriving DecidableEq

/-- `EXPORT_PERIOD_MONTHS`. -/
def exportPeriodMonths : ExportPeriod → Int
  | .month => 1
  | .quarter => 3
  | .sixMonths => 6

/-- The `while` loop that carries a month before January into the years before. -/
def carryMonth (value : CalendarMonth) : CalendarMonth :=
  if value.month < 1 then carryMonth { year := value.year - 1, month := value.month + 12 } else value
termination_by (1 - value.month).toNat
decreasing_by omega

/-- The half-open range of an export, as its start and its end. -/
def resolveExportRange (zone : Zone) (period : ExportPeriod) (anchor : Instant) :
    Except String (Instant × Instant) := do
  let anchored := currentReportingMonth zone anchor
  let last ← getReportingMonthRange anchored zone
  let count := exportPeriodMonths period
  let opening := carryMonth { anchored with month := anchored.month - (count - 1) }
  let first ← getReportingMonthRange opening zone
  return (first.startInclusive, last.endExclusive)

/-- The name of an export's file, from the days of its range. -/
def exportFilename (startDate endDate : Instant) (zone : Zone) : String :=
  "financial-report-" ++ formatReportingDate startDate zone ++ "_to_" ++
    formatReportingDate (endDate - 1) zone ++ ".csv"

/-- What an export is asked for with. -/
structure ExportInput where
  userId : Id
  period : Arg ExportPeriod := .omitted
  anchor : Option String := none

/-- An export: the name of its file, and the transactions that the file lists. -/
structure TransactionExport where
  filename : String
  transactions : List TransactionWithRelations

/-- The handler of `GET /api/v1/transactions/export`. -/
def exportTransactions (zone : Zone) (now : Instant) (input : ExportInput) :
    Service TransactionExport := do
  match input.period.truthy with
  | none =>
    Prog.fail (.service "Invalid period. Allowed: month, quarter, six-months" 400 "BAD_REQUEST")
  | some period =>
    let anchor ← ofExcept ((parseReportingAnchor input.anchor zone now).mapError fun _ =>
      .service "Invalid anchor date" 400 "BAD_REQUEST")
    let (startDate, endDate) ←
      ofExcept ((resolveExportRange zone period anchor).mapError Failure.thrown)
    let transactions ← listTransactions zone now
      { userId := input.userId, startDate := some startDate, endDate := some endDate }
    return { filename := exportFilename startDate endDate zone, transactions }

end PocketMint
