import PocketMint.Services.TransactionQuery

/-! The summary handler: the month of a query, and the label of the month that is reported. -/

namespace PocketMint

open Js TransactionQueryService

/-- A value of a parsed query; nothing reads the fields of a nested object. -/
inductive QueryValue where
  | text (value : String)
  | list (values : List QueryValue)
  | object

/-- A query value reduced to a text, if it has one; of repeated values the first counts. -/
def scalarString : QueryValue → Option String
  | .text value => some value
  | .list [] => none
  | .list (first :: _) => scalarString first
  | .object => none

/-- The label of a month in a summary. -/
def monthLabel (value : CalendarMonth) : String :=
  toString value.year ++ "-" ++ padStart2 value.month

namespace TransactionController

/-- The month and the year of `month=YYYY-MM`; anything else asks for neither. -/
def mapSummaryQuery (month : Option QueryValue) : Option Int × Option Int :=
  match matchMonth ((month.bind scalarString).getD "") with
  | some (year, month) => (some month, some year)
  | none => (none, none)

/-- The handler of `GET /api/v1/transactions/summary`. -/
def summary (zone : Zone) (now : Instant) (userId : Id) (month : Option QueryValue) :
    Service TransactionSummaryResult :=
  getSummary zone now { userId, month := (mapSummaryQuery month).1, year := (mapSummaryQuery month).2 }

/-- The month that a summary is about. -/
def reportedMonth (zone : Zone) (now : Instant) (month : Option QueryValue) : CalendarMonth :=
  resolveMonthYear zone now (mapSummaryQuery month).1 (mapSummaryQuery month).2

end TransactionController

end PocketMint
