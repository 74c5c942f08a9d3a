import PocketMint.Js.Date

/-! Billing cycles and monthly recurrences, on dates written as `YYYY-MM-DD`. -/

namespace PocketMint

open Js

namespace BillingCycle

/-- A date as this module counts months, from zero. -/
structure CalendarDate where
  year : Int
  monthIndex : Int
  day : Int
  deriving DecidableEq

/-- The number of days in a month. -/
def maxDay (year monthIndex : Int) : Int := (utcDate (dateUTC year (monthIndex + 1) 0)).day

/-- Read a date, refusing one that is no day of the calendar. -/
def parseCalendarDate (value : String) : Except String CalendarDate :=
  match matchDate value with
  | none => .error "Tanggal tidak valid"
  | some (year, month, day) =>
    let monthIndex := month - 1
    if monthIndex < 0 ∨ 11 < monthIndex ∨ day < 1 ∨ maxDay year monthIndex < day then
      .error "Tanggal tidak valid"
    else .ok { year, monthIndex, day }

/-- Write a date, with the year as short as it is. -/
def formatDate (year monthIndex day : Int) : String :=
  toString year ++ "-" ++ padStart2 (monthIndex + 1) ++ "-" ++ padStart2 day

/-- Refuse a billing day that no month can have. -/
def assertBillingDay (name : String) (value : Int) : Except String Unit :=
  if value < 1 ∨ 31 < value then .error (name ++ " harus antara 1 dan 31") else .ok ()

end BillingCycle

open BillingCycle

/-- The given day of a month, or the month's last day when it is shorter. -/
def clampDay (year monthIndex day : Int) : Except String String := do
  if monthIndex < 0 ∨ 11 < monthIndex then throw "Tanggal tidak valid"
  assertBillingDay "paymentDueDay" day
  return formatDate year monthIndex (min day (maxDay year monthIndex))

/-- The same day some months later, clamped to the length of its month. -/
def addBillingMonth (date : String) (months : Int) : Except String String := do
  let parsed ← parseCalendarDate date
  let target := parsed.year * 12 + parsed.monthIndex + months
  clampDay (target / 12) (target % 12) parsed.day

/-- The next monthly occurrence on or after a day, or none once the recurrence has ended. -/
def nextMonthlyOccurrence (startDate : String) (endDate : Option String) (todayStr : String) :
    Except String (Option String) :=
  if todayStr < startDate then
    .ok (if ∃ last ∈ endDate, last < startDate then none else some startDate)
  else do
    let start ← parseCalendarDate startDate
    let today ← parseCalendarDate todayStr
    let months := (today.year - start.year) * 12 + (today.monthIndex - start.monthIndex)
    let thisMonth ← addBillingMonth startDate months
    let candidate ← if thisMonth < todayStr then addBillingMonth startDate (months + 1) else pure thisMonth
    return if ∃ last ∈ endDate, last < candidate then none else some candidate

/-- What a credit wallet's billing cycle is computed from. -/
structure BillingCycleInput where
  transactionDate : String
  cutoffDay : Int
  paymentDueDay : Int
  timeZone : String

/-- The number the last two characters of a text spell, as `Number(text.slice(-2))`. -/
def lastTwoDigits (text : String) : Int :=
  ((digitsValue (text.toList.drop (text.toList.length - 2))).getD 0 : Nat)

/-- The first due date of a purchase: the payment day after the cycle that the purchase closes in. -/
def calculateFirstDueDate (input : BillingCycleInput) : Except String String := do
  if input.timeZone ≠ "Asia/Jakarta" then throw "Zona waktu tagihan tidak didukung"
  assertBillingDay "cutoffDay" input.cutoffDay
  assertBillingDay "paymentDueDay" input.paymentDueDay
  let transaction ← parseCalendarDate input.transactionDate
  let cutoff ← clampDay transaction.year transaction.monthIndex input.cutoffDay
  let monthsUntilDue := if transaction.day ≤ lastTwoDigits cutoff then 1 else 2
  let target := transaction.year * 12 + transaction.monthIndex + monthsUntilDue
  clampDay (target / 12) (target % 12) input.paymentDueDay

end PocketMint
