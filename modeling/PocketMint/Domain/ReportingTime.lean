import PocketMint.Js.Date

/-! Reporting days and months: calendar dates of the reporting zone as ranges of instants. -/

namespace PocketMint

open Js

/-- A year and a month, counted from one. -/
structure CalendarMonth where
  year : Int
  month : Int
  deriving DecidableEq

/-- The instants from a start up to, and not including, an end. -/
structure ReportingRange where
  startInclusive : Instant
  endExclusive : Instant
  deriving DecidableEq

/-- The range of one reporting day, under the day's date. -/
structure ReportingDayRange extends ReportingRange where
  label : String
  deriving DecidableEq

/-- The reporting zone when `REPORTING_TIMEZONE` is not set. -/
def defaultTimezone : FixedZone :=
  { name := "Asia/Jakarta", minutes := 420, low := by decide, high := by decide }

/-- The date the reporting zone's calendar shows at an instant. -/
def calendarDateFromInstant (instant : Instant) (zone : Zone) : CivilDate :=
  let value := formatToParts instant zone
  { year := value.year, month := value.month, day := value.day }

/-- The date some days after another. -/
def addCalendarDays (value : CivilDate) (days : Int) : CivilDate :=
  utcDate (dateUTC value.year (value.month - 1) (value.day + days))

/-- Whether a year, a month and a day survive the round trip through a `Date`. -/
def isRealCalendarDate (value : CivilDate) : Bool :=
  -- A part that is out of range rolls over, and then the date reads differently.
  let date := dateUTC value.year (value.month - 1) value.day
  IsTimeValue date && utcDate date = value

/-- The instant at which a UTC wall clock would show the given parts. -/
def representedInstant (shown : ClockParts) : Instant :=
  dateUTC shown.year (shown.month - 1) shown.day +
    shown.hour * 3600000 + shown.minute * 60000 + shown.second * 1000

/-- The correction loop of `localMidnight`, with the rounds it has left. -/
def resolveCandidate (target : Instant) (zone : Zone) : Nat → Instant → Except String Instant
  | 0, candidate => .ok candidate
  | rounds + 1, candidate =>
    -- Formatting an invalid date throws.
    if ¬IsTimeValue candidate then .error "Invalid time value"
    else
      let shown := formatToParts candidate zone
      let next := candidate + (target - representedInstant shown)
      -- A fixed point is the instant whose wall clock shows the target.
      if next = candidate then .ok candidate else resolveCandidate target zone rounds next

/-- The instant at which a reporting day begins. -/
def localMidnight (value : CivilDate) (zone : Zone) : Except String Instant := do
  if !isRealCalendarDate value then throw "date must be a valid date"
  let target := dateUTC value.year (value.month - 1) value.day
  let candidate ← resolveCandidate target zone 4 target
  if ¬IsTimeValue candidate then throw "Invalid time value"
  -- Where the zone skips the midnight, no instant shows it and the loop ends elsewhere.
  let actual := formatToParts candidate zone
  if actual.year ≠ value.year ∨ actual.month ≠ value.month ∨ actual.day ≠ value.day ∨ actual.hour ≠ 0 then
    throw ("Unable to resolve reporting day in " ++ zone.name)
  return candidate

/-- A date as `YYYY-MM-DD`, with the year as short as it is. -/
def formatCalendarDate (value : CivilDate) : String :=
  toString value.year ++ "-" ++ padStart2 value.month ++ "-" ++ padStart2 value.day

/-- The reporting date of an instant. -/
def formatReportingDate (instant : Instant) (zone : Zone) : String :=
  formatCalendarDate (calendarDateFromInstant instant zone)

/-- The instants of one reporting day. -/
def getReportingDayRange (value : CivilDate) (zone : Zone) : Except String ReportingRange := do
  let startInclusive ← localMidnight value zone
  -- The end is the next day's own midnight, so that a day may have more or fewer hours than 24.
  let endExclusive ← localMidnight (addCalendarDays value 1) zone
  return { startInclusive, endExclusive }

/-- The instants of one reporting month. -/
def getReportingMonthRange (value : CalendarMonth) (zone : Zone) : Except String ReportingRange := do
  if value.month < 1 ∨ 12 < value.month then throw "month must be a valid calendar month"
  let next : CalendarMonth :=
    if value.month = 12 then { year := value.year + 1, month := 1 }
    else { year := value.year, month := value.month + 1 }
  let startInclusive ← localMidnight { year := value.year, month := value.month, day := 1 } zone
  let endExclusive ← localMidnight { year := next.year, month := next.month, day := 1 } zone
  return { startInclusive, endExclusive }

/-- The day of a rolling window at an index, of which the last is today. -/
def rollingDayRange (today : CivilDate) (days : Nat) (zone : Zone) (index : Nat) :
    Except String ReportingDayRange := do
  let date := addCalendarDays today (index - days + 1)
  let range ← getReportingDayRange date zone
  return { range with label := formatCalendarDate date }

/-- The reporting days of a rolling window that ends today, oldest first. -/
def getRollingDayRanges (now : Instant) (days : Nat) (zone : Zone) :
    Except String (List ReportingDayRange) := do
  if days = 0 then throw "days must be a positive integer"
  let today := calendarDateFromInstant now zone
  (List.range days).mapM (rollingDayRange today days zone)

/-- A client's date: now when omitted, a reporting day's beginning, or a timestamp with its offset. -/
def parseBusinessDate (value : Option String) (zone : Zone) (now : Instant) : Except String Instant :=
  match value with
  | none => .ok now
  | some text =>
    -- Date-only text is a reporting day, and any other must say its offset.
    match matchDate text with
    | some (year, month, day) => localMidnight { year, month, day } zone
    | none =>
      if !hasExplicitOffset text then .error "date timestamp must include an explicit offset"
      else
        match parseTimestamp text with
        | some parsed => .ok parsed
        | none => .error "date must be a valid date"

/-- A client's month: now when omitted, or the beginning of the month. -/
def parseReportingAnchor (value : Option String) (zone : Zone) (now : Instant) : Except String Instant :=
  match value with
  | none => .ok now
  | some text =>
    match matchMonth text with
    | none => .error "anchor must be in YYYY-MM format"
    | some (year, month) =>
      if month < 1 ∨ 12 < month then .error "anchor must be a valid calendar month"
      else localMidnight { year, month, day := 1 } zone

end PocketMint
