import PocketMint.Calendar.Civil

/-! Instants, calendar dates and time zones as the JavaScript runtime computes them. -/

namespace PocketMint

/-- A point in time, in milliseconds since the start of 1970 in UTC. -/
abbrev Instant := Int

/-- A time zone, as the offset its wall clocks show at each instant. -/
structure Zone where
  name : String
  /-- Milliseconds by which the wall clock is ahead of UTC. -/
  offset : Instant → Int

/-- A zone whose wall clocks are always the same number of minutes, less than a day's, ahead of UTC. -/
structure FixedZone where
  name : String
  minutes : Int
  low : -1440 < minutes
  high : minutes < 1440

/-- The zone a fixed number of minutes describes. -/
def FixedZone.zone (fixed : FixedZone) : Zone :=
  { name := fixed.name, offset := fun _ => fixed.minutes * 60000 }

namespace Js

/-- The milliseconds of one day. -/
def msPerDay : Int := 86400000

/-- The farthest from the start of 1970, in milliseconds, that a `Date` can represent. -/
def maxTime : Int := 8640000000000000

/-- The instants a `Date` can represent; outside them it is an invalid date. -/
def IsTimeValue (instant : Instant) : Prop := -maxTime ≤ instant ∧ instant ≤ maxTime

instance : DecidablePred IsTimeValue := fun instant =>
  inferInstanceAs (Decidable (-maxTime ≤ instant ∧ instant ≤ maxTime))

/-- The day number of a year, month index and day of the month, any of which may run over. -/
def makeDay (year monthIndex day : Int) : Int :=
  Calendar.daysFromCivil { year := year + monthIndex / 12, month := monthIndex % 12 + 1, day }

/-- The year `Date.UTC` takes a year number for: 0 to 99 stand for 1900 to 1999. -/
def fullYear (year : Int) : Int :=
  if 0 ≤ year ∧ year ≤ 99 then 1900 + year else year

/-- `Date.UTC` of a year, a month index and a day. -/
def dateUTC (year monthIndex day : Int) : Instant :=
  makeDay (fullYear year) monthIndex day * msPerDay

/-- The calendar date `getUTCFullYear`, `getUTCMonth() + 1` and `getUTCDate` read off an instant. -/
def utcDate (instant : Instant) : CivilDate :=
  Calendar.civilFromDays (instant / msPerDay)

/-- The numbers of a wall clock, as a date formatter lists them. -/
structure ClockParts where
  year : Int
  month : Int
  day : Int
  hour : Int
  minute : Int
  second : Int
  deriving DecidableEq

/-- The parts `Intl.DateTimeFormat` shows; it counts years before the common era upwards from one. -/
def formatToParts (instant : Instant) (zone : Zone) : ClockParts :=
  let shown := instant + zone.offset instant
  let date := utcDate shown
  let time := shown % msPerDay
  { year := if date.year ≤ 0 then 1 - date.year else date.year
    month := date.month
    day := date.day
    hour := time / 3600000
    minute := time / 60000 % 60
    second := time / 1000 % 60 }

/-- `String(value).padStart(2, '0')`. -/
def padStart2 (value : Int) : String :=
  let text := toString value
  if text.length < 2 then "0" ++ text else text

/-- The number a run of decimal digits stands for. -/
def digitsValue (digits : List Char) : Option Nat :=
  if digits.all Char.isDigit then some (Nat.ofDigitChars 10 digits 0) else none

/-- The groups of `/^(\d{4})-(\d{2})-(\d{2})$/`. -/
def matchDate (value : String) : Option (Int × Int × Int) :=
  match value.toList with
  | [y1, y2, y3, y4, '-', m1, m2, '-', d1, d2] => do
    let year ← digitsValue [y1, y2, y3, y4]
    let month ← digitsValue [m1, m2]
    let day ← digitsValue [d1, d2]
    return (year, month, day)
  | _ => none

/-- The groups of `/^(\d{4})-(\d{2})$/`. -/
def matchMonth (value : String) : Option (Int × Int) :=
  match value.toList with
  | [y1, y2, y3, y4, '-', m1, m2] => do
    let year ← digitsValue [y1, y2, y3, y4]
    let month ← digitsValue [m1, m2]
    return (year, month)
  | _ => none

/-! Timestamps: a date, a time of day, and the offset of the clock that showed them. -/

/-- The offset that ends a timestamp, in minutes. -/
def parseOffset : List Char → Option Int
  | ['Z'] => some 0
  | ['z'] => some 0
  | [sign, h1, h2, ':', m1, m2] => do
    let hours ← digitsValue [h1, h2]
    let minutes ← digitsValue [m1, m2]
    if hours ≤ 23 ∧ minutes ≤ 59 then
      if sign = '+' then some (hours * 60 + minutes)
      else if sign = '-' then some (-(hours * 60 + minutes))
      else none
    else none
  | _ => none

/-- The seconds and milliseconds that may follow the minutes, and what comes after them. -/
def parseSeconds : List Char → Option (Int × List Char)
  | ':' :: s1 :: s2 :: rest => do
    let seconds ← digitsValue [s1, s2]
    match rest with
    | '.' :: tail =>
      let fraction := tail.takeWhile Char.isDigit
      -- Only the first three digits of a fraction of a second are kept.
      if fraction.isEmpty then none
      else
        let milliseconds := Nat.ofDigitChars 10 ((fraction ++ ['0', '0']).take 3) 0
        if seconds ≤ 59 then some (seconds * 1000 + milliseconds, tail.dropWhile Char.isDigit)
        else none
    | _ => if seconds ≤ 59 then some (seconds * 1000, rest) else none
  | rest => some (0, rest)

/-- The time of day and the offset that follow the date of a timestamp, as milliseconds. -/
def parseTime : List Char → Option Int
  | h1 :: h2 :: ':' :: m1 :: m2 :: rest => do
    let hours ← digitsValue [h1, h2]
    let minutes ← digitsValue [m1, m2]
    let (milliseconds, tail) ← parseSeconds rest
    let offset ← parseOffset tail
    let time : Int := hours * 3600000 + minutes * 60000 + milliseconds
    if minutes ≤ 59 ∧ time ≤ msPerDay then some (time - offset * 60000) else none
  | _ => none

/-- `new Date(value)` on an ISO timestamp; days past the end of a short month run over. -/
def parseTimestamp (value : String) : Option Instant :=
  match value.toList with
  | y1 :: y2 :: y3 :: y4 :: '-' :: m1 :: m2 :: '-' :: d1 :: d2 :: separator :: rest => do
    let year ← digitsValue [y1, y2, y3, y4]
    let month ← digitsValue [m1, m2]
    let day ← digitsValue [d1, d2]
    let time ← parseTime rest
    if (separator = 'T' ∨ separator = 't') ∧ 1 ≤ month ∧ month ≤ 12 ∧ 1 ≤ day ∧ day ≤ 31 then
      some (makeDay year (month - 1) day * msPerDay + time)
    else none
  | _ => none

/-- The characters `.` does not match. -/
def isLineBreak (char : Char) : Bool :=
  char = '\n' || char = '\r' || char = '\u2028' || char = '\u2029'

/-- `/^\d{4}-\d{2}-\d{2}T.*(?:Z|[+-]\d{2}:\d{2})$/i.test(value)`. -/
def hasExplicitOffset (value : String) : Bool :=
  match value.toList with
  | y1 :: y2 :: y3 :: y4 :: '-' :: m1 :: m2 :: '-' :: d1 :: d2 :: separator :: rest =>
    [y1, y2, y3, y4, m1, m2, d1, d2].all Char.isDigit && (separator = 'T' || separator = 't') &&
    match rest.reverse with
    | 'Z' :: before => !before.any isLineBreak
    | 'z' :: before => !before.any isLineBreak
    | m2 :: m1 :: ':' :: h2 :: h1 :: sign :: before =>
      [h1, h2, m1, m2].all Char.isDigit && (sign = '+' || sign = '-') && !before.any isLineBreak
    | _ => false
  | _ => false

/-! Equations for zones of fixed offset, where a wall clock only shifts the instant. -/

theorem dateUTC_of_year {year : Int} (full : year < 0 ∨ 100 ≤ year) (monthIndex day : Int) :
    dateUTC year monthIndex day = makeDay year monthIndex day * msPerDay := by
  have notShort : ¬(0 ≤ year ∧ year ≤ 99) := by omega
  simp only [dateUTC, fullYear, if_neg notShort]

/-- Months of a calendar date do not run over. -/
theorem makeDay_civil {date : CivilDate} (low : 1 ≤ date.month) (high : date.month ≤ 12) (days : Int) :
    makeDay date.year (date.month - 1) (date.day + days) = Calendar.daysFromCivil date + days := by
  -- The month counted from zero and the month counted from one are the same month.
  rw [← Calendar.daysFromCivil_addDays, makeDay]
  congr 1
  simp only [CivilDate.mk.injEq, and_true]
  omega

@[simp] theorem utcDate_mul (days : Int) : utcDate (days * msPerDay) = Calendar.civilFromDays days := by
  simp [utcDate, msPerDay]

end Js

end PocketMint
