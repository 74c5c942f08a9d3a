import Mathlib.Data.Int.Order.Basic
import Mathlib.Tactic.ByContra

/-! The proleptic Gregorian calendar, as day numbers counted from the first of January 1970. -/

namespace PocketMint

/-- A year, a month and a day of the month. -/
structure CivilDate where
  year : Int
  month : Int
  day : Int
  deriving DecidableEq, Repr

namespace Calendar

/-! Years counted from March put the leap day at the end, so month starts do not depend on it. -/

/-- Days from the first of March of year zero to the first of March of a year. -/
def marchYearStart (year : Int) : Int := 365 * year + year / 4 - year / 100 + year / 400

/-- Days from the first of March to the first of the month that many months later. -/
def monthStart (month : Int) : Int := (153 * month + 2) / 5

/-- The years of a day number within its 400-year era, as centuries, leap cycles and years. -/
structure EraYear where
  era : Int
  century : Int
  cycle : Int
  yearOfCycle : Int

/-- The March-based year of a day number counted from the first of March of year zero. -/
def eraYear (shifted : Int) : EraYear :=
  let dayOfEra := shifted % 146097
  let century := min (dayOfEra / 36524) 3
  let dayOfCentury := dayOfEra - 36524 * century
  { era := shifted / 146097
    century
    cycle := dayOfCentury / 1461
    yearOfCycle := min (dayOfCentury % 1461 / 365) 3 }

/-- The year number an era position stands for. -/
def EraYear.year (position : EraYear) : Int :=
  400 * position.era + 100 * position.century + 4 * position.cycle + position.yearOfCycle

/-- The day number of the first of March that opens a March-based year. -/
def EraYear.start (position : EraYear) : Int :=
  146097 * position.era + 36524 * position.century + 1461 * position.cycle +
    365 * position.yearOfCycle

/-- The first of January 1970, counted from the first of March of year zero. -/
def unixEpochDay : Int := 719468

/-- The day number of a date, whose day of the month may run past either end of its month. -/
def daysFromCivil (date : CivilDate) : Int :=
  let year := if date.month ≤ 2 then date.year - 1 else date.year
  marchYearStart year + monthStart ((date.month + 9) % 12) + (date.day - 1) - unixEpochDay

/-- The date so many days into a March-based year. -/
def civilOfMarch (year dayOfYear : Int) : CivilDate :=
  let month := (5 * dayOfYear + 2) / 153
  { year := if month < 10 then year else year + 1
    month := if month < 10 then month + 3 else month - 9
    day := dayOfYear - monthStart month + 1 }

/-- The date of a day number. -/
def civilFromDays (days : Int) : CivilDate :=
  let position := eraYear (days + unixEpochDay)
  civilOfMarch position.year (days + unixEpochDay - position.start)

/-- An era position has its parts in range, and its year contains the day. -/
theorem eraYear_spec (shifted : Int) :
    0 ≤ (eraYear shifted).century ∧ (eraYear shifted).century ≤ 3 ∧
    0 ≤ (eraYear shifted).cycle ∧ (eraYear shifted).cycle ≤ 24 ∧
    0 ≤ (eraYear shifted).yearOfCycle ∧ (eraYear shifted).yearOfCycle ≤ 3 ∧
    0 ≤ shifted - (eraYear shifted).start ∧ shifted - (eraYear shifted).start ≤ 365 := by
  -- Each remainder bounds the next quotient, from the era down to the year.
  simp only [eraYear, EraYear.start]
  -- The era is the quotient, and the rest of the day count stays within it.
  have era : shifted = 146097 * (shifted / 146097) + shifted % 146097 := by omega
  have inEra : 0 ≤ shifted % 146097 ∧ shifted % 146097 < 146097 := by omega
  generalize shifted % 146097 = dayOfEra at *
  generalize shifted / 146097 = eras at *
  -- The last century of an era may be a day longer, which the minimum takes up.
  have inCentury : 0 ≤ min (dayOfEra / 36524) 3 ∧ min (dayOfEra / 36524) 3 ≤ 3 ∧
      0 ≤ dayOfEra - 36524 * min (dayOfEra / 36524) 3 ∧
      dayOfEra - 36524 * min (dayOfEra / 36524) 3 ≤ 36524 := by omega
  generalize min (dayOfEra / 36524) 3 = century at *
  generalize shape : dayOfEra - 36524 * century = dayOfCentury at *
  omega

/-- The opening day of a year is counted by the leap rule. -/
theorem marchYearStart_eraYear (shifted : Int) :
    marchYearStart (eraYear shifted).year = (eraYear shifted).start := by
  obtain ⟨_, _, _, _, _, _, _, _⟩ := eraYear_spec shifted
  simp only [marchYearStart, EraYear.year, EraYear.start]
  omega

/-- The date so many days into a March-based year is that many days after its first of March. -/
theorem daysFromCivil_civilOfMarch (year : Int) {dayOfYear : Int} (low : 0 ≤ dayOfYear)
    (high : dayOfYear ≤ 365) :
    daysFromCivil (civilOfMarch year dayOfYear) = marchYearStart year + dayOfYear - unixEpochDay := by
  -- The month read off the day of the year has a start that the day of the month counts from.
  have months : 0 ≤ (5 * dayOfYear + 2) / 153 ∧ (5 * dayOfYear + 2) / 153 ≤ 11 := by omega
  by_cases early : (5 * dayOfYear + 2) / 153 < 10
  · -- The months from March to December lie in the year itself.
    have march : ((5 * dayOfYear + 2) / 153 + 3 + 9) % 12 = (5 * dayOfYear + 2) / 153 := by omega
    simp only [daysFromCivil, civilOfMarch, if_pos early, march]
    rw [if_neg (by omega)]
    omega
  · -- January and February lie in the year after.
    have january : ((5 * dayOfYear + 2) / 153 - 9 + 9) % 12 = (5 * dayOfYear + 2) / 153 := by omega
    simp only [daysFromCivil, civilOfMarch, if_neg early, january]
    rw [if_pos (by omega), Int.add_sub_cancel]
    omega

/-- Every day number is the day number of its date. -/
@[simp] theorem daysFromCivil_civilFromDays (days : Int) :
    daysFromCivil (civilFromDays days) = days := by
  obtain ⟨_, _, _, _, _, _, low, high⟩ := eraYear_spec (days + unixEpochDay)
  rw [civilFromDays, daysFromCivil_civilOfMarch _ low high, marchYearStart_eraYear]
  omega

/-- The date of a day number has its month and day in range. -/
theorem civilFromDays_bounds (days : Int) :
    1 ≤ (civilFromDays days).month ∧ (civilFromDays days).month ≤ 12 ∧
    1 ≤ (civilFromDays days).day ∧ (civilFromDays days).day ≤ 31 := by
  obtain ⟨_, _, _, _, _, _, low, high⟩ := eraYear_spec (days + unixEpochDay)
  simp only [civilFromDays, civilOfMarch, monthStart]
  generalize days + unixEpochDay - (eraYear (days + unixEpochDay)).start = dayOfYear at low high
  -- The year starts in March, so ten months come before the new year and two after it.
  by_cases early : (5 * dayOfYear + 2) / 153 < 10
  · rw [if_pos early]
    omega
  · rw [if_neg early]
    omega

/-- Distinct day numbers have distinct dates. -/
theorem civilFromDays_injective : Function.Injective civilFromDays :=
  Function.LeftInverse.injective daysFromCivil_civilFromDays

/-- Shifting the day of the month shifts the day number. -/
theorem daysFromCivil_addDays (date : CivilDate) (days : Int) :
    daysFromCivil { date with day := date.day + days } = daysFromCivil date + days := by
  simp only [daysFromCivil]
  omega

/-- Each year opens at least 365 days after the one before it. -/
theorem marchYearStart_add_le {year later : Int} (order : year ≤ later) :
    marchYearStart year + 365 * (later - year) ≤ marchYearStart later := by
  -- Centuries and eras count leap cycles, of which a later year has passed no fewer.
  have cycles : year / 4 ≤ later / 4 := Int.ediv_le_ediv (by decide) order
  have hundred : ∀ y : Int, y / 100 = y / 4 / 25 := by omega
  have era : ∀ y : Int, y / 400 = y / 4 / 25 / 4 := by omega
  simp only [marchYearStart, hundred, era]
  generalize year / 4 = first at *
  generalize later / 4 = second at *
  omega

/-- A day falls before a year when it comes before the year's first of January. -/
theorem civilFromDays_year_lt {days year : Int} :
    (civilFromDays days).year < year ↔ days < daysFromCivil { year, month := 1, day := 1 } := by
  have count := daysFromCivil_civilFromDays days
  obtain ⟨_, _, _, _⟩ := civilFromDays_bounds days
  generalize civilFromDays days = date at *
  -- The days of a year are counted from its first of March, and those of January from the one before.
  have opens : daysFromCivil { year, month := 1, day := 1 } =
      marchYearStart (year - 1) + 306 - unixEpochDay := by
    simp [daysFromCivil, monthStart]
  rw [← count, opens]
  simp only [daysFromCivil, monthStart]
  constructor
  · intro earlier
    -- A date of January or February is counted from the March of the year before.
    split
    · have := marchYearStart_add_le (show date.year - 1 ≤ year - 2 by omega)
      have := marchYearStart_add_le (show year - 2 ≤ year - 1 by omega)
      omega
    · have := marchYearStart_add_le (show date.year ≤ year - 1 by omega)
      omega
  · intro before
    by_contra notEarlier
    -- The same two cases bound the year from the other side.
    split at before
    · have := marchYearStart_add_le (show year - 1 ≤ date.year - 1 by omega)
      omega
    · have := marchYearStart_add_le (show year - 1 ≤ date.year by omega)
      omega

end Calendar

end PocketMint
