import PocketMint.Calendar.Civil

/-! Months of the calendar, counted through the years, and the days that fall in them. -/

namespace PocketMint

namespace Calendar

/-- The day number of the first of a month, where months are counted from January of year zero. -/
def monthOpens (month : Int) : Int :=
  daysFromCivil { year := month / 12, month := month % 12 + 1, day := 1 }

/-- The number of days in a month. -/
def monthLength (month : Int) : Int := monthOpens (month + 1) - monthOpens month

/-- The month that a day falls in. -/
def monthOf (day : Int) : Int := (civilFromDays day).year * 12 + ((civilFromDays day).month - 1)

/-- A month opens so many days into the March-based year it belongs to. -/
theorem monthOpens_eq (month : Int) :
    monthOpens month =
      marchYearStart ((month - 2) / 12) + monthStart ((month - 2) % 12) - unixEpochDay := by
  -- January and February belong to the March-based year before.
  have counted : (month % 12 + 1 + 9) % 12 = (month - 2) % 12 := by omega
  simp only [monthOpens, daysFromCivil, counted]
  split
  · have year : month / 12 - 1 = (month - 2) / 12 := by omega
    rw [year]
    omega
  · have year : month / 12 = (month - 2) / 12 := by omega
    rw [year]
    omega

/-- A March-based year has 365 days or one more. -/
theorem marchYearStart_succ (year : Int) :
    marchYearStart year + 365 ≤ marchYearStart (year + 1) ∧
      marchYearStart (year + 1) ≤ marchYearStart year + 366 := by
  -- Only a fourth year adds a day, and only a fourth century keeps the one it would lose.
  have hundred : ∀ y : Int, y / 100 = y / 4 / 25 := by omega
  have era : ∀ y : Int, y / 400 = y / 4 / 25 / 4 := by omega
  have cycles : (year + 1) / 4 = year / 4 ∨ (year + 1) / 4 = year / 4 + 1 := by omega
  simp only [marchYearStart, hundred, era]
  generalize year / 4 = first at *
  -- What is left is arithmetic on the number of leap cycles.
  generalize (year + 1) / 4 = second at *
  omega

/-- A month has from 28 to 31 days. -/
theorem monthLength_bounds (month : Int) : 28 ≤ monthLength month ∧ monthLength month ≤ 31 := by
  -- Only February, the last month of its March-based year, depends on the leap rule.
  obtain ⟨low, high⟩ := marchYearStart_succ ((month - 2) / 12)
  rw [monthLength, monthOpens_eq, monthOpens_eq]
  by_cases february : (month - 2) % 12 = 11
  -- After February the March-based year begins anew.
  · have year : (month + 1 - 2) / 12 = (month - 2) / 12 + 1 := by omega
    have march : (month + 1 - 2) % 12 = 0 := by omega
    simp only [year, march, february, monthStart]
    omega
  -- Every other month is followed by one of the same March-based year.
  · have year : (month + 1 - 2) / 12 = (month - 2) / 12 := by omega
    have next : (month + 1 - 2) % 12 = (month - 2) % 12 + 1 := by omega
    simp only [year, next, monthStart]
    omega

theorem monthOpens_succ (month : Int) : monthOpens (month + 1) = monthOpens month + monthLength month := by
  rw [monthLength]
  omega

/-- Later months open later, by at least 28 days for each month between. -/
theorem monthOpens_add_le (month : Int) (more : Nat) :
    monthOpens month + 28 * more ≤ monthOpens (month + more) := by
  -- Every month has four weeks at least.
  induction more with
  | zero => simp
  | succ more ih =>
    have next := monthOpens_succ (month + more)
    have length := monthLength_bounds (month + more)
    push_cast at *
    rw [← Int.add_assoc]
    omega

theorem monthOpens_lt_iff {month later : Int} : monthOpens month < monthOpens later ↔ month < later := by
  -- The months open in order, so both directions follow from one of them.
  have grows : ∀ {first second : Int}, first < second → monthOpens first < monthOpens second := by
    intro first second order
    -- The gap of four weeks for each month in between is positive.
    have gap := monthOpens_add_le first (second - first).toNat
    have reached : first + ((second - first).toNat : Int) = second := by omega
    rw [reached] at gap
    omega
  constructor
  · intro opens
    by_contra order
    rcases lt_or_eq_of_le (not_lt.mp order) with before | same
    · have := grows before
      omega
    · rw [same] at opens
      omega
  · exact grows

theorem monthOpens_le_iff {month later : Int} : monthOpens month ≤ monthOpens later ↔ month ≤ later := by
  rw [← not_lt, monthOpens_lt_iff, not_lt]

/-- The opening day of the year at any position of an era. -/
theorem marchYearStart_position {century cycle yearOfCycle : Int} (era : Int)
    (centuries : 0 ≤ century ∧ century ≤ 3) (cycles : 0 ≤ cycle ∧ cycle ≤ 24)
    (years : 0 ≤ yearOfCycle ∧ yearOfCycle ≤ 3) :
    marchYearStart (400 * era + 100 * century + 4 * cycle + yearOfCycle) =
      146097 * era + 36524 * century + 1461 * cycle + 365 * yearOfCycle := by
  simp only [marchYearStart]
  omega

/-- The days of a March-based year end before the next one opens. -/
theorem eraYear_lt (shifted : Int) :
    shifted < marchYearStart ((eraYear shifted).year + 1) := by
  -- The last year of a leap cycle is short when the cycle closes one of the first three centuries.
  obtain ⟨_, _, _, _, low, high, _, _⟩ := eraYear_spec shifted
  simp only [eraYear, EraYear.year, EraYear.start] at *
  have era : shifted = 146097 * (shifted / 146097) + shifted % 146097 := by omega
  have inEra : 0 ≤ shifted % 146097 ∧ shifted % 146097 < 146097 := by omega
  generalize shifted % 146097 = dayOfEra at *
  generalize shifted / 146097 = eras at *
  have inCentury : min (dayOfEra / 36524) 3 < 3 →
      dayOfEra - 36524 * min (dayOfEra / 36524) 3 < 36524 := by omega
  generalize min (dayOfEra / 36524) 3 = century at *
  generalize shape : dayOfEra - 36524 * century = dayOfCentury at *
  have inCycle : dayOfCentury = 1461 * (dayOfCentury / 1461) + dayOfCentury % 1461 := by omega
  have cycle : 0 ≤ dayOfCentury % 1461 ∧ dayOfCentury % 1461 < 1461 := by omega
  generalize dayOfCentury / 1461 = cycles at *
  generalize dayOfCentury % 1461 = dayOfCycle at *
  have inYear : min (dayOfCycle / 365) 3 < 3 → dayOfCycle - 365 * min (dayOfCycle / 365) 3 < 365 := by
    omega
  generalize min (dayOfCycle / 365) 3 = year at *
  -- The next year takes the next position, or opens the next cycle, century or era.
  have next : ∀ {c q y : Int} (e : Int), 0 ≤ c ∧ c ≤ 3 → 0 ≤ q ∧ q ≤ 24 → 0 ≤ y ∧ y ≤ 3 →
      400 * eras + 100 * century + 4 * cycles + year + 1 = 400 * e + 100 * c + 4 * q + y →
      marchYearStart (400 * eras + 100 * century + 4 * cycles + year + 1) =
        146097 * e + 36524 * c + 1461 * q + 365 * y := by
    intro c q y e centuries cycles years same
    rw [same, marchYearStart_position e centuries cycles years]
  -- The next year is the next of its cycle, or the carry goes up a place at a time.
  by_cases within : year < 3
  · rw [next (c := century) (q := cycles) (y := year + 1) eras] <;> omega
  · by_cases cycleWithin : cycles < 24
    · rw [next (c := century) (q := cycles + 1) (y := 0) eras] <;> omega
    · by_cases centuryWithin : century < 3
      · rw [next (c := century + 1) (q := 0) (y := 0) eras] <;> omega
      · rw [next (c := 0) (q := 0) (y := 0) (eras + 1)] <;> omega

/-- The month a day falls in, through the March-based year of the day. -/
theorem monthOf_eq {day year dayOfYear : Int} (inYear : (eraYear (day + unixEpochDay)).year = year)
    (counted : day + unixEpochDay - (eraYear (day + unixEpochDay)).start = dayOfYear) :
    monthOf day = 12 * year + (5 * dayOfYear + 2) / 153 + 2 := by
  -- Either half of the March-based year counts its months in step with the civil ones.
  simp only [monthOf, civilFromDays, civilOfMarch, inYear, counted]
  split <;> omega

/-- A day falls between the opening of its month and that of the next. -/
theorem monthOf_spec (day : Int) : monthOpens (monthOf day) ≤ day ∧ day < monthOpens (monthOf day + 1) := by
  -- The month of a day of the March-based year is read off by the rule that counts its opening.
  obtain ⟨_, _, _, _, _, _, low, high⟩ := eraYear_spec (day + unixEpochDay)
  have last := eraYear_lt (day + unixEpochDay)
  have start := marchYearStart_eraYear (day + unixEpochDay)
  generalize inYear : (eraYear (day + unixEpochDay)).year = year at *
  generalize counted : day + unixEpochDay - (eraYear (day + unixEpochDay)).start = dayOfYear at *
  have months : 0 ≤ (5 * dayOfYear + 2) / 153 ∧ (5 * dayOfYear + 2) / 153 ≤ 11 := by omega
  rw [monthOf_eq inYear counted, monthOpens_eq, monthOpens_eq]
  generalize index : (5 * dayOfYear + 2) / 153 = month at *
  have own : (12 * year + month + 2 - 2) / 12 = year := by omega
  have position : (12 * year + month + 2 - 2) % 12 = month := by omega
  rw [own, position]
  -- The month that closes is February of the next year, or a month of the same one.
  by_cases february : month = 11
  · have next : (12 * year + month + 2 + 1 - 2) / 12 = year + 1 := by omega
    have march : (12 * year + month + 2 + 1 - 2) % 12 = 0 := by omega
    rw [next, march]
    simp only [monthStart]
    omega
  · have same : (12 * year + month + 2 + 1 - 2) / 12 = year := by omega
    have next : (12 * year + month + 2 + 1 - 2) % 12 = month + 1 := by omega
    rw [same, next]
    simp only [monthStart]
    omega

theorem monthOf_eq_iff {day month : Int} :
    monthOf day = month ↔ monthOpens month ≤ day ∧ day < monthOpens (month + 1) := by
  -- Months that open in order leave no day to two of them.
  constructor
  · rintro rfl
    exact monthOf_spec day
  · rintro ⟨low, high⟩
    obtain ⟨opened, closes⟩ := monthOf_spec day
    have notLater := monthOpens_lt_iff.mp (lt_of_le_of_lt opened high)
    have notEarlier := monthOpens_lt_iff.mp (lt_of_le_of_lt low closes)
    omega

/-- A day's year is that of its month. -/
theorem year_civilFromDays (day : Int) : (civilFromDays day).year = monthOf day / 12 := by
  obtain ⟨_, _, _⟩ := civilFromDays_bounds day
  simp only [monthOf]
  omega

/-- The date of a day, through the month that it falls in. -/
theorem civilFromDays_eq {day month : Int} (low : monthOpens month ≤ day)
    (high : day < monthOpens (month + 1)) :
    civilFromDays day =
      { year := month / 12, month := month % 12 + 1, day := day - monthOpens month + 1 } := by
  -- The year and the month are those of the day's month, and the day is what its number leaves.
  obtain rfl := monthOf_eq_iff.mpr ⟨low, high⟩
  obtain ⟨first, last, _⟩ := civilFromDays_bounds day
  have own := daysFromCivil_civilFromDays day
  have year : monthOf day / 12 = (civilFromDays day).year := (year_civilFromDays day).symm
  have month : monthOf day % 12 + 1 = (civilFromDays day).month := by
    simp only [monthOf]
    omega
  have dayOfMonth : day - monthOpens (monthOf day) + 1 = (civilFromDays day).day := by
    rw [monthOpens, year, month]
    simp only [daysFromCivil] at own ⊢
    omega
  rw [year, month, dayOfMonth]

/-- Days of an earlier month come earlier. -/
theorem lt_of_monthOf_lt {day later : Int} (order : monthOf day < monthOf later) : day < later := by
  -- A whole month lies between the two openings, or none does.
  have closes := (monthOf_spec day).2
  have opens := (monthOf_spec later).1
  have between := monthOpens_le_iff.mpr (show monthOf day + 1 ≤ monthOf later by omega)
  omega

/-- Days are ordered as their dates: by the year, then by the month, then by the day of the month. -/
theorem lt_iff_civilFromDays {day later : Int} :
    day < later ↔
      (civilFromDays day).year < (civilFromDays later).year ∨
        (civilFromDays day).year = (civilFromDays later).year ∧
          ((civilFromDays day).month < (civilFromDays later).month ∨
            (civilFromDays day).month = (civilFromDays later).month ∧
              (civilFromDays day).day < (civilFromDays later).day) := by
  -- The year and the month together count months, and within a month the days count on.
  obtain ⟨_, _, _⟩ := civilFromDays_bounds day
  obtain ⟨_, _, _⟩ := civilFromDays_bounds later
  have first := congrArg CivilDate.day (civilFromDays_eq (monthOf_spec day).1 (monthOf_spec day).2)
  have second :=
    congrArg CivilDate.day (civilFromDays_eq (monthOf_spec later).1 (monthOf_spec later).2)
  simp only at first second
  -- Days of different months are in the order of their months.
  rcases lt_trichotomy (monthOf day) (monthOf later) with before | same | after
  · have less := lt_of_monthOf_lt before
    simp only [monthOf] at before
    omega
  · rw [same] at first
    simp only [monthOf] at same
    omega
  · have less := lt_of_monthOf_lt after
    simp only [monthOf] at after
    omega

end Calendar

end PocketMint
