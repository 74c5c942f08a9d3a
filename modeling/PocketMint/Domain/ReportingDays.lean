import PocketMint.Domain.ReportingTime
import Mathlib.Tactic.Ring

/-! Which reporting days of a zone with a fixed offset are resolved, and to which instants. -/

namespace PocketMint

open Js Calendar

/-- A computation over a list succeeds with the results of its elements. -/
theorem mapM_eq_ok {ε α β : Type} {step : α → Except ε β} {result : α → β} {list : List α}
    (each : ∀ x ∈ list, step x = .ok (result x)) : list.mapM step = .ok (list.map result) := by
  -- Each step succeeds with its own result, so none ends the map.
  induction list with
  | nil => rfl
  | cons x list ih =>
    rw [List.mapM_cons, each x List.mem_cons_self, ih fun y member => each y (List.mem_cons_of_mem _ member)]
    rfl

/-- A computation over a list that succeeds does so on every element. -/
theorem getElem?_of_mapM_ok {ε α β : Type} {step : α → Except ε β} {list : List α}
    {results : List β} (done : list.mapM step = .ok results) {index : Nat} {x : α}
    (located : list[index]? = some x) : ∃ r, results[index]? = some r ∧ step x = .ok r := by
  -- A step that fails ends the map, so every step before the end has succeeded.
  induction list generalizing results index with
  | nil => simp at located
  | cons y list ih =>
    rw [List.mapM_cons] at done
    cases head : step y with
    | error message => simp [head, bind, Except.bind] at done
    | ok first =>
      cases tail : list.mapM step with
      | error message => simp [head, tail, bind, Except.bind] at done
      | ok rest =>
        simp only [head, tail, bind, Except.bind, pure, Except.pure, Except.ok.injEq] at done
        subst done
        cases index with
        | zero =>
          obtain rfl : y = x := by simpa using located
          exact ⟨first, rfl, head⟩
        | succ index => simpa using ih tail (by simpa using located)

/-- The year a formatter shows, which counts years before the common era upwards from one. -/
def shownYear (year : Int) : Int := if year ≤ 0 then 1 - year else year

/-- The day number that `Date.UTC` gives the date a formatter shows on a day. -/
def shownDay (day : Int) : Int :=
  let date := civilFromDays day
  makeDay (fullYear (shownYear date.year)) (date.month - 1) date.day

/-- The first day of the year 100, from which on the numbers of a date stand for the date itself. -/
def firstFullDay : Int := daysFromCivil { year := 100, month := 1, day := 1 }

theorem firstFullDay_le_iff {day : Int} : firstFullDay ≤ day ↔ 100 ≤ (civilFromDays day).year := by
  have before : (civilFromDays day).year < 100 ↔ day < firstFullDay := civilFromDays_year_lt
  rw [← not_lt, ← not_lt, before]

/-- The day number of a date's own numbers. -/
theorem makeDay_civilFromDays (day days : Int) :
    makeDay (civilFromDays day).year ((civilFromDays day).month - 1) ((civilFromDays day).day + days) =
      day + days := by
  obtain ⟨low, high, _⟩ := civilFromDays_bounds day
  rw [makeDay_civil low high, daysFromCivil_civilFromDays]

theorem shownDay_full {day : Int} (full : firstFullDay ≤ day) : shownDay day = day := by
  -- From the year 100 on no year is taken for another.
  have year := firstFullDay_le_iff.mp full
  have shown : shownYear (civilFromDays day).year = (civilFromDays day).year := if_neg (by omega)
  have kept : fullYear (civilFromDays day).year = (civilFromDays day).year := if_neg (by omega)
  have own := makeDay_civilFromDays day 0
  simp only [add_zero] at own
  rw [shownDay, shown, kept, own]

/-- The same date of a later year comes later. -/
theorem makeDay_lt {year later : Int} (order : year < later) (monthIndex day : Int) :
    makeDay year monthIndex day < makeDay later monthIndex day := by
  -- The later year starts later, and the month and the day are counted on from there.
  have := marchYearStart_add_le (show year + monthIndex / 12 ≤ later + monthIndex / 12 by omega)
  have := marchYearStart_add_le (show year + monthIndex / 12 - 1 ≤ later + monthIndex / 12 - 1 by omega)
  simp only [makeDay, daysFromCivil]
  split <;> omega

/-- Only the numbers of a date in a full year stand for the date itself. -/
theorem shownDay_eq_iff {day : Int} : shownDay day = day ↔ firstFullDay ≤ day := by
  refine ⟨fun same => ?_, shownDay_full⟩
  -- Before the first full year a year is taken for one of another century, which is later.
  by_contra early
  have small := mt firstFullDay_le_iff.mpr early
  have taken : (civilFromDays day).year < fullYear (shownYear (civilFromDays day).year) := by
    simp only [fullYear, shownYear]
    split <;> split <;> omega
  have later := makeDay_lt taken ((civilFromDays day).month - 1) (civilFromDays day).day
  have own := makeDay_civilFromDays day 0
  simp only [add_zero] at own
  rw [own] at later
  exact later.ne' same

/-- Adding days to a date in a full year counts on from its day number. -/
theorem addCalendarDays_full {day : Int} (full : firstFullDay ≤ day) (days : Int) :
    addCalendarDays (civilFromDays day) days = civilFromDays (day + days) := by
  have year := firstFullDay_le_iff.mp full
  rw [addCalendarDays, dateUTC_of_year (.inr year), makeDay_civilFromDays, utcDate_mul]

/-- One round of the correction. -/
theorem resolveCandidate_succ (target candidate : Int) (zone : Zone) (rounds : Nat) :
    resolveCandidate target zone (rounds + 1) candidate =
      if ¬IsTimeValue candidate then .error "Invalid time value"
      else
        let next := candidate + (target - representedInstant (formatToParts candidate zone))
        if next = candidate then .ok candidate else resolveCandidate target zone rounds next := rfl

theorem isTimeValue_iff {instant : Int} :
    IsTimeValue instant ↔ -maxTime ≤ instant ∧ instant ≤ maxTime := Iff.rfl

theorem isTimeValue_date {day : Int} (full : firstFullDay ≤ day) :
    IsTimeValue (day * msPerDay) ↔ day * msPerDay ≤ maxTime := by
  -- The day lies well after the first instant of a `Date`.
  have first : firstFullDay = -683003 := by decide
  rw [isTimeValue_iff]
  simp only [msPerDay, maxTime] at *
  omega

theorem dateUTC_full {day : Int} (full : firstFullDay ≤ day) :
    dateUTC (civilFromDays day).year ((civilFromDays day).month - 1) (civilFromDays day).day =
      day * msPerDay := by
  have own := makeDay_civilFromDays day 0
  simp only [add_zero] at own
  rw [dateUTC_of_year (.inr (firstFullDay_le_iff.mp full)), own]

/-- A date in a full year is real as far as a `Date` reaches. -/
theorem isRealCalendarDate_full {day : Int} (full : firstFullDay ≤ day) :
    isRealCalendarDate (civilFromDays day) = decide (day * msPerDay ≤ maxTime) := by
  simp [isRealCalendarDate, dateUTC_full full, isTimeValue_date full]

/-- Months and days of the month are shown by two characters, each by its own. -/
theorem padStart2_inj : ∀ first second : Fin 32,
    (padStart2 first.val).toList.length = 2 ∧
      (padStart2 first.val = padStart2 second.val → first = second) := by
  decide +kernel

/-- The text of a number tells the number. -/
theorem toString_int_inj {value other : Int} (same : toString value = toString other) : value = other := by
  -- A natural number is read off its digits, and none of these is the sign of a negative one.
  have read : ∀ {n m : Nat}, Nat.repr n = Nat.repr m → n = m := by
    intro n m repr
    have digits := congrArg (fun text => Nat.ofDigitChars 10 text.toList 0) repr
    simpa [Nat.toList_repr] using digits
  have signed : ∀ n m : Nat, Nat.repr n ≠ "-" ++ Nat.repr m := by
    intro n m repr
    have chars := congrArg String.toList repr
    rw [String.toList_append, Nat.toList_repr] at chars
    have sign : '-' ∈ Nat.toDigits 10 n := by
      rw [chars]
      simp
    exact absurd (Nat.isDigit_of_mem_toDigits (by decide) (by decide) sign) (by decide)
  -- Numbers of different signs are told apart by the sign, and the others by their digits.
  cases value with
  | ofNat n =>
    cases other with
    | ofNat m => exact congrArg Int.ofNat (read same)
    | negSucc m => exact absurd same (signed n (m + 1))
  | negSucc n =>
    cases other with
    | ofNat m => exact absurd same.symm (signed m (n + 1))
    | negSucc m =>
      have positive : Nat.repr (n + 1) = Nat.repr (m + 1) := by
        have chars := congrArg String.toList
          (show "-" ++ Nat.repr (n + 1) = "-" ++ Nat.repr (m + 1) from same)
        rw [String.toList_append, String.toList_append] at chars
        exact String.toList_inj.mp (List.append_cancel_left chars)
      have successors := read positive
      congr 1
      omega

/-- The text of a date tells the day. -/
theorem formatCalendarDate_inj {day later : Int}
    (same : formatCalendarDate (civilFromDays day) = formatCalendarDate (civilFromDays later)) :
    day = later := by
  refine civilFromDays_injective ?_
  obtain ⟨_, _, _, _⟩ := civilFromDays_bounds day
  obtain ⟨_, _, _, _⟩ := civilFromDays_bounds later
  generalize civilFromDays day = date at *
  generalize civilFromDays later = other at *
  -- Months and days are numbers of two digits, which are padded to two characters.
  have small : ∀ value : Int, 1 ≤ value → value ≤ 31 → ∃ n : Fin 32, value = n.val :=
    fun value low high => ⟨⟨value.toNat, by omega⟩, by simp; omega⟩
  obtain ⟨month, month_eq⟩ := small date.month (by omega) (by omega)
  obtain ⟨month', month'_eq⟩ := small other.month (by omega) (by omega)
  obtain ⟨dayOfMonth, day_eq⟩ := small date.day (by omega) (by omega)
  obtain ⟨dayOfMonth', day'_eq⟩ := small other.day (by omega) (by omega)
  -- From the end, the day and the month have two characters each, and the rest is the year.
  have texts := congrArg String.toList same
  simp only [formatCalendarDate, month_eq, month'_eq, day_eq, day'_eq, String.toList_append] at texts
  have width : ∀ n m : Fin 32, (padStart2 n.val).toList.length = (padStart2 m.val).toList.length :=
    fun n m => (padStart2_inj n n).1.trans (padStart2_inj m m).1.symm
  obtain ⟨rest, days⟩ := List.append_inj' texts (width _ _)
  obtain ⟨rest, -⟩ := List.append_inj' rest rfl
  obtain ⟨rest, months⟩ := List.append_inj' rest (width _ _)
  obtain ⟨years, -⟩ := List.append_inj' rest rfl
  have sameDay := (padStart2_inj _ _).2 (String.toList_inj.mp days)
  have sameMonth := (padStart2_inj _ _).2 (String.toList_inj.mp months)
  have sameYear : date.year = other.year := toString_int_inj (String.toList_inj.mp years)
  cases date
  cases other
  simp_all

/-- The range of a rolling day carries the text of its date. -/
theorem rollingDayRange_label {today : CivilDate} {days index : Nat} {zone : Zone}
    {bucket : ReportingDayRange} (computed : rollingDayRange today days zone index = .ok bucket) :
    bucket.label = formatCalendarDate (addCalendarDays today (index - days + 1)) := by
  -- The label is that of the day that the range is for.
  unfold rollingDayRange at computed
  cases range : getReportingDayRange (addCalendarDays today (index - days + 1)) zone with
  | error message => simp [range, bind, Except.bind] at computed
  | ok range' =>
    simp only [range, bind, Except.bind, pure, Except.pure, Except.ok.injEq] at computed
    rw [← computed]

namespace FixedZone

variable (fixed : FixedZone)

/-- Milliseconds by which the zone's clocks are ahead of UTC. -/
def shift : Int := fixed.minutes * 60000

/-- The day number that the zone's calendar shows at an instant. -/
def dayOf (instant : Int) : Int := (instant + fixed.shift) / msPerDay

/-- The instant at which the zone's clocks begin a day. -/
def midnight (day : Int) : Int := day * msPerDay - fixed.shift

/-- The instants of a day, under its date. -/
def dayRange (day : Int) : ReportingDayRange :=
  { startInclusive := fixed.midnight day
    endExclusive := fixed.midnight (day + 1)
    label := formatCalendarDate (civilFromDays day) }

theorem midnight_le_iff {day later : Int} :
    fixed.midnight day ≤ fixed.midnight later ↔ day ≤ later := by
  simp only [midnight, msPerDay]
  omega

theorem shift_bounds : -msPerDay < fixed.shift ∧ fixed.shift < msPerDay ∧ fixed.shift % 60000 = 0 := by
  -- The minutes of a zone are bounded and counted in milliseconds.
  have low := fixed.low
  have high := fixed.high
  simp only [shift, msPerDay]
  omega

theorem dayOf_midnight (day : Int) : fixed.dayOf (fixed.midnight day) = day := by
  simp only [dayOf, midnight, msPerDay]
  omega

/-- An instant lies in the day that the calendar shows at it. -/
theorem dayOf_spec (instant : Int) : fixed.midnight (fixed.dayOf instant) ≤ instant ∧
    instant < fixed.midnight (fixed.dayOf instant + 1) := by
  simp only [dayOf, midnight, msPerDay]
  omega

theorem calendarDate_eq (instant : Int) :
    let date := civilFromDays (fixed.dayOf instant)
    calendarDateFromInstant instant fixed.zone =
      { year := shownYear date.year, month := date.month, day := date.day } := by
  simp only [calendarDateFromInstant, formatToParts, utcDate]
  rfl

/-- From the first full day on, the shown date is the date of the day. -/
theorem calendarDate_full {instant : Int} (full : firstFullDay ≤ fixed.dayOf instant) :
    calendarDateFromInstant instant fixed.zone = civilFromDays (fixed.dayOf instant) := by
  have year := firstFullDay_le_iff.mp full
  rw [fixed.calendarDate_eq, shownYear, if_neg (by omega)]

/-- At a whole minute the shown parts stand for the shown date and the time since its midnight. -/
theorem representedInstant_eq {instant : Int} (whole : (instant + fixed.shift) % 60000 = 0) :
    representedInstant (formatToParts instant fixed.zone) =
      shownDay (fixed.dayOf instant) * msPerDay + (instant + fixed.shift) % msPerDay := by
  have parts : representedInstant (formatToParts instant fixed.zone) =
      shownDay (fixed.dayOf instant) * msPerDay +
        (instant + fixed.shift) % msPerDay / 3600000 * 3600000 +
        (instant + fixed.shift) % msPerDay / 60000 % 60 * 60000 +
        (instant + fixed.shift) % msPerDay / 1000 % 60 * 1000 := rfl
  -- A time of day of whole seconds is the sum of its parts.
  have time : ∀ time : Int, time % 1000 = 0 → 0 ≤ time →
      time / 3600000 * 3600000 + time / 60000 % 60 * 60000 + time / 1000 % 60 * 1000 = time := by
    omega
  rw [parts, add_assoc, add_assoc, ← add_assoc (_ / 3600000 * 3600000), time]
  · simp only [msPerDay]
    omega
  · exact Int.emod_nonneg _ (by decide)

/-- From the midnight of a day, a round of the correction moves on by whole days. -/
theorem resolveCandidate_midnight (target day : Int) (rounds : Nat) :
    resolveCandidate (target * msPerDay) fixed.zone (rounds + 1) (fixed.midnight day) =
      if ¬IsTimeValue (fixed.midnight day) then .error "Invalid time value"
      else if target = shownDay day then .ok (fixed.midnight day)
      else resolveCandidate (target * msPerDay) fixed.zone rounds
        (fixed.midnight (day + (target - shownDay day))) := by
  -- At a midnight the time of day is zero, and only the shown day matters.
  have shown : representedInstant (formatToParts (fixed.midnight day) fixed.zone) =
      shownDay day * msPerDay := by
    rw [fixed.representedInstant_eq, fixed.dayOf_midnight]
    · simp [midnight]
    · simp only [midnight, msPerDay]
      omega
  have next : fixed.midnight day + (target * msPerDay - shownDay day * msPerDay) =
      fixed.midnight (day + (target - shownDay day)) := by
    simp only [midnight, msPerDay]
    omega
  have stays : fixed.midnight (day + (target - shownDay day)) = fixed.midnight day ↔
      target = shownDay day := by
    simp only [midnight, msPerDay]
    omega
  simp only [resolveCandidate_succ, shown, next, stays]

/-- From the UTC midnight of a date, the first round moves to a midnight of the zone. -/
theorem resolveCandidate_date {day : Int} (valid : IsTimeValue (day * msPerDay)) (rounds : Nat) :
    let shown := fixed.dayOf (day * msPerDay)
    let next := fixed.midnight (day + (shown - shownDay shown))
    resolveCandidate (day * msPerDay) fixed.zone (rounds + 1) (day * msPerDay) =
      if next = day * msPerDay then .ok (day * msPerDay)
      else resolveCandidate (day * msPerDay) fixed.zone rounds next := by
  intro shown next
  have bounds := fixed.shift_bounds
  -- The first candidate is the date at midnight of UTC, and one round moves it to the zone.
  have moved : day * msPerDay + (day * msPerDay -
      representedInstant (formatToParts (day * msPerDay) fixed.zone)) = next := by
    rw [fixed.representedInstant_eq (by simp only [msPerDay]; omega)]
    simp only [next, shown, dayOf, midnight, msPerDay]
    omega
  rw [resolveCandidate_succ, if_neg (not_not.mpr valid)]
  simp only [moved]

/-- A day whose own midnight and that of its UTC date are found by the correction. -/
structure Resolves (day : Int) : Prop where
  full : firstFullDay ≤ day
  before : fixed.shift < 0 → firstFullDay < day
  date : day * msPerDay ≤ maxTime
  midnight : fixed.midnight day ≤ maxTime

theorem isTimeValue_midnight {day : Int} (full : firstFullDay ≤ day) :
    IsTimeValue (fixed.midnight day) ↔ fixed.midnight day ≤ maxTime := by
  -- Here too the first instant of a `Date` is far away.
  have bounds := fixed.shift_bounds
  have first : firstFullDay = -683003 := by decide
  rw [isTimeValue_iff]
  simp only [midnight, msPerDay, maxTime] at *
  omega

/-- A day that resolves begins at its midnight. -/
theorem localMidnight_resolves {day : Int} (resolves : fixed.Resolves day) :
    localMidnight (civilFromDays day) fixed.zone = .ok (fixed.midnight day) := by
  obtain ⟨full, before, date, midnight⟩ := resolves
  have year := firstFullDay_le_iff.mp full
  -- A full day is a real date, and both its midnights can be formatted.
  have real := isRealCalendarDate_full full
  have valid := (fixed.isTimeValue_midnight full).mpr midnight
  have target := dateUTC_full full
  have valid₀ := (isTimeValue_date full).mpr date
  -- Once the candidate is the day's own midnight, no further round moves it.
  have settled : ∀ rounds, resolveCandidate (day * msPerDay) fixed.zone (rounds + 1)
      (fixed.midnight day) = .ok (fixed.midnight day) := by
    intro rounds
    rw [fixed.resolveCandidate_midnight, if_neg (not_not.mpr valid), if_pos (shownDay_full full).symm]
  have candidate : resolveCandidate (day * msPerDay) fixed.zone 4 (day * msPerDay) =
      .ok (fixed.midnight day) := by
    -- The first round formats the UTC midnight, in this day or in the one before it.
    have bounds := fixed.shift_bounds
    have shownFull : firstFullDay ≤ fixed.dayOf (day * msPerDay) := by
      simp only [dayOf, msPerDay] at *
      omega
    rw [fixed.resolveCandidate_date valid₀, shownDay_full shownFull, sub_self, add_zero, settled]
    split
    · rename_i same
      rw [same]
    · rfl
  -- The parts at the midnight are the date itself, at the hour zero.
  have actual : formatToParts (fixed.midnight day) fixed.zone =
      { year := (civilFromDays day).year, month := (civilFromDays day).month
        day := (civilFromDays day).day, hour := 0, minute := 0, second := 0 } := by
    have shown : fixed.midnight day + fixed.zone.offset (fixed.midnight day) = day * msPerDay :=
      sub_add_cancel _ _
    have common : ¬(civilFromDays day).year ≤ 0 := by omega
    simp [formatToParts, shown, common]
  simp [localMidnight, real, date, target, candidate, valid, actual, bind, Except.bind, pure, Except.pure]

/-- On a western zone's first full day, the correction is led to another year. -/
theorem resolveCandidate_firstFullDay (west : fixed.shift < 0) :
    resolveCandidate (firstFullDay * msPerDay) fixed.zone 4 (firstFullDay * msPerDay) =
      .ok (fixed.midnight (-5725905)) := by
  -- The UTC midnight of the first full day is shown in the west as the evening before it.
  have bounds := fixed.shift_bounds
  have first : firstFullDay = -683003 := by decide
  have valid := (isTimeValue_date le_rfl).mpr (show firstFullDay * msPerDay ≤ maxTime by decide)
  have eve : fixed.dayOf (firstFullDay * msPerDay) = -683004 := by
    simp only [dayOf, first, msPerDay] at *
    omega
  -- Each leap is one round, from a midnight to the midnight of another day.
  have leap : ∀ (day later : Int) (rounds : Nat), -10000000 ≤ day → day ≤ 0 →
      firstFullDay ≠ shownDay day → day + (firstFullDay - shownDay day) = later →
      resolveCandidate (firstFullDay * msPerDay) fixed.zone (rounds + 1) (fixed.midnight day) =
        resolveCandidate (firstFullDay * msPerDay) fixed.zone rounds (fixed.midnight later) := by
    intro day later rounds low high apart lands
    have reached : IsTimeValue (fixed.midnight day) := by
      rw [isTimeValue_iff]
      simp only [midnight, msPerDay, maxTime] at *
      omega
    rw [fixed.resolveCandidate_midnight, if_neg (not_not.mpr reached), if_neg apart, lands]
  -- The eve is formatted as a day of 1999, and each round then leaps back over as many centuries.
  have lands : firstFullDay + (-683004 - shownDay (-683004)) = -1376963 := by decide
  have moved : fixed.midnight (-1376963) ≠ firstFullDay * msPerDay := by
    simp only [midnight, first, msPerDay] at *
    omega
  rw [fixed.resolveCandidate_date valid, eve, lands, if_neg moved]
  rw [leap (-1376963) (-1998241) 2 (by decide) (by decide) (by decide) (by decide)]
  rw [leap (-1998241) (-3240795) 1 (by decide) (by decide) (by decide) (by decide)]
  rw [leap (-3240795) (-5725905) 0 (by decide) (by decide) (by decide) (by decide)]
  rfl

/-- A day that does not resolve is refused. -/
theorem localMidnight_refuses {day : Int} (common : 0 ≤ (civilFromDays day).year)
    (refused : ¬fixed.Resolves day) :
    ∃ message, localMidnight (civilFromDays day) fixed.zone = .error message := by
  have unreal : isRealCalendarDate (civilFromDays day) = false →
      ∃ message, localMidnight (civilFromDays day) fixed.zone = .error message := by
    intro unreal
    refine ⟨"date must be a valid date", ?_⟩
    simp [localMidnight, unreal, bind, Except.bind, throw, throwThe, MonadExceptOf.throw]
  -- A day is refused before the first full year, past the last date, or where the candidate leaves it.
  by_cases full : firstFullDay ≤ day
  · by_cases date : day * msPerDay ≤ maxTime
    · have real := isRealCalendarDate_full full
      have target := dateUTC_full full
      have valid := (isTimeValue_date full).mpr date
      -- The end of the range of a `Date` is reached only by adding hours, in the west.
      have west : fixed.shift < 0 := by
        by_contra east
        refine refused ⟨full, fun west => absurd west east, date, ?_⟩
        simp only [midnight] at *
        omega
      have moved : fixed.midnight day ≠ day * msPerDay := by
        simp only [midnight]
        omega
      by_cases before : firstFullDay < day
      · -- The first round moves past what a `Date` can reach.
        have far : ¬fixed.midnight day ≤ maxTime := fun near =>
          refused ⟨full, fun _ => before, date, near⟩
        have invalid := mt (fixed.isTimeValue_midnight full).mp far
        have shownFull : firstFullDay ≤ fixed.dayOf (day * msPerDay) := by
          have bounds := fixed.shift_bounds
          simp only [dayOf, msPerDay] at *
          omega
        have candidate : resolveCandidate (day * msPerDay) fixed.zone 4 (day * msPerDay) =
            .error "Invalid time value" := by
          rw [fixed.resolveCandidate_date valid, shownDay_full shownFull, sub_self, add_zero,
            if_neg moved, fixed.resolveCandidate_midnight, if_pos invalid]
        refine ⟨"Invalid time value", ?_⟩
        simp [localMidnight, real, date, target, candidate, bind, Except.bind]
      · obtain rfl : day = firstFullDay := by omega
        -- What is left is the first full day itself, whose eve is misread.
        have candidate := fixed.resolveCandidate_firstFullDay west
        have reached : IsTimeValue (fixed.midnight (-5725905)) := by
          have bounds := fixed.shift_bounds
          rw [isTimeValue_iff]
          simp only [midnight, msPerDay, maxTime] at *
          omega
        -- After four leaps the candidate is in a year long before.
        have actual : (formatToParts (fixed.midnight (-5725905)) fixed.zone).year ≠
            (civilFromDays firstFullDay).year := by
          have shown := fixed.calendarDate_eq (fixed.midnight (-5725905))
          rw [fixed.dayOf_midnight] at shown
          exact fun same => absurd ((congrArg CivilDate.year shown).symm.trans same) (by decide)
        refine ⟨"Unable to resolve reporting day in " ++ fixed.zone.name, ?_⟩
        simp [localMidnight, real, date, target, candidate, reached, actual, bind, Except.bind, throw,
          throwThe, MonadExceptOf.throw]
    · exact unreal (by simp [isRealCalendarDate_full full, date])
  · -- The year is taken for one of the twentieth century.
    refine unreal ?_
    have early := mt firstFullDay_le_iff.mpr full
    have century : fullYear (civilFromDays day).year = 1900 + (civilFromDays day).year :=
      if_pos (by omega)
    have later := makeDay_lt (show (civilFromDays day).year < 1900 + (civilFromDays day).year by omega)
      ((civilFromDays day).month - 1) (civilFromDays day).day
    have own := makeDay_civilFromDays day 0
    simp only [add_zero] at own
    -- The date that is rebuilt is another one, nineteen centuries later.
    have other : utcDate (dateUTC (civilFromDays day).year ((civilFromDays day).month - 1)
        (civilFromDays day).day) ≠ civilFromDays day := by
      rw [dateUTC, century, utcDate_mul]
      exact fun same => by
        have := civilFromDays_injective same
        omega
    simp [isRealCalendarDate, other]

theorem Resolves.between {fixed : FixedZone} {first last day : Int} (low : fixed.Resolves first)
    (high : fixed.Resolves last) (after : first ≤ day) (until_ : day ≤ last) : fixed.Resolves day := by
  obtain ⟨full, before, -, -⟩ := low
  obtain ⟨-, -, date, midnight⟩ := high
  -- Each bound holds of the days between when it holds of the ends.
  constructor
  · omega
  · omega
  · simp only [msPerDay] at *
    omega
  · simp only [FixedZone.midnight, msPerDay] at *
    omega

/-- The clock is so far from either end of the calendar that a rolling window's days resolve. -/
def Covers (now : Int) (days : Nat) : Prop :=
  fixed.Resolves (fixed.dayOf now - days + 1) ∧ fixed.Resolves (fixed.dayOf now + 1)

/-- The range of a day as the code computes it, from the day's date. -/
def computedRange (day : Int) : Except String ReportingDayRange := do
  let range ← getReportingDayRange (civilFromDays day) fixed.zone
  return { range with label := formatCalendarDate (civilFromDays day) }

theorem rollingDayRange_full {today : Int} (full : firstFullDay ≤ today) (days index : Nat) :
    rollingDayRange (civilFromDays today) days fixed.zone index =
      fixed.computedRange (today + (index - days + 1)) := by
  simp only [rollingDayRange, addCalendarDays_full full, computedRange]

theorem computedRange_resolves {day : Int} (first : fixed.Resolves day)
    (next : fixed.Resolves (day + 1)) : fixed.computedRange day = .ok (fixed.dayRange day) := by
  simp [computedRange, getReportingDayRange, addCalendarDays_full first.full,
    fixed.localMidnight_resolves first, fixed.localMidnight_resolves next, dayRange, bind, Except.bind,
    pure, Except.pure]

/-- A day whose range is computed resolves, and so does the next. -/
theorem resolves_of_computedRange {day : Int} (near : firstFullDay - 365 ≤ day)
    {range : ReportingDayRange} (computed : fixed.computedRange day = .ok range) :
    fixed.Resolves day ∧ fixed.Resolves (day + 1) := by
  -- Neither the day nor the one after it is before the year zero.
  have common : ∀ later, firstFullDay - 365 ≤ later → 0 ≤ (civilFromDays later).year := by
    intro later near
    have zero : daysFromCivil { year := 0, month := 1, day := 1 } ≤ firstFullDay - 365 := by decide
    rw [← not_lt, civilFromDays_year_lt]
    omega
  -- A range computes both its ends, so a day that is refused refuses the range.
  have first : fixed.Resolves day := by
    by_contra refused
    obtain ⟨message, failed⟩ := fixed.localMidnight_refuses (common day near) refused
    simp [computedRange, getReportingDayRange, failed, bind, Except.bind] at computed
  refine ⟨first, ?_⟩
  by_contra refused
  obtain ⟨message, failed⟩ := fixed.localMidnight_refuses (common (day + 1) (by omega)) refused
  simp [computedRange, getReportingDayRange, fixed.localMidnight_resolves first,
    addCalendarDays_full first.full, failed, bind, Except.bind] at computed

/-- A covered window is that of the reporting days up to today. -/
theorem getRollingDayRanges_covers {now : Int} {days : Nat} (some_ : days ≠ 0)
    (covers : fixed.Covers now days) :
    getRollingDayRanges now days fixed.zone = .ok ((List.range days).map fun index : Nat =>
      fixed.dayRange (fixed.dayOf now - days + 1 + (index : Int))) := by
  obtain ⟨low, high⟩ := covers
  -- The window reaches back from the day of the clock, which is thereby a full one.
  have full : firstFullDay ≤ fixed.dayOf now := by
    have := low.full
    omega
  have today := fixed.calendarDate_full full
  -- Every day of the window lies between its first and its last, so all of them resolve.
  have each : ∀ index ∈ List.range days,
      rollingDayRange (civilFromDays (fixed.dayOf now)) days fixed.zone index =
        .ok (fixed.dayRange (fixed.dayOf now - days + 1 + (index : Int))) := by
    intro index inside
    rw [List.mem_range] at inside
    have shift : (fixed.dayOf now : Int) + (index - days + 1) = fixed.dayOf now - days + 1 + index := by
      ring
    rw [fixed.rollingDayRange_full full, shift]
    refine fixed.computedRange_resolves (low.between high ?_ ?_) (low.between high ?_ ?_) <;> omega
  simp [getRollingDayRanges, some_, today, mapM_eq_ok each]

/-- A window that carries the dates of the reporting days up to today is covered. -/
theorem covers_of_labels {now : Int} {days : Nat} (some_ : days ≠ 0) (short : days ≤ 365)
    {buckets : List ReportingDayRange}
    (computed : getRollingDayRanges now days fixed.zone = .ok buckets)
    (labels : buckets.map ReportingDayRange.label = (List.range days).map fun index : Nat =>
      formatCalendarDate (civilFromDays (fixed.dayOf now - days + 1 + (index : Int)))) :
    fixed.Covers now days := by
  have each : ∀ index, index < days → ∃ bucket,
      rollingDayRange (calendarDateFromInstant now fixed.zone) days fixed.zone index = .ok bucket ∧
        bucket.label = formatCalendarDate (civilFromDays (fixed.dayOf now - days + 1 + (index : Int))) := by
    -- The map has computed each bucket, and the bucket carries the label that is asked for.
    intro index inside
    have done : (List.range days).mapM
        (rollingDayRange (calendarDateFromInstant now fixed.zone) days fixed.zone) = .ok buckets := by
      simpa [getRollingDayRanges, some_] using computed
    obtain ⟨bucket, located, range⟩ := getElem?_of_mapM_ok done (List.getElem?_range inside)
    refine ⟨bucket, range, ?_⟩
    have label := congrArg (fun labels => labels[index]?) labels
    simpa [located, inside] using label
  have full : firstFullDay ≤ fixed.dayOf now := by
    -- Before the first full day the last label is another year's.
    obtain ⟨bucket, range, label⟩ := each (days - 1) (by omega)
    have last : (((days - 1 : Nat) : Int) - days + 1) = 0 := by omega
    have date : addCalendarDays (calendarDateFromInstant now fixed.zone) 0 =
        civilFromDays (shownDay (fixed.dayOf now)) := by
      rw [addCalendarDays, add_zero, dateUTC, utcDate_mul]
      rfl
    have own := rollingDayRange_label range
    rw [last, date, label, show fixed.dayOf now - days + 1 + ((days - 1 : Nat) : Int) = fixed.dayOf now by
      omega] at own
    exact shownDay_eq_iff.mp (formatCalendarDate_inj own).symm
  have today := fixed.calendarDate_full full
  -- Each bucket that was computed needs both its midnights.
  have resolves : ∀ index : Nat, index < days →
      fixed.Resolves (fixed.dayOf now - days + 1 + (index : Int)) ∧
        fixed.Resolves (fixed.dayOf now - days + 1 + (index : Int) + 1) := by
    intro index inside
    obtain ⟨bucket, range, -⟩ := each index inside
    have shift : (fixed.dayOf now : Int) + (index - days + 1) = fixed.dayOf now - days + 1 + index := by
      ring
    rw [today, fixed.rollingDayRange_full full, shift] at range
    exact fixed.resolves_of_computedRange (by omega) range
  constructor
  · simpa using (resolves 0 (by omega)).1
  · have last := (resolves (days - 1) (by omega)).2
    have shift : fixed.dayOf now - days + 1 + ((days - 1 : Nat) : Int) + 1 = fixed.dayOf now + 1 := by
      omega
    rwa [shift] at last

end FixedZone

end PocketMint
