import PocketMint.Calendar.Clock
import PocketMint.Domain.ReportingMonths

/-! The beginning of a reporting day in a zone whose clocks are changed: what the correction finds. -/

namespace PocketMint

open Js Calendar Clock

/--
A zone with whole minutes, at most fifteen hours from UTC.

Its clocks are changed by two hours at most, and once in any 72 hours at most.
-/
structure Zone.Lawful (zone : Zone) : Prop where
  minutes : ∀ i, zone.offset i % 60000 = 0
  steady : Steady zone.offset (15 * 3600000) (2 * 3600000) (72 * 3600000)

/-- A day of the years 1000 to 9998, or the day after the last of them. -/
def Midnightly (day : Int) : Prop := monthOpens (12 * 1000) ≤ day ∧ day ≤ monthOpens (12 * 9999)

namespace Zone.Lawful

variable {zone : Zone} (lawful : zone.Lawful) {day candidate : Int}

include lawful

/-- The zone with the offset of one instant at all times. -/
theorem fixedAt (instant : Int) : ∃ fixed : FixedZone, fixed.shift = zone.offset instant ∧
    formatToParts instant zone = formatToParts instant fixed.zone := by
  -- A zone with whole minutes shows at one instant what a zone of that one offset shows.
  have minutes := lawful.minutes instant
  have low := lawful.steady.low instant
  have high := lawful.steady.high instant
  have whole : zone.offset instant / 60000 * 60000 = zone.offset instant := by omega
  refine ⟨⟨zone.name, zone.offset instant / 60000, by omega, by omega⟩, whole, ?_⟩
  simp only [formatToParts, FixedZone.zone, whole]

/-- A day's neighbours are full days, whose midnights a `Date` can represent. -/
theorem near_midnight (midnightly : Midnightly day)
    (near : day * msPerDay - 15 * 3600000 ≤ candidate ∧ candidate ≤ day * msPerDay + 15 * 3600000) :
    IsTimeValue candidate ∧ firstFullDay ≤ (candidate + zone.offset candidate) / msPerDay := by
  obtain ⟨first, last⟩ := midnightly
  have low := lawful.steady.low candidate
  have high := lawful.steady.high candidate
  -- The days in question lie far from both ends of what a date can reach.
  have earliest : firstFullDay + 2 ≤ monthOpens (12 * 1000) := by decide
  have value : -683003 = firstFullDay := by decide
  have latest : (monthOpens (12 * 9999) + 2) * msPerDay ≤ maxTime := by decide
  rw [isTimeValue_iff]
  simp only [msPerDay, maxTime] at *
  omega

/-- At a whole minute near a midnight, the shown parts stand for what the clock shows. -/
theorem represented (midnightly : Midnightly day)
    (near : day * msPerDay - 15 * 3600000 ≤ candidate ∧ candidate ≤ day * msPerDay + 15 * 3600000)
    (whole : candidate % 60000 = 0) :
    representedInstant (formatToParts candidate zone) = candidate + zone.offset candidate := by
  -- The parts are those of the fixed zone, which put the shown time together again.
  obtain ⟨fixed, shift, parts⟩ := lawful.fixedAt candidate
  have full := (lawful.near_midnight midnightly near).2
  have minutes := lawful.minutes candidate
  rw [parts, fixed.representedInstant_eq (by rw [shift]; omega), FixedZone.dayOf, shift,
    shownDay_full full]
  exact Int.ediv_mul_add_emod _ _

/-- The rounds of the correction take an instant to where the clock would show the target. -/
theorem resolveCandidate_eq (midnightly : Midnightly day)
    (near : day * msPerDay - 15 * 3600000 ≤ candidate ∧ candidate ≤ day * msPerDay + 15 * 3600000)
    (whole : candidate % 60000 = 0) (rounds : Nat) :
    resolveCandidate (day * msPerDay) zone rounds candidate =
      .ok ((correct zone.offset (day * msPerDay))^[rounds] candidate) := by
  -- Each round corrects the candidate once, and it stays near the midnight.
  induction rounds generalizing candidate with
  | zero => rfl
  | succ rounds ih =>
    have valid := (lawful.near_midnight midnightly near).1
    have moved : candidate + (day * msPerDay - (candidate + zone.offset candidate)) =
        correct zone.offset (day * msPerDay) candidate := by
      rw [correct]
      omega
    rw [resolveCandidate_succ, if_neg (not_not.mpr valid), lawful.represented midnightly near whole, moved]
    show (if _ = _ then _ else _) = _
    split
    · -- A candidate that stays where it is stays there in the rounds that are left.
      rename_i same
      rw [Function.iterate_fixed same]
    · rw [Function.iterate_succ_apply]
      -- One round moves the candidate by less than the bounds allow.
      have low := lawful.steady.low candidate
      have high := lawful.steady.high candidate
      have minutes := lawful.minutes candidate
      apply ih
      · rw [correct]
        omega
      · simp only [correct, msPerDay]
        omega

/-- The clock shows a day within its first hour exactly when the shown parts are the day's at hour zero. -/
theorem shown_iff (midnightly : Midnightly day)
    (near : day * msPerDay - 15 * 3600000 ≤ candidate ∧ candidate ≤ day * msPerDay + 15 * 3600000) :
    let actual := formatToParts candidate zone
    (actual.year ≠ (civilFromDays day).year ∨ actual.month ≠ (civilFromDays day).month ∨
        actual.day ≠ (civilFromDays day).day ∨ actual.hour ≠ 0) ↔
      ¬(day * msPerDay ≤ candidate + zone.offset candidate ∧
        candidate + zone.offset candidate < day * msPerDay + 3600000) := by
  intro actual
  have full := (lawful.near_midnight midnightly near).2
  -- The years in question are common ones, shown without a change of era.
  have common : ¬(utcDate (candidate + zone.offset candidate)).year ≤ 0 := by
    have year := firstFullDay_le_iff.mp full
    rw [utcDate]
    omega
  have year : actual.year = (civilFromDays ((candidate + zone.offset candidate) / msPerDay)).year :=
    if_neg common
  have month : actual.month = (civilFromDays ((candidate + zone.offset candidate) / msPerDay)).month := rfl
  have date : actual.day = (civilFromDays ((candidate + zone.offset candidate) / msPerDay)).day := rfl
  have hour : actual.hour = (candidate + zone.offset candidate) % msPerDay / 3600000 := rfl
  clear_value actual
  -- Year, month and day tell the day, and the hour tells how far it has gone.
  rw [year, month, date, hour]
  generalize candidate + zone.offset candidate = shown
  -- The date tells the day, and the hour is zero when less than an hour has passed.
  have dated : shown / msPerDay = day ↔ (civilFromDays (shown / msPerDay)).year = (civilFromDays day).year ∧
      (civilFromDays (shown / msPerDay)).month = (civilFromDays day).month ∧
      (civilFromDays (shown / msPerDay)).day = (civilFromDays day).day := by
    rw [← CivilDate.mk.injEq]
    exact civilFromDays_injective.eq_iff.symm
  have within : (day * msPerDay ≤ shown ∧ shown < day * msPerDay + 3600000) ↔
      shown / msPerDay = day ∧ shown % msPerDay / 3600000 = 0 := by
    simp only [msPerDay]
    omega
  rw [within, dated]
  simp only [not_and_or, or_assoc, ne_eq]

/-- The beginning of a day is what four rounds find, when the clock shows the day's first hour there. -/
theorem localMidnight_eq (midnightly : Midnightly day) :
    let found := (correct zone.offset (day * msPerDay))^[4] (day * msPerDay)
    localMidnight (civilFromDays day) zone =
      if day * msPerDay ≤ found + zone.offset found ∧
          found + zone.offset found < day * msPerDay + 3600000 then .ok found
      else .error ("Unable to resolve reporting day in " ++ zone.name) := by
  intro found
  have full : firstFullDay ≤ day := by
    have earliest : firstFullDay ≤ monthOpens (12 * 1000) := by decide
    exact earliest.trans midnightly.1
  have near : day * msPerDay - 15 * 3600000 ≤ day * msPerDay ∧
      day * msPerDay ≤ day * msPerDay + 15 * 3600000 := by omega
  have date := (isTimeValue_date full).mp (lawful.near_midnight midnightly near).1
  have target := dateUTC_full full
  have real := isRealCalendarDate_full full
  have candidate : resolveCandidate (day * msPerDay) zone 4 (day * msPerDay) = .ok found :=
    lawful.resolveCandidate_eq midnightly near (by simp only [msPerDay]; omega) 4
  -- What is found is where the clock would show the target with the offset of the round before.
  have found_near : day * msPerDay - 15 * 3600000 ≤ found ∧ found ≤ day * msPerDay + 15 * 3600000 := by
    have last : found = day * msPerDay - zone.offset ((correct zone.offset (day * msPerDay))^[3]
        (day * msPerDay)) := Function.iterate_succ_apply' _ 3 _
    have low := lawful.steady.low ((correct zone.offset (day * msPerDay))^[3] (day * msPerDay))
    have high := lawful.steady.high ((correct zone.offset (day * msPerDay))^[3] (day * msPerDay))
    omega
  have valid := (lawful.near_midnight midnightly found_near).1
  have shown := lawful.shown_iff midnightly found_near
  clear_value found
  -- The result is checked against the day, and refused where the clock shows another hour or date.
  by_cases within : day * msPerDay ≤ found + zone.offset found ∧
      found + zone.offset found < day * msPerDay + 3600000
  · have passes := mt shown.mp (not_not.mpr within)
    rw [if_pos within]
    simp [localMidnight, real, date, target, candidate, valid, passes, bind, Except.bind, pure, Except.pure]
  · have fails := shown.mpr within
    rw [if_neg within]
    simp [localMidnight, real, date, target, candidate, valid, fails, bind, Except.bind, throw, throwThe,
      MonadExceptOf.throw]

end Zone.Lawful

end PocketMint
