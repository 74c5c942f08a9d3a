import PocketMint.Services.ReminderLaws

/-! The rows that an evaluation handles: what it finds of them is exactly what is due on its day. -/

namespace PocketMint

open Js Calendar ReminderEngine

namespace FixedZone

section Templates

variable {fixed : FixedZone} {template : RecurringTransactionTemplate} {today lead : Int} {now : Instant}

/-- The texts of a template say of the occurrence that a day looks at what the calendar does. -/
structure Legible (fixed : FixedZone) (template : RecurringTransactionTemplate) (today : Int) : Prop where
  day : FourDigit today
  start : fixed.zone.Dates template.startDate
  occurrence : FourDigit (fixed.nextOccurrence template today)
  same : fixed.shownOccurrence template today = fixed.nextOccurrence template today
  runs : ¬fixed.EndsBefore template (dayText (fixed.nextOccurrence template today))

/--
What an evaluation of a day needs of a template, so as to find the reminder that the calendar does.

An occurrence that is due must be legible. Where none is, a start that is read back must not lead to a
reminder before the text of the end, and neither must the text of a start that is not read back, which
must moreover come after the day's.
-/
structure Handled (fixed : FixedZone) (template : RecurringTransactionTemplate) (today : Int) : Prop where
  due : (fixed.dueKey template today).isSome → fixed.Legible template today
  read : fixed.dueKey template today = none → FourDigit today → fixed.zone.Dates template.startDate →
    ∀ lead ∈ template.reminderOffsetDays, fixed.shownOccurrence template today - lead = today →
      fixed.EndsBefore template (dayText (fixed.shownOccurrence template today))
  unread : FourDigit today → ¬fixed.zone.Dates template.startDate →
    ∀ lead ∈ template.reminderOffsetDays,
      dayText today < formatReportingDate template.startDate fixed.zone ∧
        (shownDay (fixed.dayOf template.startDate) - lead = today →
          fixed.EndsBefore template (formatReportingDate template.startDate fixed.zone))

/-- The reminder that is due leads up to the next occurrence by the template's lead. -/
theorem lead_of_dueKey {key : Id × Instant × Int} (due : fixed.dueKey template today = some key) :
    template.reminderOffsetDays = some key.2.2 ∧ fixed.nextOccurrence template today - key.2.2 = today ∧
      key = (template.id, fixed.midnight (fixed.nextOccurrence template today), key.2.2) := by
  -- A key is due if there is a lead, and if the occurrence is that far ahead of the day.
  obtain ⟨lead, offset, conditional⟩ := Option.bind_eq_some_iff.mp due
  split at conditional
  · rename_i both
    cases conditional
    exact ⟨offset, both.1, rfl⟩
  · cases conditional

theorem id_of_dueKey {key : Id × Instant × Int} (due : key ∈ fixed.dueKey template today) :
    key.1 = template.id :=
  congrArg Prod.fst (lead_of_dueKey (Option.mem_def.mp due)).2.2

/-- A template whose start is read back is handled when the texts lead to what is due, if anything is. -/
theorem handled_read (offset : template.reminderOffsetDays = some lead) (current : FourDigit today)
    (dates : fixed.zone.Dates template.startDate) :
    fixed.Handled template today ↔
      if fixed.shownOccurrence template today - lead = today ∧
          ¬fixed.EndsBefore template (dayText (fixed.shownOccurrence template today)) then
        FourDigit (fixed.shownOccurrence template today) ∧ fixed.dueKey template today =
          some (template.id, fixed.midnight (fixed.shownOccurrence template today), lead)
      else fixed.dueKey template today = none := by
  -- What is due is as far ahead as what the texts lead to, so that the two are one day.
  constructor
  -- What the texts lead to is due, or nothing is.
  · intro handled
    cases key : fixed.dueKey template today with
    | none => rw [if_neg fun both => both.2 (handled.read key current dates lead offset both.1)]
    | some found =>
      obtain ⟨given, leads, shape⟩ := lead_of_dueKey key
      obtain rfl : lead = found.2.2 := Option.some.inj (offset.symm.trans given)
      obtain ⟨-, -, written, same, runs⟩ := handled.due (by simp [key])
      rw [same, if_pos ⟨leads, runs⟩]
      exact ⟨written, congrArg some shape⟩
  · intro texts
    split at texts
    -- The occurrence that the texts lead to is as far ahead of the day, so it is the next one.
    · rename_i both
      obtain ⟨written, key⟩ := texts
      obtain ⟨-, leads, -⟩ := lead_of_dueKey key
      have same : fixed.shownOccurrence template today = fixed.nextOccurrence template today := by
        have ahead := both.1
        simp only at leads
        omega
      rw [same] at both written
      exact ⟨fun _ => ⟨current, dates, written, same, both.2⟩, by simp [key], fun _ unread =>
        absurd dates unread⟩
    -- The texts lead to nothing, so nothing may be due.
    · rename_i apart
      refine ⟨by simp [texts], ?_, fun _ unread => absurd dates unread⟩
      intro _ _ _ other given leads
      obtain rfl : lead = other := Option.some.inj (offset.symm.trans given)
      exact not_not.mp fun runs => apart ⟨leads, runs⟩

/-- A template whose start is not read back is handled when nothing is due and its start's text says so. -/
theorem handled_unread (offset : template.reminderOffsetDays = some lead) (current : FourDigit today)
    (unread : ¬fixed.zone.Dates template.startDate) :
    fixed.Handled template today ↔
      dayText today < formatReportingDate template.startDate fixed.zone ∧
        (shownDay (fixed.dayOf template.startDate) - lead = today →
          fixed.EndsBefore template (formatReportingDate template.startDate fixed.zone)) ∧
        fixed.dueKey template today = none := by
  constructor
  -- A start that is not read back must be later as a text, and no reminder may fall on the day.
  · intro handled
    obtain ⟨later, stops⟩ := handled.unread current unread lead offset
    refine ⟨later, stops, ?_⟩
    -- An occurrence that is due has a start that is read back.
    cases key : fixed.dueKey template today with
    | none => rfl
    | some found => exact absurd (handled.due (by simp [key])).start unread
  · rintro ⟨later, stops, idle⟩
    refine ⟨by simp [idle], fun _ _ dates => absurd dates unread, ?_⟩
    intro _ _ other given
    obtain rfl : lead = other := Option.some.inj (offset.symm.trans given)
    exact ⟨later, stops⟩

/-- On a day whose year is padded, and with no lead, a template is handled when nothing is due. -/
theorem handled_idle (idle : FourDigit today → template.reminderOffsetDays = none) :
    fixed.Handled template today ↔ fixed.dueKey template today = none := by
  -- Without a lead, or on a day that is no padded date, nothing may be due.
  constructor
  · intro handled
    cases key : fixed.dueKey template today with
    | none => rfl
    | some found =>
      obtain ⟨given, -, -⟩ := lead_of_dueKey key
      rw [idle (handled.due (by simp [key])).day] at given
      cases given
  -- Then the row is handled, because there is nothing to answer.
  · intro none
    refine ⟨by simp [none], ?_, ?_⟩
    · intro _ current _ lead given
      rw [idle current] at given
      cases given
    · intro current _ lead given
      rw [idle current] at given
      cases given

/-- The engine finds the reminder that a template is due on a day, exactly when the template is handled. -/
theorem templateReminder_due_iff (padded : Padded today) :
    (∃ found, templateReminder fixed.zone now (paddedText today) template = .ok found ∧
      found.map (templateKey template) = fixed.dueKey template today) ↔ fixed.Handled template today := by
  -- The cases are the ones of the engine: the day, the lead and the start.
  by_cases current : FourDigit today
  · rw [paddedText_eq_dayText current]
    cases offset : template.reminderOffsetDays with
    | none =>
      rw [handled_idle fun _ => offset]
      simp [templateReminder, offset, eq_comm]
    | some lead =>
      -- A start that is read back leads to an occurrence.
      by_cases dates : fixed.zone.Dates template.startDate
      · simp only [templateReminder_read offset current dates, handled_read offset current dates]
        split
        · simp [templateKey, eq_comm]
        · simp [eq_comm]
      -- Any other start is compared as a text alone.
      · simp only [templateReminder_unread offset current dates, handled_unread offset current dates]
        constructor
        · rintro ⟨found, ⟨later, stops, rfl⟩, idle⟩
          exact ⟨later, stops, idle.symm⟩
        · rintro ⟨later, stops, idle⟩
          exact ⟨none, ⟨later, stops, rfl⟩, idle.symm⟩
  -- A day before the year 1000 reminds of nothing.
  · rw [templateReminder_early padded current, handled_idle fun day => absurd day current]
    simp [eq_comm]

/-- Dates that are shown with years of four digits are handled, up to November 9999. -/
theorem Dated.handled (dated : fixed.Dated template) (current : FourDigit today)
    (near : monthOf today + 1 < 12 * 10000) : fixed.Handled template today := by
  -- The start is read back, and the next occurrence has a year of four digits.
  obtain ⟨starts, ends⟩ := dated
  obtain ⟨shown, dates⟩ := fixed.dates_dayOf starts
  have same : fixed.shownOccurrence template today = fixed.nextOccurrence template today := by
    rw [shownOccurrence, shown, nextOccurrence]
  have written : FourDigit (fixed.nextOccurrence template today) := fourDigit_nextMonthly starts current near
  -- The text of the end compares as its day.
  have ended : fixed.EndsBefore template (dayText (fixed.nextOccurrence template today)) ↔
      ¬∀ last ∈ template.endDate, fixed.nextOccurrence template today ≤ fixed.dayOf last := by
    cases finish : template.endDate with
    | none => simp [EndsBefore, finish]
    | some last =>
      have fourDigit := ends last finish
      simp only [EndsBefore, finish, Option.mem_some_iff, exists_eq_left', forall_eq',
        fixed.formatReportingDate_dayText fourDigit, dayText_lt_iff fourDigit written, not_le]
  refine ⟨?_, ?_, fun _ unread => absurd dates unread⟩
  -- What is due ends no earlier than it occurs.
  · intro due
    refine ⟨current, dates, written, same, fun stops => ended.mp stops ?_⟩
    obtain ⟨key, found⟩ := Option.isSome_iff_exists.mp due
    obtain ⟨lead, -, conditional⟩ := Option.bind_eq_some_iff.mp found
    split at conditional
    · rename_i both
      exact both.2
    · cases conditional
  -- What is not due, though it leads to the day, has ended before.
  · intro idle _ _ lead offset leads
    rw [same] at leads ⊢
    refine ended.mpr fun runs => ?_
    rw [dueKey, Option.mem_def.mp offset, Option.bind_some, if_pos ⟨leads, runs⟩] at idle
    cases idle

end Templates

variable (fixed : FixedZone)

theorem id_of_dueBill {fixed : FixedZone} {installment : Installment} {today : Int} {key : Id × Instant × Int}
    (due : key ∈ fixed.dueBill installment today) : key.1 = installment.id := by
  rw [Option.mem_def, dueBill] at due
  split at due
  · cases due
    rfl
  · cases due

/--
What an evaluation of a day needs of an instalment, so as to find the reminder that the calendar does.

A due date that is three days ahead must be written with four digits for its year, as the day must be;
and no other may be taken for one by `Date.UTC`.
-/
structure HandledBill (installment : Installment) (today : Int) : Prop where
  due : fixed.dayOf installment.nextDueDate - installmentReminderOffsetDays = today →
    FourDigit today ∧ FourDigit (fixed.dayOf installment.nextDueDate)
  idle : FourDigit today →
    shownDay (fixed.dayOf installment.nextDueDate) - installmentReminderOffsetDays = today →
      fixed.dayOf installment.nextDueDate - installmentReminderOffsetDays = today

/--
The engine finds the reminder that an instalment is due on a day, exactly when the instalment is handled.
-/
theorem installmentReminder_due_iff {installment : Installment} {today : Int} (padded : Padded today)
    (now : Instant) :
    (∃ found, installmentReminder fixed.zone now (paddedText today) installment = .ok found ∧
      found.map (installmentKey installment) = fixed.dueBill installment today) ↔
        fixed.HandledBill installment today := by
  -- The text of the due date is counted back to the text of the day, or to another one.
  have due := dueReminder_paddedText
    (fixed.subtractDays_shown installment.nextDueDate installmentReminderOffsetDays) padded
  unfold installmentReminder dueBill
  by_cases found : FourDigit today ∧
      shownDay (fixed.dayOf installment.nextDueDate) - installmentReminderOffsetDays = today
  · obtain ⟨current, counted⟩ := found
    rw [if_pos ⟨current, counted⟩] at due
    have reminded := fixed.parseBusinessDate_dayText current now
    simp only [due, reminded, bind, Except.bind, pure, Except.pure]
    -- The engine finds a reminder, so one must be due, and its date must be read back.
    by_cases leads : fixed.dayOf installment.nextDueDate - installmentReminderOffsetDays = today
    · rw [if_pos leads]
      have full : firstFullDay ≤ fixed.dayOf installment.nextDueDate := by
        have day := current.full
        rw [installmentReminderOffsetDays] at leads
        omega
      have shown : formatReportingDate installment.nextDueDate fixed.zone =
          dayText (fixed.dayOf installment.nextDueDate) := fixed.formatReportingDate_full full
      rw [shown]
      by_cases written : FourDigit (fixed.dayOf installment.nextDueDate)
      · have handled : fixed.HandledBill installment today :=
          ⟨fun _ => ⟨current, written⟩, fun _ _ => leads⟩
        simp [fixed.parseBusinessDate_dayText written, installmentKey, handled]
      · obtain ⟨message, refused⟩ := parseBusinessDate_wide fixed.zone now written
        have unhandled : ¬fixed.HandledBill installment today := fun handled => written (handled.due leads).2
        simp [refused, unhandled]
    · rw [if_neg leads]
      have unhandled : ¬fixed.HandledBill installment today :=
        fun handled => leads (handled.idle current counted)
      cases parseBusinessDate (some (formatReportingDate installment.nextDueDate fixed.zone))
          fixed.zone now with
      | error message => simp [unhandled]
      | ok start => simp [unhandled]
  · rw [if_neg found] at due
    simp only [due]
    -- The engine finds nothing, so nothing may be due.
    by_cases leads : fixed.dayOf installment.nextDueDate - installmentReminderOffsetDays = today
    · have unhandled : ¬fixed.HandledBill installment today := by
        intro handled
        obtain ⟨current, written⟩ := handled.due leads
        rw [shownDay_full written.full] at found
        exact found ⟨current, leads⟩
      simp [leads, unhandled]
    · have handled : fixed.HandledBill installment today :=
        ⟨fun ahead => absurd ahead leads, fun current counted => absurd ⟨current, counted⟩ found⟩
      simp [leads, handled]

end FixedZone

end PocketMint
