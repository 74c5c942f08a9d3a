import PocketMint.Invariant.Reminded
import PocketMint.Proofs.Payments
import PocketMint.Proofs.Reminders
import PocketMint.Relational.Selection
import PocketMint.Services.ReminderAnswers

/-! An evaluation answers with the reminders that are due, when its rows' dates are written alike. -/

namespace PocketMint

open Calendar Prog RecurringTransactionService

/-- Every reminder that a template has set is one of the lead times. -/
def Store.Leads (s : Store) : Prop :=
  ∀ template ∈ s.templates.rows, ∀ lead ∈ template.reminderOffsetDays, lead ∈ validReminderOffsetDays

/-- A resolved reminder has a lead time that is allowed, or none. -/
theorem TemplateChecked.lead {amountMode : RecurringAmountMode} {amount : Option Decimal}
    {startDate : Instant} {endDate : Option Instant} {reminder : Bool × Option Int}
    (checked : TemplateChecked amountMode amount startDate endDate reminder) :
    ∀ lead ∈ reminder.2, lead ∈ validReminderOffsetDays := by
  intro lead given
  -- A lead is given only where reminders are enabled, and then it was checked.
  cases enabled : reminder.1 with
  | false =>
    rw [checked.disabled enabled] at given
    cases given
  | true =>
    -- Then it is one of the allowed numbers of days.
    obtain ⟨days, allowed, same⟩ := checked.enabled enabled
    obtain rfl : days = lead := Option.some.inj (same.symm.trans given)
    exact allowed

/-- Only the recurring transaction service writes templates, and it checks their lead times. -/
theorem Commit.leads {between : Store → Store → Prop} {zone : Zone} {call : Call} {seen : List Store}
    {s s' : Store} (commit : Commit between zone call seen s s') (leads : s.Leads) : s'.Leads := by
  intro template among
  -- Templates are created and edited with checked leads, and otherwise kept or removed.
  cases commit with
  -- A template that remains was there before.
  | walletDeleted asked made =>
    rw [made.after] at among
    exact leads template (List.mem_of_mem_filter among)
  | templateCreated asked made =>
    rw [made.after] at among
    -- A new template has the lead that was checked.
    obtain old | rfl := (Table.mem_insert made.inserted).mp among
    · exact leads template old
    · rw [made.shape]
      exact made.checked.lead
  | templateEdited asked made =>
    rw [made.after] at among
    -- An edited one has it as well.
    obtain old | ⟨before, -, rfl⟩ := Table.mem_update (fun _ => by rfl) among
    · exact leads template old
    · exact made.checked.lead
  | installmentDeleted asked made =>
    rw [made.after] at among
    split at among
    · exact leads template among
    · exact leads template among
  | _ asked made =>
    rw [made.after] at among
    exact leads template among

theorem Reachable.leads {zone : Zone} {s : Store} (reached : Reachable zone s) : s.Leads := by
  let holds (s : Store) : Prop := s.Numbered ∧ s.Leads
  have numbers : ∀ s, holds s → s.Numbered := fun _ held => held.1
  have empty : holds .empty := ⟨.empty, fun _ among => by simp [Store.empty] at among⟩
  exact (reached.invariant numbers empty fun _ _ _ _ held commit =>
    ⟨commit.numbered held.1, commit.leads held.2⟩).2

/-- A reminder of a reachable store has one source. -/
theorem Reachable.oneSource {zone : Zone} {s : Store} (reached : Reachable zone s) : s.OneSource :=
  reached.reminded.source

/-- The templates that an evaluation reads have distinct numbers. -/
theorem Store.nodup_remindedTemplates (s : Store) (userId : Option Id) :
    ((s.remindedTemplates userId).map fun template => template.id).Nodup :=
  s.templates.unique.sublist (List.filter_sublist.map _)

/-- And so do the instalments. -/
theorem Store.nodup_remindedInstallments (s : Store) (userId : Option Id) :
    ((s.remindedInstallments userId).map fun installment => installment.id).Nodup :=
  s.installments.unique.sublist (List.filter_sublist.map _)

open ReminderEngine

/-- An evaluation that answers has computed with the dates of every row that it reads. -/
theorem computed_of_evaluateReminders {zone : Zone} {date : String} {userId : Option Id} {now : Instant}
    {s s' : Store} {events : List RecurringReminderEvent}
    (ran : (evaluateReminders zone now date userId).run s = (.ok events, s')) :
    (∀ template ∈ s.remindedTemplates userId, ∃ found, templateReminder zone now date template = .ok found) ∧
      ∀ installment ∈ s.remindedInstallments userId,
        ∃ found, installmentReminder zone now date installment = .ok found := by
  -- A row that is refused would have ended the evaluation.
  have answered : ∀ failure, ((evaluateReminders zone now date userId).run s).1 ≠ .error failure := by
    intro failure failed
    rw [ran] at failed
    cases failed
  constructor
  -- A template that is refused throws in the first loop.
  · intro template among
    cases computed : templateReminder zone now date template with
    | ok found => exact ⟨found, rfl⟩
    | error message =>
      obtain ⟨failure, failed⟩ :=
        evaluateReminders_throws_of (.inl ⟨template, among, message, computed⟩)
      exact absurd failed (answered failure)
  -- An instalment that is refused throws in the second one.
  · intro installment among
    cases computed : installmentReminder zone now date installment with
    | ok found => exact ⟨found, rfl⟩
    | error message =>
      obtain ⟨failure, failed⟩ :=
        evaluateReminders_throws_of (.inr ⟨installment, among, message, computed⟩)
      exact absurd failed (answered failure)

namespace FixedZone

variable {fixed : FixedZone} {s : Store} {userId : Option Id} {today : Int} {now : Instant}

/-- An evaluation answers with exactly the reminders that are due, when every row that it reads is handled. -/
theorem evaluateReminders_handled (fresh : s.FreshEvents) (sources : s.OneSource) (padded : Padded today) :
    (∃ events s', (evaluateReminders fixed.zone now (paddedText today) userId).run s = (.ok events, s') ∧
      events.map reminderKeys = sourceKeys
        ((s.remindedTemplates userId).filterMap fun template => fixed.dueKey template today)
        ((s.remindedInstallments userId).filterMap fun installment => fixed.dueBill installment today)) ↔
    (∀ template ∈ s.remindedTemplates userId, fixed.Handled template today) ∧
      ∀ installment ∈ s.remindedInstallments userId, fixed.HandledBill installment today := by
  constructor
  · rintro ⟨events, s', ran, keys⟩
    -- Every row was computed with, so the answer is known from what was found.
    obtain ⟨templates, installments⟩ := computed_of_evaluateReminders ran
    choose! planned templates using templates
    choose! billed installments using installments
    obtain ⟨events', s'', ran', keys'⟩ := evaluateReminders_answers fresh sources templates installments
    obtain rfl : events' = events := Except.ok.inj (congrArg Prod.fst (ran'.symm.trans ran))
    -- The keys that were found are those that are due, and so each row's is.
    obtain ⟨first, second⟩ := sourceKeys_inj.mp (keys'.symm.trans keys)
    have each := (filterMap_eq_iff (s.nodup_remindedTemplates userId)
      (fun _ _ found => id_of_templateKey found) fun _ _ due => id_of_dueKey due).mp first
    have bills := (filterMap_eq_iff (s.nodup_remindedInstallments userId)
      (fun _ _ found => id_of_installmentKey found) fun _ _ due => id_of_dueBill due).mp second
    -- A row for which both agree is one that is handled.
    exact ⟨fun template among => (templateReminder_due_iff padded).mp
        ⟨planned template, templates template among, each template among⟩,
      fun installment among => (installmentReminder_due_iff fixed padded now).mp
        ⟨billed installment, installments installment among, bills installment among⟩⟩
  · rintro ⟨templates, installments⟩
    -- Every row is computed with, and what is found is what is due.
    have found : ∀ template ∈ s.remindedTemplates userId, ∃ found,
        templateReminder fixed.zone now (paddedText today) template = .ok found ∧
          found.map (templateKey template) = fixed.dueKey template today :=
      fun template among => (templateReminder_due_iff padded).mpr (templates template among)
    have owed : ∀ installment ∈ s.remindedInstallments userId, ∃ found,
        installmentReminder fixed.zone now (paddedText today) installment = .ok found ∧
          found.map (installmentKey installment) = fixed.dueBill installment today :=
      fun installment among => (installmentReminder_due_iff fixed padded now).mpr
        (installments installment among)
    choose! planned computed due using found
    choose! billed computed' due' using owed
    -- The answer lists what was found, and that is what is due.
    obtain ⟨events, s', ran, keys⟩ := evaluateReminders_answers fresh sources computed computed'
    exact ⟨events, s', ran, by rw [keys, List.filterMap_congr due, List.filterMap_congr due']⟩

/--
An evaluation of a day of the years 0 to 9999 answers with one event for each row that is due, and for no
other, exactly when the texts of every row that it reads say of the day what the calendar does.
-/
theorem evaluateReminders_due_iff (reached : Reachable fixed.zone s) (padded : Padded today) (now : Instant) :
    ((∃ events s', (evaluateReminders fixed.zone now (paddedText today) userId).run s = (.ok events, s') ∧
        events.map reminderKeys = sourceKeys
          ((s.remindedTemplates userId).filterMap fun template => fixed.dueKey template today)
          ((s.remindedInstallments userId).filterMap fun installment => fixed.dueBill installment today)) ↔
      (∀ template ∈ s.remindedTemplates userId, fixed.Handled template today) ∧
        ∀ installment ∈ s.remindedInstallments userId, fixed.HandledBill installment today) ∧
    ∀ template ∈ s.remindedTemplates userId, ∀ found,
      fixed.dueKey template today = some found ↔ fixed.Due template today found := by
  -- The numbers of the reminders are below the counter.
  have fresh : s.FreshEvents := fun row among => reached.numbered.events row among
  refine ⟨evaluateReminders_handled fresh reached.oneSource padded, fun template among found => ?_⟩
  -- The leads of a reachable store are shorter than a month, and single the next occurrence out.
  refine fixed.dueKey_eq_some_iff fun lead given => ?_
  have allowed := reached.leads template (Store.mem_of_remindedTemplates among) lead given
  simp only [validReminderOffsetDays, List.mem_cons, List.not_mem_nil, or_false] at allowed
  omega

end FixedZone

/-- The calls up to a rent and a purchase, of which the first of February is both due and owed. -/
def rentAndPurchase : List Call :=
  bought ++
    [{ now := 0, request := .createRecurringTransaction
        { monthlyRent 1 12 0 3 with startDate := some "1970-01-01", endDate := some "1970-12-31" } }]

/-- Three days before the first of February an evaluation answers with a reminder of each. -/
theorem evaluateReminders_due_february :
    let s := serveAll defaultTimezone.zone .empty rentAndPurchase
    (∃ events s', (evaluateReminders defaultTimezone.zone 0 (paddedText 28) none).run s = (.ok events, s') ∧
      events.map reminderKeys =
        [(some (16, defaultTimezone.midnight 31, 3), none),
            (none, some (14, defaultTimezone.midnight 31, 3))]) ∧
    ∃ template ∈ s.remindedTemplates none,
      defaultTimezone.Due template 28 (16, defaultTimezone.midnight 31, 3) := by
  intro s
  have padded : Padded 28 := by decide
  -- The dates of the template and of the instalment are evaluated, and all are written with four digits.
  have templates : ∀ template ∈ s.remindedTemplates none,
      defaultTimezone.dayOf template.startDate = 0 ∧
        template.endDate.map defaultTimezone.dayOf = some 364 := by
    decide +kernel
  have installments : ∀ installment ∈ s.remindedInstallments none,
      defaultTimezone.dayOf installment.nextDueDate = 31 := by
    decide +kernel
  -- One template is due and one instalment.
  have found : (s.remindedTemplates none).filterMap (fun template => defaultTimezone.dueKey template 28) =
      [(16, defaultTimezone.midnight 31, 3)] := by
    decide +kernel
  have owed : (s.remindedInstallments none).filterMap
      (fun installment => defaultTimezone.dueBill installment 28) =
      [(14, defaultTimezone.midnight 31, 3)] := by
    decide +kernel
  have written : FourDigit 0 ∧ FourDigit 28 ∧ FourDigit 31 ∧ FourDigit 364 := by decide
  -- The template starts and ends in years of four digits.
  have handled : ∀ template ∈ s.remindedTemplates none, defaultTimezone.Handled template 28 := by
    intro template among
    obtain ⟨starts, ends⟩ := templates template among
    have dated : defaultTimezone.Dated template := by
      refine ⟨starts ▸ written.1, fun last here => ?_⟩
      have day : some (defaultTimezone.dayOf last) = some 364 := by
        rw [← ends, Option.mem_def.mp here]
        rfl
      exact Option.some.inj day ▸ written.2.2.2
    exact dated.handled written.2.1 (by decide)
  -- And so is the due date of the instalment.
  have bills : ∀ installment ∈ s.remindedInstallments none,
      defaultTimezone.HandledBill installment 28 := by
    intro installment among
    have day := installments installment among
    exact ⟨fun _ => ⟨written.2.1, day ▸ written.2.2.1⟩, fun _ _ => by rw [day]; rfl⟩
  have answered := (FixedZone.evaluateReminders_due_iff ⟨rentAndPurchase, rfl⟩ padded 0).1.mpr
    ⟨handled, bills⟩
  rw [found, owed] at answered
  refine ⟨answered, ?_⟩
  -- The key that is found is one that is due.
  have named : (16, defaultTimezone.midnight 31, 3) ∈
      (s.remindedTemplates none).filterMap fun template => defaultTimezone.dueKey template 28 := by
    rw [found]
    exact List.mem_singleton_self _
  obtain ⟨template, among, due⟩ := List.mem_filterMap.mp named
  have spec := (FixedZone.evaluateReminders_due_iff ⟨rentAndPurchase, rfl⟩ padded 0).2 template among
  exact ⟨template, among, (spec _).mp due⟩

/--
A template that starts with the last second of the year 9999 is accepted, and from then on an evaluation
throws for every user, here on a day that a rent is due.
-/
theorem evaluateReminders_throws :
    let s := serveAll defaultTimezone.zone .empty (onboarding 1 1000 5000)
    let endOfYears : Call :=
      { now := 0, request := .createRecurringTransaction
          { monthlyRent 1 12 0 3 with startDate := some "9999-12-31T23:59:59Z" } }
    let rent : Call := { now := 0, request := .createRecurringTransaction (monthlyRent 1 12 0 3) }
    let s₁ := serveAll defaultTimezone.zone s [endOfYears, rent]
    (∃ accepted, (serve defaultTimezone.zone s endOfYears).1 = .ok accepted) ∧
    (∃ template ∈ s₁.remindedTemplates none,
      defaultTimezone.Due template 20465 (template.id, defaultTimezone.midnight 20468, 3)) ∧
    let evaluated := (evaluateReminders defaultTimezone.zone 1 (dayText 20465) none).run s₁
    evaluated.1 = .error (.thrown "Tanggal tidak valid") ∧ evaluated.2.events.rows = [] := by
  intro s endOfYears rent s₁
  -- The template of the last year is accepted, and its next occurrence then refuses the evaluation.
  have accepted : (serve defaultTimezone.zone s endOfYears).1.toOption.isSome = true := by decide
  have planned : ∃ template ∈ s₁.remindedTemplates none, template.reminderOffsetDays = some 3 ∧
      defaultTimezone.dayOf template.startDate = 20468 ∧ template.endDate = none := by
    decide
  refine ⟨?_, ?_, by decide, by decide⟩
  -- The first template was accepted.
  · cases answer : (serve defaultTimezone.zone s endOfYears).1 with
    | ok response => exact ⟨response, rfl⟩
    | error failure => simp [answer, Except.toOption] at accepted
  -- Its occurrence is due on the date of the evaluation.
  · obtain ⟨template, among, offset, starts, forever⟩ := planned
    exact ⟨template, among, 0, 3, offset, by simp [starts], by simp [forever], by simp [starts]⟩

end PocketMint
