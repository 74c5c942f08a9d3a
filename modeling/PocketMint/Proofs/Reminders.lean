import PocketMint.Proofs.Confirmation
import PocketMint.Services.ReminderRuns

/-! The reminder engine records each reminder of a template once, on the day that it is due. -/

namespace PocketMint

open Js Calendar ReminderEngine
open Prog (query)

namespace Store

/-- A step that keeps the engine's rows and every reminder's key. -/
structure KeepsKeys (s s' : Store) : Prop where
  templates : s'.templates = s.templates
  installments : s'.installments = s.installments
  fresh : s.FreshEvents → s'.FreshEvents
  keys : s'.events.rows.map reminderKey = s.events.rows.map reminderKey

theorem KeepsKeys.records {s s' : Store} (keeps : s.KeepsKeys s') (fresh : s.FreshEvents) :
    s.Records [] s' := by
  -- The stored keys are those that the rows' keys name.
  have same : s'.reminders = s.reminders := by
    -- A row without a key adds nothing to the list.
    have named : ∀ rows : List RecurringReminderEvent,
        rows.filterMap reminderKey = (rows.map reminderKey).filterMap id := by
      intro rows
      rw [List.filterMap_map]
      rfl
    rw [reminders, reminders, named, named, keeps.keys]
  exact ⟨keeps.templates, keeps.installments, keeps.fresh fresh, fun distinct => same ▸ distinct,
    by simp [same]⟩

end Store

section Existing

variable {s : Store}

/-- An upsert only appends to the reminders. -/
theorem upsert_appends (key : RecurringReminderEvent → Bool) (data : Id → RecurringReminderEvent) :
    s.events.rows <+: ((upsert key data).run s).2.events.rows := by
  obtain same | ⟨rows, inserted, same⟩ := upsert_store (s := s) key data
  · refine ⟨[], ?_⟩
    rw [same, List.append_nil]
  · refine ⟨[data s.nextId], ?_⟩
    rw [same, (Table.insert?_eq_some_iff.mp inserted).2]

/-- An evaluation changes no reminder that exists, on any date and in any zone. -/
theorem evaluateReminders_appends (zone : Zone) (now : Instant) (evaluationDate : String)
    (userId : Option Id) :
    s.events.rows <+: ((evaluateReminders zone now evaluationDate userId).run s).2.events.rows :=
  evaluateReminders_rel (fun s s' => s.events.rows <+: s'.events.rows) (fun _ => List.prefix_rfl)
    List.IsPrefix.trans (fun _ _ _ _ key _ => upsert_appends key _) fun _ _ _ _ _ _ _ key _ =>
      upsert_appends key _

end Existing

section Notification

variable {s s' s'' : Store}

namespace Store.KeepsKeys

theorem refl (s : Store) : s.KeepsKeys s := ⟨rfl, rfl, id, rfl⟩

theorem trans (first : s.KeepsKeys s') (second : s'.KeepsKeys s'') : s.KeepsKeys s'' :=
  ⟨second.templates.trans first.templates, second.installments.trans first.installments,
    second.fresh ∘ first.fresh, second.keys.trans first.keys⟩

/-- Rewriting a reminder keeps the keys when the rewriting keeps its key. -/
theorem update {id : Id} {rewrite : RecurringReminderEvent → RecurringReminderEvent}
    (keeps : ∀ row, Keyed.key (rewrite row) = Keyed.key row)
    (events : s'.events = s.events.update id rewrite keeps)
    (kept : ∀ row, reminderKey (rewrite row) = reminderKey row) (templates : s'.templates = s.templates)
    (installments : s'.installments = s.installments) (grows : s.nextId ≤ s'.nextId) :
    s.KeepsKeys s' := by
  -- The row that is rewritten keeps its number and its key.
  refine ⟨templates, installments, fun fresh row among => ?_, ?_⟩
  -- An old number is still below the counter, which only grows.
  · rw [events] at among
    obtain old | ⟨before, found, rfl⟩ := Table.mem_update keeps among
    · exact (fresh row old).trans_le grows
    · have named : (rewrite before).id = before.id := keeps before
      rw [named]
      exact (fresh before (Table.mem_of_find? found)).trans_le grows
  -- The list of keys is mapped from rows of the same keys.
  · rw [events]
    exact Table.map_rows_update keeps kept

end Store.KeepsKeys

/-- Marking a reminder as read keeps every reminder's key. -/
theorem markNotificationRead_keeps (now : Instant) (input : MarkNotificationReadInput) :
    s.KeepsKeys ((markNotificationRead now input).run s).2 := by
  -- The one write of the request sets a column that no key depends on.
  have outline : (markNotificationRead now input).Sat Eq
      (fun _ s₁ s₂ => s₂ = s₁ ∨ EventRead Eq now input s₁ s₂) (fun _ _ _ => True) [] s :=
    markNotificationRead_sat
  refine Prog.run_preserves (outline.mono (fun _ _ same => same) ?_ fun _ _ _ post => post) rfl (.refl s)
  -- The store is as it was, or one reminder has been marked as read.
  rintro _ s₁ s₂ (rfl | ⟨_, _, rfl⟩) _ kept
  · exact kept
  · refine kept.trans (.update ?_ rfl (fun _ => rfl) rfl rfl le_rfl)
    exact fun _ => rfl

/-- Confirming a reminder keeps every reminder's key. -/
theorem confirmReminder_keeps (now : Instant) (input : ConfirmReminderInput) :
    s.KeepsKeys ((confirmReminder now input).run s).2 := by
  -- Only the write matters here, so the checks before it are passed without their facts.
  have outline : (confirmReminder now input).Sat Eq (fun _ s₁ s₂ => s₁.KeepsKeys s₂)
      (fun _ _ _ => True) [] s := by
    unfold confirmReminder
    refine Prog.sat_query_bind fun _ _ => Prog.sat_orThrow_bind fun _ _ => ?_
    refine Prog.sat_throwIf_bind fun _ => Prog.sat_throwIf_bind fun _ => ?_
    refine Prog.sat_orThrow_bind fun _ _ => Prog.sat_ofExcept_bind fun _ _ => ?_
    refine Prog.sat_query_bind fun _ _ => Prog.sat_orThrow_bind fun _ _ => ?_
    refine Prog.sat_orThrow_bind fun _ _ => Prog.sat_query_bind fun _ _ => ?_
    refine Prog.sat_orThrow_bind fun _ _ => Prog.sat_ofExcept_bind fun _ _ => ?_
    refine sat_commit (fun s₁ _ => .refl s₁) fun s₁ _ after _ done => ⟨?_, trivial⟩
    -- The write inserts a row and completes the reminder, which has the key that it had.
    obtain ⟨row, rows, -, -, -, -, -, -, rfl⟩ := writeConfirm_ok done
    refine .update ?_ rfl (fun _ => rfl) rfl rfl (Nat.le_succ _)
    exact fun _ => rfl
  refine Prog.run_preserves (outline.mono (fun _ _ same => same) ?_ fun _ _ _ post => post) rfl (.refl s)
  intro _ s₁ s₂ step _ kept
  exact kept.trans step

end Notification

section Runs

variable (fixed : FixedZone)

/-- The occurrence of a template that a day's evaluation is to record, as its reminder's key. -/
def FixedZone.Due (template : RecurringTransactionTemplate) (today : Int)
    (found : Id × Instant × Int) : Prop :=
  ∃ (months : Nat) (lead : Int), template.reminderOffsetDays = some lead ∧
    found = (template.id, fixed.midnight (monthlyDay (fixed.dayOf template.startDate) months), lead) ∧
    (∀ last ∈ template.endDate,
      monthlyDay (fixed.dayOf template.startDate) months ≤ fixed.dayOf last) ∧
    monthlyDay (fixed.dayOf template.startDate) months - lead = today

/-- The engine's one candidate is the only occurrence that a day can be due. -/
theorem FixedZone.dueKey_eq_some_iff {template : RecurringTransactionTemplate}
    (leads : ∀ lead ∈ template.reminderOffsetDays, 0 ≤ lead ∧ lead < 28) {today : Int}
    {found : Id × Instant × Int} :
    fixed.dueKey template today = some found ↔ fixed.Due template today found := by
  cases offset : template.reminderOffsetDays with
  | none => simp [FixedZone.dueKey, FixedZone.Due, offset]
  | some lead =>
  obtain ⟨low, high⟩ := leads lead offset
  -- A lead shorter than a month singles out the next occurrence.
  have only : fixed.nextOccurrence template today - lead = today ↔
      ∃ months : Nat, monthlyDay (fixed.dayOf template.startDate) months - lead = today :=
    nextMonthly_sub_eq_iff low high
  simp only [FixedZone.dueKey, FixedZone.Due, offset, Option.bind_some, Option.some.injEq,
    Option.ite_none_right_eq_some]
  -- What is due is the next occurrence, which is some occurrence.
  constructor
  · rintro ⟨⟨due, runs⟩, rfl⟩
    obtain ⟨months, same⟩ := only.mp due
    have next : fixed.nextOccurrence template today =
        monthlyDay (fixed.dayOf template.startDate) months := by omega
    rw [next] at runs
    exact ⟨months, lead, rfl, by rw [next], runs, same⟩
  -- And an occurrence that is due is the next one.
  · rintro ⟨months, lead, rfl, rfl, runs, same⟩
    have due := only.mpr ⟨months, same⟩
    have next : fixed.nextOccurrence template today =
        monthlyDay (fixed.dayOf template.startDate) months := by omega
    rw [next]
    exact ⟨⟨same, runs⟩, rfl⟩

/-- The calls of a run: evaluations of days of the years 1000 to 9990, and answers to reminders. -/
inductive Reminding : Call → Prop where
  | evaluate (now : Instant) (today : Int) (userId : Option Id) (low : 12 * 1000 ≤ monthOf today)
      (high : monthOf today < 12 * 9991) :
      Reminding { now, request := .evaluateReminders (dayText today) userId }
  | read (now : Instant) (input : MarkNotificationReadInput) :
      Reminding { now, request := .markNotificationRead input }
  | confirm (now : Instant) (input : ConfirmReminderInput) :
      Reminding { now, request := .confirmReminder input }

/-- Whether a call evaluates the reminders of a template's user on a day. -/
def Evaluates (template : RecurringTransactionTemplate) (today : Int) (call : Call) : Prop :=
  ∃ userId : Option Id, call.request = .evaluateReminders (dayText today) userId ∧
    ∀ owner ∈ userId, template.userId = owner

variable {fixed} {s : Store}

theorem mem_remindedTemplates {userId : Option Id} {template : RecurringTransactionTemplate} :
    template ∈ s.remindedTemplates userId ↔
      template ∈ s.remindedTemplates none ∧ ∀ owner ∈ userId, template.userId = owner := by
  cases userId <;> simp [Store.remindedTemplates, and_assoc]

/-- An evaluation's call leaves the store as the evaluation does. -/
theorem serve_evaluateReminders (zone : Zone) (now : Instant) (evaluationDate : String)
    (userId : Option Id) :
    (serve zone s { now, request := .evaluateReminders evaluationDate userId }).2 =
      ((evaluateReminders zone now evaluationDate userId).run s).2 :=
  Prog.run_map _ _ s

/-- One call of a run records the reminders that are due on the day that it evaluates, if it does. -/
theorem serve_records {call : Call} (reminding : Reminding call)
    (regular : ∀ template ∈ s.remindedTemplates none, fixed.Regular template)
    (fresh : s.FreshEvents) :
    ∃ keys, s.Records keys (serve fixed.zone s call).2 ∧ ∀ found, found ∈ keys ↔
      ∃ template ∈ s.remindedTemplates none, ∃ today, fixed.Due template today found ∧
        Evaluates template today call := by
  -- Only an evaluation records keys, and they are those of the templates that are due.
  cases reminding with
  | evaluate now today userId low high =>
    have covered : ∀ template ∈ s.remindedTemplates userId, fixed.Dated template :=
      fun template among => (regular template (mem_remindedTemplates.mp among).1).dated
    refine ⟨(s.remindedTemplates userId).filterMap fun template => fixed.dueKey template today, ?_,
      fun found => ?_⟩
    -- The evaluation records the keys of the templates that it covers.
    · rw [serve_evaluateReminders]
      exact evaluateReminders_records low (by omega) userId covered fresh
    · rw [List.mem_filterMap]
      constructor
      · rintro ⟨template, among, key⟩
        obtain ⟨active, covers⟩ := mem_remindedTemplates.mp among
        exact ⟨template, active, today,
          (fixed.dueKey_eq_some_iff (regular template active).lead).mp key, userId, rfl, covers⟩
      -- A template that is due on the evaluated date is covered by the evaluation.
      · rintro ⟨template, active, other, due, userId', asked, covers⟩
        obtain ⟨date, rfl⟩ := by simpa using asked
        obtain rfl : today = other := formatCalendarDate_inj date
        exact ⟨template, mem_remindedTemplates.mpr ⟨active, covers⟩,
          (fixed.dueKey_eq_some_iff (regular template active).lead).mpr due⟩
  -- Reading a reminder records nothing.
  | read now input =>
    refine ⟨[], ?_, fun found => ?_⟩
    · have ran : (serve fixed.zone s { now, request := .markNotificationRead input }).2 =
          ((markNotificationRead now input).run s).2 := Prog.run_map _ _ s
      rw [ran]
      exact (markNotificationRead_keeps now input).records fresh
    · simp [Evaluates]
  -- Neither does confirming one.
  | confirm now input =>
    refine ⟨[], ?_, fun found => ?_⟩
    · have ran : (serve fixed.zone s { now, request := .confirmReminder input }).2 =
          ((confirmReminder now input).run s).2 := Prog.run_map _ _ s
      rw [ran]
      exact (confirmReminder_keeps now input).records fresh
    · simp [Evaluates]

/-- A run records the reminders that are due on the days that it evaluates. -/
theorem serveAll_records {calls : List Call} (reminding : ∀ call ∈ calls, Reminding call)
    (regular : ∀ template ∈ s.remindedTemplates none, fixed.Regular template)
    (fresh : s.FreshEvents) :
    ∃ keys, s.Records keys (serveAll fixed.zone s calls) ∧ ∀ found, found ∈ keys ↔
      ∃ template ∈ s.remindedTemplates none, ∃ today, fixed.Due template today found ∧
        ∃ call ∈ calls, Evaluates template today call := by
  -- The templates stay as they are, so what each call records is about the same ones.
  induction calls generalizing s with
  | nil => exact ⟨[], .refl fresh, by simp⟩
  | cons call calls ih =>
    obtain ⟨keys, first, named⟩ := serve_records (reminding call List.mem_cons_self) regular fresh
    -- The templates of the second part are those of the first.
    have same : (serve fixed.zone s call).2.remindedTemplates none = s.remindedTemplates none := by
      rw [Store.remindedTemplates, Store.remindedTemplates, first.templates]
    obtain ⟨more, second, further⟩ := ih (s := (serve fixed.zone s call).2)
      (fun other among => reminding other (List.mem_cons_of_mem _ among)) (same ▸ regular) first.fresh
    refine ⟨keys ++ more, first.trans second, fun found => ?_⟩
    rw [List.mem_append, named, further, same]
    constructor
    -- The key is of the first call or of a later one.
    · rintro (⟨template, active, today, due, here⟩ | ⟨template, active, today, due, other, among, here⟩)
      · exact ⟨template, active, today, due, call, List.mem_cons_self, here⟩
      · exact ⟨template, active, today, due, other, List.mem_cons_of_mem _ among, here⟩
    · rintro ⟨template, active, today, due, other, among, here⟩
      obtain rfl | later := List.mem_cons.mp among
      · exact .inl ⟨template, active, today, due, here⟩
      · exact .inr ⟨template, active, today, due, other, later, here⟩

/--
A run that starts without reminders records each occurrence of a regular template whose reminder
falls on a day that is evaluated, and nothing else, and records it once.

No evaluation changes a reminder that exists.
-/
theorem serveAll_reminds {calls : List Call} (empty : s.events.rows = [])
    (regular : ∀ template ∈ s.remindedTemplates none, fixed.Regular template)
    (reminding : ∀ call ∈ calls, Reminding call) :
    (serveAll fixed.zone s calls).reminders.Nodup ∧
    (∀ found, found ∈ (serveAll fixed.zone s calls).reminders ↔
      ∃ template ∈ s.remindedTemplates none, ∃ today, fixed.Due template today found ∧
        ∃ call ∈ calls, Evaluates template today call) ∧
    ∀ earlier call later, calls = earlier ++ call :: later →
      (∃ evaluationDate userId, call.request = .evaluateReminders evaluationDate userId) →
      (serveAll fixed.zone s earlier).events.rows <+:
        (serve fixed.zone (serveAll fixed.zone s earlier) call).2.events.rows := by
  -- The run starts without reminders, so the recorded keys are all there are.
  have none : s.reminders = [] := by simp [Store.reminders, empty]
  have fresh : s.FreshEvents := by simp [Store.FreshEvents, empty]
  obtain ⟨keys, records, named⟩ := serveAll_records reminding regular fresh
  refine ⟨records.distinct (by simp [none]), fun found => ?_, ?_⟩
  -- The recorded keys are those that were named.
  · rw [records.recorded, none, named]
    simp
  -- An evaluation appends its reminders to the ones that are there.
  · rintro earlier ⟨now, request⟩ later - ⟨evaluationDate, userId, rfl⟩
    rw [serve_evaluateReminders]
    exact evaluateReminders_appends _ _ _ _

end Runs

/-- The calls up to a monthly rent with a last day, which no evaluation has looked at yet. -/
def rentPlanned (endDate : String) : List Call :=
  onboarding 1 1000 5000 ++
    [{ now := 0, request := .createRecurringTransaction
        { monthlyRent 1 12 0 3 with endDate := some endDate } }]

/-- A run of a rent that ends in March: two days that are due, one of them twice, and answers between. -/
def rentRun : List Call :=
  [{ now := 1, request := .evaluateReminders (dayText 20496) (some 1) },
    { now := 2, request := .markNotificationRead { userId := 1, id := 15 } },
    { now := 3, request := .evaluateReminders (dayText 20465) none },
    { now := 4, request := .confirmReminder { userId := 1, id := 16 } },
    { now := 5, request := .evaluateReminders (dayText 20465) none },
    { now := 6, request := .evaluateReminders (dayText 20555) none }]

/-- The run records the reminders of January and February, whose answers it keeps, and none of April. -/
theorem serveAll_reminds_rent :
    let s := serveAll defaultTimezone.zone .empty (rentPlanned "2026-03-31")
    ((serveAll defaultTimezone.zone s rentRun).reminders.Nodup ∧
      (∀ found, found ∈ (serveAll defaultTimezone.zone s rentRun).reminders ↔
        ∃ template ∈ s.remindedTemplates none, ∃ today, defaultTimezone.Due template today found ∧
          ∃ call ∈ rentRun, Evaluates template today call) ∧
      ∀ earlier call later, rentRun = earlier ++ call :: later →
        (∃ evaluationDate userId, call.request = .evaluateReminders evaluationDate userId) →
        (serveAll defaultTimezone.zone s earlier).events.rows <+:
          (serve defaultTimezone.zone (serveAll defaultTimezone.zone s earlier) call).2.events.rows) ∧
    (serveAll defaultTimezone.zone s rentRun).reminders =
      [(14, defaultTimezone.midnight 20499, 3), (14, defaultTimezone.midnight 20468, 3)] := by
  intro s
  -- The hypotheses about the one template are evaluated, and the calls are gone through.
  have planned : ∀ template ∈ s.remindedTemplates none,
      (12 * 1000 ≤ monthOf (defaultTimezone.dayOf template.startDate) ∧
        monthOf (defaultTimezone.dayOf template.startDate) < 12 * 9991) ∧
      (template.endDate.map fun last => monthOf (defaultTimezone.dayOf last)) = some 24314 ∧
      template.reminderOffsetDays = some 3 := by
    decide +kernel
  refine ⟨serveAll_reminds (by decide +kernel) ?_ ?_, by decide +kernel⟩
  -- The template starts and ends in years of four digits, and its lead is allowed.
  · intro template among
    obtain ⟨starts, ends, offset⟩ := planned template among
    refine ⟨starts, ?_, 3, offset, by decide, by decide⟩
    rintro last here
    obtain ⟨other, same, month⟩ := Option.map_eq_some_iff.mp ends
    obtain rfl : other = last := Option.some.inj (same.symm.trans here)
    rw [FourDigit, month]
    decide
  -- Every call of the run is an evaluation, a reading or a confirmation.
  · intro call among
    simp only [rentRun, List.mem_cons, List.not_mem_nil, or_false] at among
    obtain rfl | rfl | rfl | rfl | rfl | rfl := among
    · exact .evaluate 1 20496 (some 1) (by decide +kernel) (by decide +kernel)
    · exact .read 2 _
    · exact .evaluate 3 20465 none (by decide +kernel) (by decide +kernel)
    · exact .confirm 4 _
    · exact .evaluate 5 20465 none (by decide +kernel) (by decide +kernel)
    · exact .evaluate 6 20555 none (by decide +kernel) (by decide +kernel)

/--
A rent that ends with the last second of the year 9999 is due a reminder that is not recorded.

In the zone that second is shown in the year 10000, whose text comes before that of any year from 2000.
-/
theorem evaluateReminders_misses :
    let s := serveAll defaultTimezone.zone .empty (rentPlanned "9999-12-31T23:59:59Z")
    s.events.rows = [] ∧ (s.remindedTemplates none).length = 1 ∧
    (∀ template ∈ s.remindedTemplates none,
      defaultTimezone.Due template 20465 (template.id, defaultTimezone.midnight 20468, 3)) ∧
    (serve defaultTimezone.zone s
      { now := 1, request := .evaluateReminders (dayText 20465) none }).2.reminders = [] := by
  intro s
  -- The one template starts on the day that is due, in three days from the date.
  have planned : ∀ template ∈ s.remindedTemplates none, template.reminderOffsetDays = some 3 ∧
      defaultTimezone.dayOf template.startDate = 20468 ∧
      (template.endDate.map defaultTimezone.dayOf) = some 2932897 := by
    decide +kernel
  refine ⟨by decide +kernel, by decide +kernel, ?_, by decide +kernel⟩
  intro template among
  obtain ⟨offset, starts, ends⟩ := planned template among
  refine ⟨0, 3, offset, by simp [starts], ?_, by simp [starts]⟩
  -- And it has not ended by then.
  intro last here
  obtain ⟨other, same, day⟩ := Option.map_eq_some_iff.mp ends
  obtain rfl : other = last := Option.some.inj (same.symm.trans here)
  simp [starts, day]

end PocketMint
