import PocketMint.Services.ReminderRuns

/-! What an evaluation answers with: the keys of what it finds of each row, unless a row cannot be read. -/

namespace PocketMint

open Js Calendar ReminderEngine
open Prog (query)

/-- Both keys of a reminder, of which one is there. -/
def reminderKeys (row : RecurringReminderEvent) : Option (Id × Instant × Int) × Option (Id × Instant × Int) :=
  (reminderKey row, billKey row)

/-- The keys of reminders of which the first are of templates, and the others of instalments. -/
def sourceKeys (templates installments : List (Id × Instant × Int)) :
    List (Option (Id × Instant × Int) × Option (Id × Instant × Int)) :=
  templates.map (fun key => (some key, none)) ++ installments.map fun key => (none, some key)

/-- Such keys tell which are of templates and which of instalments. -/
theorem sourceKeys_inj {templates templates' installments installments' : List (Id × Instant × Int)} :
    sourceKeys templates installments = sourceKeys templates' installments' ↔
      templates = templates' ∧ installments = installments' := by
  constructor
  -- The first components are those of the templates, and the second ones those of the instalments.
  · intro same
    have first := congrArg (List.filterMap Prod.fst) same
    have second := congrArg (List.filterMap Prod.snd) same
    simp only [sourceKeys, List.filterMap_append, List.filterMap_map] at first second
    simp at first second
    exact ⟨first, second⟩
  · rintro ⟨rfl, rfl⟩
    rfl

/-- A reminder of a template has no instalment's key, and one of an instalment has no template's. -/
theorem reminderKeys_eq {row : RecurringReminderEvent}
    (source : row.templateId = none ∨ row.installmentId = none)
    {found : Id × Instant × Int} :
    (reminderKey row = some found → reminderKeys row = (some found, none)) ∧
      (billKey row = some found → reminderKeys row = (none, some found)) := by
  rcases source with none | none
  · simp [reminderKeys, reminderKey, none]
  · simp [reminderKeys, billKey, none]

/-- A reminder that was found under one of its keys has no other. -/
theorem map_reminderKeys {event : Option RecurringReminderEvent} {found : Option (Id × Instant × Int)}
    {view : RecurringReminderEvent → Option (Id × Instant × Int)}
    {both : Id × Instant × Int → Option (Id × Instant × Int) × Option (Id × Instant × Int)}
    (own : event.map view = found.map some)
    (only : ∀ row ∈ event, ∀ key, view row = some key → reminderKeys row = both key) :
    event.map reminderKeys = found.map both := by
  -- An event is answered if a key is found, and the key is the event's own.
  cases event with
  | none => cases found <;> simp_all
  | some row =>
    cases found with
    | none => simp at own
    | some key => exact congrArg some (only row rfl key (Option.some.inj own))

/-- Whether every reminder is of a template or of an instalment, and not of both. -/
def Store.OneSource (s : Store) : Prop :=
  ∀ row ∈ s.events.rows, row.templateId = none ∨ row.installmentId = none

variable {now : Instant} {s : Store}

/-- An upsert of a row with one source leaves every reminder with one. -/
theorem upsert_oneSource {key : RecurringReminderEvent → Bool} {data : Id → RecurringReminderEvent}
    (source : (data s.nextId).templateId = none ∨ (data s.nextId).installmentId = none)
    (sources : s.OneSource) : ((upsert key data).run s).2.OneSource := by
  -- The upsert leaves the store or adds one row, which has one source.
  obtain same | ⟨rows, inserted, same⟩ := upsert_store (s := s) key data
  · rw [same]
    exact sources
  · rw [same]
    intro row among
    obtain old | rfl := (Table.mem_insert inserted).mp among
    · exact sources row old
    · exact source

/-- So does a round for a template. -/
theorem remindTemplate_oneSource {zone : Zone} {date : String} {template : RecurringTransactionTemplate}
    (sources : s.OneSource) : ((remindTemplate zone now date template).run s).2.OneSource :=
  remindTemplate_rel (fun s s' => s.OneSource → s'.OneSource) (fun _ => id)
    (fun _ _ _ _ _ => upsert_oneSource (.inr rfl)) sources

/-- And a round for an instalment. -/
theorem remindInstallment_oneSource {zone : Zone} {date : String} {installment : Installment}
    (sources : s.OneSource) : ((remindInstallment zone now date installment).run s).2.OneSource :=
  remindInstallment_rel (fun s s' => s.OneSource → s'.OneSource) (fun _ => id)
    (fun _ _ _ _ => upsert_oneSource (.inl rfl)) sources

/-- A loop throws when one of its rounds throws from every store. -/
theorem remindEach_throws {α : Type} {round : α → Service (Option RecurringReminderEvent)} {rows : List α}
    (bad : ∃ row ∈ rows, ∀ s', ∃ failure, ((round row).run s').1 = .error failure) :
    ∃ failure, ((remindEach round rows).run s).1 = .error failure := by
  -- The induction follows the loop, which a round may end before the one that is sure to throw.
  induction rows generalizing s with
  | nil =>
    obtain ⟨_, among, _⟩ := bad
    cases among
  | cons row rest ih =>
    obtain ⟨other, among, throws⟩ := bad
    rcases List.mem_cons.mp among with rfl | later
    · -- The bad row comes first, and its round ends the loop.
      obtain ⟨failure, failed⟩ := throws s
      exact ⟨failure, Prog.run_bind_throws _ failed⟩
    · rw [remindEach, Prog.run_bind]
      cases ran : (round row).run s with
      | mk answer s₁ =>
        cases answer with
        -- An earlier round throws, and so does the loop.
        | error failure => exact ⟨failure, rfl⟩
        | ok event =>
          -- The bad row is among the rest, where the loop throws by the induction.
          obtain ⟨failure, failed⟩ := ih (s := s₁) ⟨other, later, throws⟩
          exact ⟨failure, Prog.run_bind_throws _ failed⟩

/-- The second loop reads the instalments that the first one found. -/
theorem remindEach_installments {zone : Zone} {date : String}
    {templates : List RecurringTransactionTemplate} :
    ((remindEach (remindTemplate zone now date) templates).run s).2.installments = s.installments := by
  -- A round inserts reminders at most, and those are in another table.
  refine remindEach_rel (fun s s' => s'.installments = s.installments) (fun _ => rfl)
    (fun first second => second.trans first) fun template _ s₁ => ?_
  refine remindTemplate_rel (fun s s' => s'.installments = s.installments) (fun _ => rfl) ?_
  intro offsetDays occurrence reminder _ key
  obtain same | ⟨rows, -, same⟩ :=
    upsert_store (s := s₁) key (templateEvent template offsetDays occurrence reminder)
  · rw [same]
  · rw [same]

/-- An evaluation throws when the dates of one row cannot be computed with. -/
theorem evaluateReminders_throws_of {zone : Zone} {date : String} {userId : Option Id}
    (bad : (∃ template ∈ s.remindedTemplates userId, ∃ message,
        templateReminder zone now date template = .error message) ∨
      ∃ installment ∈ s.remindedInstallments userId, ∃ message,
        installmentReminder zone now date installment = .error message) :
    ∃ failure, ((evaluateReminders zone now date userId).run s).1 = .error failure := by
  simp only [evaluateReminders, query, Prog.read_bind, Prog.ret_bind, Prog.run]
  rcases bad with ⟨template, among, message, refused⟩ | ⟨installment, among, message, refused⟩
  · -- The first loop throws at the template.
    have thrown : ∃ failure, ((remindEach (remindTemplate zone now date) (s.remindedTemplates userId)).run
        s).1 = .error failure :=
      remindEach_throws ⟨template, among, fun s' => ⟨.thrown message, by
        simp [remindTemplate, refused, Except.mapError, Prog.ofExcept, Prog.run]⟩⟩
    obtain ⟨failure, failed⟩ := thrown
    exact ⟨failure, Prog.run_bind_throws _ failed⟩
  · -- The first loop leaves the instalments.
    have kept : ((remindEach (remindTemplate zone now date) (s.remindedTemplates userId)).run
        s).2.installments =
        s.installments := remindEach_installments
    rw [Prog.run_bind]
    cases ran : (remindEach (remindTemplate zone now date) (s.remindedTemplates userId)).run s with
    | mk answer s₁ =>
      rw [ran] at kept
      cases answer with
      -- The first loop has thrown.
      | error failure => exact ⟨failure, rfl⟩
      | ok events =>
        -- The second loop throws at the instalment.
        have same : s₁.remindedInstallments userId = s.remindedInstallments userId := by
          rw [Store.remindedInstallments, Store.remindedInstallments, kept]
        have thrown : ∃ failure, ((remindEach (remindInstallment zone now date)
            (s₁.remindedInstallments userId)).run s₁).1 = .error failure :=
          remindEach_throws ⟨installment, same ▸ among, fun s' => ⟨.thrown message, by
            simp [remindInstallment, refused, Except.mapError, Prog.ofExcept, Prog.run]⟩⟩
        obtain ⟨failure, failed⟩ := thrown
        exact ⟨failure, Prog.run_bind_throws _ failed⟩

/-- The first loop answers with what is found of each template. -/
theorem remindEach_templates {zone : Zone} {date : String} {templates : List RecurringTransactionTemplate}
    {planned : RecurringTransactionTemplate → Option (Int × Instant × Instant)} (fresh : s.FreshEvents)
    (sources : s.OneSource) (known : ∀ template ∈ templates, template ∈ s.templates.rows)
    (computed : ∀ template ∈ templates, templateReminder zone now date template = .ok (planned template)) :
    ∃ events s', (remindEach (remindTemplate zone now date) templates).run s = (.ok events, s') ∧
      s'.FreshEvents ∧ s'.OneSource ∧
      events.map reminderKeys = templates.filterMap fun template =>
        ((planned template).map (templateKey template)).map fun found => (some found, none) := by
  -- The loop records the keys of the templates, and answers with them.
  have loop : ∃ events s', (remindEach (remindTemplate zone now date) templates).run s = (.ok events, s') ∧
      s.Records (templates.filterMap fun template => (planned template).map (templateKey template)) s' ∧
      s'.OneSource ∧
      events.map reminderKeys = templates.filterMap fun template =>
        ((planned template).map (templateKey template)).map fun found => (some found, none) := by
    refine remindEach_run templates fresh sources ?_
    intro template among s₁ same _ fresh sources
    obtain ⟨event, s₂, ran, recorded, stored, own⟩ :=
      remindTemplate_run (computed template among) fresh (same ▸ known template among)
    have kept : ((remindTemplate zone now date template).run s₁).2.OneSource :=
      remindTemplate_oneSource sources
    rw [ran] at kept
    -- The event has the template as its only source.
    refine ⟨event, s₂, ran, recorded, kept, map_reminderKeys own fun row here _ => ?_⟩
    exact (reminderKeys_eq (kept row (stored row here))).1
  obtain ⟨events, s', ran, recorded, kept, own⟩ := loop
  exact ⟨events, s', ran, recorded.fresh, kept, own⟩

/-- The second loop answers with what is found of each instalment. -/
theorem remindEach_bills {zone : Zone} {date : String} {installments : List Installment}
    {planned : Installment → Option (Instant × Instant)} (fresh : s.FreshEvents) (sources : s.OneSource)
    (known : ∀ installment ∈ installments, installment ∈ s.installments.rows)
    (computed : ∀ installment ∈ installments,
      installmentReminder zone now date installment = .ok (planned installment)) :
    ∃ events s', (remindEach (remindInstallment zone now date) installments).run s = (.ok events, s') ∧
      events.map reminderKeys = installments.filterMap fun installment =>
        ((planned installment).map (installmentKey installment)).map fun found => (none, some found) := by
  -- The general loop lemma is used with no template's key for any instalment.
  have loop : ∃ events s', (remindEach (remindInstallment zone now date) installments).run s =
      (.ok events, s') ∧
      s.Records (installments.filterMap fun _ => none) s' ∧ s'.OneSource ∧
      events.map reminderKeys = installments.filterMap fun installment =>
        ((planned installment).map (installmentKey installment)).map fun found => (none, some found) := by
    refine remindEach_run installments fresh sources ?_
    intro installment among s₁ _ same fresh sources
    obtain ⟨event, s₂, ran, recorded, stored, own⟩ :=
      remindInstallment_run (computed installment among) fresh (same ▸ known installment among)
    have kept : ((remindInstallment zone now date installment).run s₁).2.OneSource :=
      remindInstallment_oneSource sources
    rw [ran] at kept
    -- The event has the instalment as its only source.
    refine ⟨event, s₂, ran, recorded, kept, map_reminderKeys own fun row here _ => ?_⟩
    exact (reminderKeys_eq (kept row (stored row here))).2
  obtain ⟨events, s', ran, -, -, own⟩ := loop
  exact ⟨events, s', ran, own⟩

/-- An evaluation whose rows can all be computed with answers with what it finds of each. -/
theorem evaluateReminders_answers {zone : Zone} {date : String} {userId : Option Id}
    {planned : RecurringTransactionTemplate → Option (Int × Instant × Instant)}
    {billed : Installment → Option (Instant × Instant)} (fresh : s.FreshEvents) (sources : s.OneSource)
    (templates : ∀ template ∈ s.remindedTemplates userId,
      templateReminder zone now date template = .ok (planned template))
    (installments : ∀ installment ∈ s.remindedInstallments userId,
      installmentReminder zone now date installment = .ok (billed installment)) :
    ∃ events s', (evaluateReminders zone now date userId).run s = (.ok events, s') ∧
      events.map reminderKeys = sourceKeys
        ((s.remindedTemplates userId).filterMap fun template => (planned template).map (templateKey template))
        ((s.remindedInstallments userId).filterMap fun installment =>
          (billed installment).map (installmentKey installment)) := by
  -- Both loops answer with what was planned, the second one from the store that the first left.
  obtain ⟨first, s₁, ran, fresh₁, sources₁, keys⟩ :=
    remindEach_templates fresh sources (fun _ => Store.mem_of_remindedTemplates) templates
  -- The first loop leaves the instalments that the second one reads.
  have kept : ((remindEach (remindTemplate zone now date) (s.remindedTemplates userId)).run
      s).2.installments =
      s.installments := remindEach_installments
  rw [ran] at kept
  have same : s₁.remindedInstallments userId = s.remindedInstallments userId := by
    rw [Store.remindedInstallments, Store.remindedInstallments, kept]
  have known : ∀ installment ∈ s.remindedInstallments userId, installment ∈ s₁.installments.rows := by
    intro installment among
    rw [kept]
    exact (List.mem_filter.mp among).1
  obtain ⟨second, s₂, done, bills⟩ := remindEach_bills fresh₁ sources₁ known installments
  -- The answer of the run is that of the two loops, one after the other.
  refine ⟨first ++ second, s₂, ?_, by
    rw [List.map_append, keys, bills, sourceKeys, List.map_filterMap, List.map_filterMap]⟩
  simp only [evaluateReminders, query, Prog.read_bind, Prog.ret_bind, Prog.run]
  rw [Prog.run_bind, ran]
  simp only [Prog.run, same]
  rw [Prog.run_bind, done]
  rfl

end PocketMint
