import PocketMint.Services.HandledRows
import PocketMint.Store.ClientLaws

/-! Evaluations of reminders that run alone: what they answer, and what they record. -/

namespace PocketMint

open Js Calendar ReminderEngine
open Prog (query)

/-- The unique key of a template's reminder: the template, the occurrence and the offset. -/
def reminderKey (row : RecurringReminderEvent) : Option (Id × Instant × Int) :=
  row.templateId.map fun id => (id, row.occurrenceDate, row.offsetDays)

/-- The unique key of an instalment's reminder: the instalment, the due date and the offset. -/
def billKey (row : RecurringReminderEvent) : Option (Id × Instant × Int) :=
  row.installmentId.map fun id => (id, row.occurrenceDate, row.offsetDays)

namespace Store

/-- The keys of the template reminders that are stored. -/
def reminders (s : Store) : List (Id × Instant × Int) := s.events.rows.filterMap reminderKey

/-- Whether the next identifier is free among the reminders. -/
def FreshEvents (s : Store) : Prop := ∀ row ∈ s.events.rows, row.id < s.nextId

/-- A step that keeps the engine's rows and records the template keys that are missing, each once. -/
structure Records (s : Store) (keys : List (Id × Instant × Int)) (s' : Store) : Prop where
  templates : s'.templates = s.templates
  installments : s'.installments = s.installments
  fresh : s'.FreshEvents
  distinct : s.reminders.Nodup → s'.reminders.Nodup
  recorded : ∀ key, key ∈ s'.reminders ↔ key ∈ s.reminders ∨ key ∈ keys

namespace Records

variable {s s' s'' : Store} {keys more : List (Id × Instant × Int)}

theorem refl (fresh : s.FreshEvents) : s.Records [] s :=
  ⟨rfl, rfl, fresh, id, by simp⟩

theorem trans (first : s.Records keys s') (second : s'.Records more s'') :
    s.Records (keys ++ more) s'' := by
  refine ⟨second.templates.trans first.templates, second.installments.trans first.installments,
    second.fresh, second.distinct ∘ first.distinct, ?_⟩
  intro key
  rw [second.recorded, first.recorded, List.mem_append, or_assoc]

/-- An inserted reminder whose key is missing is recorded. -/
theorem insert {row : RecurringReminderEvent} {rows : Table RecurringReminderEvent}
    (fresh : s.FreshEvents) (named : row.id = s.nextId) (inserted : s.events.insert? row = some rows)
    (missing : ∀ key ∈ reminderKey row, key ∉ s.reminders) :
    s.Records (reminderKey row).toList { s with nextId := s.nextId + 1, events := rows } := by
  -- The row is put at the end, and its key is added at the end of the keys.
  have appended := (Table.insert?_eq_some_iff.mp inserted).2
  have keys : ({ s with nextId := s.nextId + 1, events := rows } : Store).reminders =
      s.reminders ++ (reminderKey row).toList := by
    simp only [reminders, appended, List.filterMap_append]
    cases key : reminderKey row <;> simp [key]
  refine ⟨rfl, rfl, ?_, ?_, ?_⟩
  -- The number of the new row is the next one.
  · intro other among
    obtain old | rfl := (Table.mem_insert inserted).mp among
    · exact (fresh other old).trans (Nat.lt_succ_self _)
    · exact named.trans_lt (Nat.lt_succ_self _)
  · -- The keys stay distinct because the key was missing.
    intro distinct
    rw [keys]
    cases key : reminderKey row with
    | none => simpa using distinct
    | some found =>
      refine List.nodup_append.mpr ⟨distinct, List.nodup_singleton _, ?_⟩
      rintro a among b here rfl
      rw [Option.toList_some, List.mem_singleton] at here
      exact missing a (here ▸ key) among
  · intro key
    rw [keys, List.mem_append]

end Records

end Store

variable {fixed : FixedZone} {now : Instant} {s : Store}

/-- A new identifier is free among the reminders. -/
theorem Store.FreshEvents.free (fresh : s.FreshEvents) : s.events.find? s.nextId = none :=
  Table.find?_eq_none_iff.mpr fun row among => (fresh row among).ne

/-- An upsert leaves the store alone, or inserts its row. -/
theorem upsert_store (key : RecurringReminderEvent → Bool) (data : Id → RecurringReminderEvent) :
    ((upsert key data).run s).2 = s ∨ ∃ rows, s.events.insert? (data s.nextId) = some rows ∧
      ((upsert key data).run s).2 = { s with nextId := s.nextId + 1, events := rows } := by
  -- A row of the key is kept, and otherwise the insert succeeds or leaves the store.
  cases taken : s.events.rows.find? key with
  | some event =>
    -- The row that is found is answered.
    have kept : (upsert key data).run s = (.ok event, s) := run_commit_ok (by simp only [taken])
    exact .inl (congrArg Prod.snd kept)
  | none =>
    cases made : Tx.createEvent data s with
    -- The insertion failed, and took everything back.
    | error error =>
      refine .inl ?_
      simp [upsert, commit, Prog.transact, Prog.run, taken, made, Except.mapError]
    | ok answer =>
      -- The new row has the next number.
      obtain ⟨row, after⟩ := answer
      obtain ⟨rfl, -, rows, inserted, rfl⟩ := Tx.createEvent_ok.mp made
      have done : (upsert key data).run s =
          (.ok (data s.nextId), { s with nextId := s.nextId + 1, events := rows }) :=
        run_commit_ok (by simp only [taken, made])
      exact .inr ⟨rows, inserted, congrArg Prod.snd done⟩

section Rounds

/-!
What every upsert of an evaluation does to the store, the evaluation does, also when it fails on the way.
-/

variable (rel : Store → Store → Prop) {zone : Zone} {date : String}

/-- A round for a template does nothing, or makes the upsert of the occurrence that it computes. -/
theorem remindTemplate_rel (refl : ∀ s, rel s s) {template : RecurringTransactionTemplate}
    (upserted : ∀ offsetDays occurrence reminder,
      templateReminder zone now date template = .ok (some (offsetDays, occurrence, reminder)) →
        ∀ key, rel s ((upsert key (templateEvent template offsetDays occurrence reminder)).run s).2) :
    rel s ((remindTemplate zone now date template).run s).2 := by
  unfold remindTemplate
  -- Only a reminder that is due reaches the upsert.
  cases computed : templateReminder zone now date template with
  -- Nothing was computed, so nothing is written.
  | error message => exact refl s
  | ok due =>
    cases due with
    | none => exact refl s
    | some found =>
      obtain ⟨offsetDays, occurrence, reminder⟩ := found
      simp only [Except.mapError, Prog.ofExcept, Prog.ret_bind, Prog.pure_eq]
      rw [Prog.run_map]
      exact upserted offsetDays occurrence reminder computed _

/-- A round for an instalment does nothing, or makes the upsert of the due date that it computes. -/
theorem remindInstallment_rel (refl : ∀ s, rel s s) {installment : Installment}
    (upserted : ∀ occurrence reminder,
      installmentReminder zone now date installment = .ok (some (occurrence, reminder)) →
        ∀ key, rel s ((upsert key (installmentEvent installment occurrence reminder)).run s).2) :
    rel s ((remindInstallment zone now date installment).run s).2 := by
  unfold remindInstallment
  -- Only a reminder that is due reaches the upsert.
  cases computed : installmentReminder zone now date installment with
  | error message => exact refl s
  | ok due =>
    cases due with
    | none => exact refl s
    | some found =>
      obtain ⟨occurrence, reminder⟩ := found
      simp only [Except.mapError, Prog.ofExcept, Prog.ret_bind, Prog.pure_eq]
      rw [Prog.run_map]
      exact upserted occurrence reminder computed _

/-- A loop does what each of its rounds does. -/
theorem remindEach_rel (refl : ∀ s, rel s s) (trans : ∀ {s₁ s₂ s₃}, rel s₁ s₂ → rel s₂ s₃ → rel s₁ s₃)
    {α : Type} {round : α → Service (Option RecurringReminderEvent)} {rows : List α}
    (one : ∀ row ∈ rows, ∀ s, rel s ((round row).run s).2) :
    rel s ((remindEach round rows).run s).2 := by
  -- The induction follows the loop, which ends early when a round fails.
  induction rows generalizing s with
  | nil => exact refl s
  | cons row rest ih =>
    -- The first round is followed by the others, or it ends the loop.
    have first := one row List.mem_cons_self s
    rw [remindEach, Prog.run_bind]
    cases ran : (round row).run s with
    | mk answer s₁ =>
      rw [ran] at first
      cases answer with
      | error error => exact first
      | ok event =>
        simp only [Prog.pure_eq]
        rw [Prog.run_map]
        exact trans first (ih fun other among => one other (List.mem_cons_of_mem _ among))

/-- An evaluation does what the upserts of its two loops do. -/
theorem evaluateReminders_rel (refl : ∀ s, rel s s)
    (trans : ∀ {s₁ s₂ s₃}, rel s₁ s₂ → rel s₂ s₃ → rel s₁ s₃) {userId : Option Id}
    (templates : ∀ template offsetDays occurrence reminder key s₁,
      rel s₁ ((upsert key (templateEvent template offsetDays occurrence reminder)).run s₁).2)
    (installments : ∀ s₁, rel s s₁ → ∀ installment ∈ s₁.remindedInstallments userId,
      ∀ occurrence reminder,
        installmentReminder zone now date installment = .ok (some (occurrence, reminder)) →
          ∀ key s₂, rel s₂ ((upsert key (installmentEvent installment occurrence reminder)).run s₂).2) :
    rel s ((evaluateReminders zone now date userId).run s).2 := by
  -- The second loop runs only where the first one succeeds, from the store that it left.
  have first : rel s
      ((remindEach (remindTemplate zone now date) (s.remindedTemplates userId)).run s).2 :=
    remindEach_rel rel refl trans fun _ _ _ => remindTemplate_rel rel refl fun _ _ _ _ _ =>
      templates _ _ _ _ _ _
  simp only [evaluateReminders, query, Prog.read_bind, Prog.ret_bind, Prog.run]
  rw [Prog.run_bind]
  cases ran : (remindEach (remindTemplate zone now date) (s.remindedTemplates userId)).run s with
  | mk answer s₁ =>
    rw [ran] at first
    cases answer with
    | error error => exact first
    | ok events =>
      simp only [Prog.run, Prog.pure_eq]
      rw [Prog.run_map]
      -- The rounds of the second loop remind of the instalments that the first one left.
      refine trans first (remindEach_rel rel refl trans fun installment among s₂ => ?_)
      exact remindInstallment_rel rel refl fun _ _ computed key =>
        installments s₁ first installment among _ _ computed key s₂

end Rounds

/-- An upsert whose row may be inserted answers with the row that has the key, or with its own. -/
theorem upsert_run (key : RecurringReminderEvent → Bool) {data : Id → RecurringReminderEvent}
    (fresh : s.FreshEvents) (named : ∀ id, (data id).id = id) (keys : s.EventKeys (data s.nextId)) :
    (∃ event ∈ s.events.rows, key event = true ∧ (upsert key data).run s = (.ok event, s)) ∨
    ∃ rows, (∀ row ∈ s.events.rows, key row = false) ∧ s.events.insert? (data s.nextId) = some rows ∧
      (upsert key data).run s =
        (.ok (data s.nextId), { s with nextId := s.nextId + 1, events := rows }) := by
  -- The number of a new row is fresh, so an insert cannot fail.
  cases taken : s.events.rows.find? key with
  -- The row of the key is the answer.
  | some event =>
    exact .inl ⟨event, List.mem_of_find?_eq_some taken, List.find?_some taken,
      run_commit_ok (by simp only [taken])⟩
  | none =>
    -- The number of the new row is free.
    have free : s.events.find? (Keyed.key (data s.nextId)) = none := by
      have own : Keyed.key (data s.nextId) = s.nextId := named s.nextId
      rw [own]
      exact fresh.free
    -- So the insertion succeeds, and no row of the key was there.
    obtain ⟨rows, inserted⟩ := Table.exists_insert free
    have made : Tx.createEvent data s =
        .ok (data s.nextId, { s with nextId := s.nextId + 1, events := rows }) :=
      Tx.createEvent_ok.mpr ⟨rfl, keys, rows, inserted, rfl⟩
    refine .inr ⟨rows, fun row among => ?_, inserted, run_commit_ok (by simp only [taken, made])⟩
    simpa using List.find?_eq_none.mp taken row among

/-- An upsert whose row may be inserted answers with a row that has the key. -/
theorem upsert_answers {key : RecurringReminderEvent → Bool} {data : Id → RecurringReminderEvent}
    {view : RecurringReminderEvent → Option (Id × Instant × Int)} {found : Id × Instant × Int}
    (fresh : s.FreshEvents) (named : ∀ id, (data id).id = id) (keys : s.EventKeys (data s.nextId))
    (unique : ∀ row, key row = true → view row = some found) (own : view (data s.nextId) = some found) :
    ∃ event s', (upsert key data).run s = (.ok event, s') ∧ event ∈ s'.events.rows ∧
      view event = some found := by
  -- A stored row that has the key answers, and otherwise the row that is inserted.
  obtain ⟨event, among, same, ran⟩ | ⟨rows, -, inserted, ran⟩ := upsert_run key fresh named keys
  · exact ⟨event, s, ran, among, unique event same⟩
  · exact ⟨_, _, ran, (Table.mem_insert inserted).mpr (.inr rfl), own⟩

/-- An upsert for a template records its key, unless a stored reminder has it. -/
theorem upsert_records {key : RecurringReminderEvent → Bool} {data : Id → RecurringReminderEvent}
    {found : Id × Instant × Int} (fresh : s.FreshEvents) (named : ∀ id, (data id).id = id)
    (keys : s.EventKeys (data s.nextId)) (keyed : reminderKey (data s.nextId) = some found)
    (unique : ∀ row, key row = true ↔ reminderKey row = some found) :
    s.Records [found] ((upsert key data).run s).2 := by
  rcases upsert_run key fresh named keys with
    ⟨event, among, same, ran⟩ | ⟨rows, missing, inserted, ran⟩
  · -- The reminder is there already, and the update of the upsert is empty.
    have stored : found ∈ s.reminders := List.mem_filterMap.mpr ⟨event, among, (unique event).mp same⟩
    rw [ran]
    refine ⟨rfl, rfl, fresh, id, fun other => ?_⟩
    rw [List.mem_singleton]
    constructor
    · exact .inl
    · rintro (old | rfl)
      · exact old
      · exact stored
  · -- No row has the key, so the inserted one adds it.
    have absent : ∀ other ∈ reminderKey (data s.nextId), other ∉ s.reminders := by
      intro other names among
      obtain rfl := Option.some.inj (keyed.symm.trans names)
      obtain ⟨row, member, same⟩ := List.mem_filterMap.mp among
      have other := missing row member
      rw [(unique row).mpr same] at other
      cases other
    have recorded := Store.Records.insert fresh (named s.nextId) inserted absent
    rw [keyed] at recorded
    rw [ran]
    exact recorded

/-- The round of a template whose reminder is found answers with it, and records it. -/
theorem remindTemplate_run {zone : Zone} {date : String} {template : RecurringTransactionTemplate}
    {found : Option (Int × Instant × Instant)} (planned : templateReminder zone now date template = .ok found)
    (fresh : s.FreshEvents) (known : template ∈ s.templates.rows) :
    ∃ event s', (remindTemplate zone now date template).run s = (.ok event, s') ∧
      s.Records (found.map (templateKey template)).toList s' ∧ (∀ row ∈ event, row ∈ s'.events.rows) ∧
      event.map reminderKey = (found.map (templateKey template)).map some := by
  -- Only a reminder that is found reaches the upsert.
  cases found with
  | none =>
    exact ⟨none, s, by simp [remindTemplate, planned, Except.mapError, Prog.ofExcept, Prog.run],
      .refl fresh, by simp, rfl⟩
  | some found =>
    obtain ⟨lead, occurrence, reminder⟩ := found
    -- The reminder names the template, which is there.
    have held : s.EventKeys (templateEvent template lead occurrence reminder s.nextId) := by
      have present : s.templates.find? template.id = some template := Table.find?_of_mem known
      simp [Store.EventKeys, templateEvent, present]
    -- The condition of the upsert is that the row has this very key.
    have unique : ∀ row : RecurringReminderEvent,
        (row.templateId = some template.id && row.occurrenceDate = occurrence && row.offsetDays = lead) =
          true ↔ reminderKey row = some (template.id, occurrence, lead) := by
      intro row
      cases names : row.templateId <;> simp [reminderKey, names, and_assoc]
    have recorded := upsert_records fresh (fun _ => rfl) held rfl unique
    -- The answer is the row of the key, whether it was there or not.
    obtain ⟨event, s', answered, among, own⟩ :=
      upsert_answers fresh (fun _ => rfl) held (fun row => (unique row).mp) rfl
    rw [answered] at recorded
    refine ⟨some event, s', ?_, recorded, ?_, congrArg some own⟩
    · simp only [remindTemplate, planned, Except.mapError, Prog.ofExcept, Prog.ret_bind]
      rw [Prog.run_bind, answered]
      rfl
    · intro row here
      cases here
      exact among

/-- An upsert for an instalment leaves the store alone, or inserts a reminder of no template. -/
theorem upsert_keeps (key : RecurringReminderEvent → Bool) (installment : Installment)
    (occurrence reminder : Instant) (fresh : s.FreshEvents) :
    s.Records [] ((upsert key (installmentEvent installment occurrence reminder)).run s).2 := by
  -- A bill's reminder has no template, so it adds no key.
  obtain same | ⟨rows, inserted, same⟩ := upsert_store (s := s) key
    (installmentEvent installment occurrence reminder)
  · rw [same]
    exact .refl fresh
  · rw [same]
    refine Store.Records.insert fresh rfl inserted fun _ names => ?_
    simp [reminderKey, installmentEvent] at names

/-- So does a round for it. -/
theorem remindInstallment_records (zone : Zone) (date : String) (installment : Installment)
    (fresh : s.FreshEvents) :
    s.Records [] ((remindInstallment zone now date installment).run s).2 :=
  remindInstallment_rel (fun s s' => s.FreshEvents → s.Records [] s') (fun _ => .refl)
    (fun _ _ _ _ => upsert_keeps _ _ _ _) fresh

/-- The round of an instalment whose reminder is found answers with it, and records no template's. -/
theorem remindInstallment_run {zone : Zone} {date : String} {installment : Installment}
    {found : Option (Instant × Instant)} (planned : installmentReminder zone now date installment = .ok found)
    (fresh : s.FreshEvents) (known : installment ∈ s.installments.rows) :
    ∃ event s', (remindInstallment zone now date installment).run s = (.ok event, s') ∧
      s.Records [] s' ∧ (∀ row ∈ event, row ∈ s'.events.rows) ∧
      event.map billKey = (found.map (installmentKey installment)).map some := by
  have recorded : s.Records [] ((remindInstallment zone now date installment).run s).2 :=
    remindInstallment_records zone date installment fresh
  -- Only a reminder that is found reaches the upsert.
  cases found with
  | none =>
    exact ⟨none, s, by simp [remindInstallment, planned, Except.mapError, Prog.ofExcept, Prog.run],
      .refl fresh, by simp, rfl⟩
  | some found =>
    obtain ⟨occurrence, reminder⟩ := found
    -- The reminder names the instalment, which is there.
    have held : s.EventKeys (installmentEvent installment occurrence reminder s.nextId) := by
      have present : s.installments.find? installment.id = some installment := Table.find?_of_mem known
      simp [Store.EventKeys, installmentEvent, present]
    -- The condition of the upsert is that the row has this bill.
    have unique : ∀ row : RecurringReminderEvent,
        (row.installmentId = some installment.id && row.occurrenceDate = occurrence &&
          row.offsetDays = installmentReminderOffsetDays) = true →
            billKey row = some (installment.id, occurrence, installmentReminderOffsetDays) := by
      intro row same
      simp only [Bool.and_eq_true, decide_eq_true_eq] at same
      simp [billKey, same]
    -- The answer is the row of the bill, whether it was there or not.
    obtain ⟨event, s', ran, among, own⟩ := upsert_answers fresh (fun _ => rfl) held unique rfl
    have answered : (remindInstallment zone now date installment).run s = (.ok (some event), s') := by
      simp only [remindInstallment, planned, Except.mapError, Prog.ofExcept, Prog.ret_bind]
      rw [Prog.run_bind, ran]
      rfl
    rw [answered] at recorded
    refine ⟨some event, s', answered, recorded, ?_, congrArg some own⟩
    intro row here
    cases here
    exact among

/-- A loop answers with what its rounds answer, and records what they record, while they keep a condition. -/
theorem remindEach_run {α γ : Type} {round : α → Service (Option RecurringReminderEvent)}
    {view : RecurringReminderEvent → γ} {holds : Store → Prop} {expected : α → Option γ}
    {recorded : α → Option (Id × Instant × Int)} (rows : List α) (fresh : s.FreshEvents) (start : holds s)
    (one : ∀ row ∈ rows, ∀ s' : Store, s'.templates = s.templates → s'.installments = s.installments →
      s'.FreshEvents → holds s' → ∃ event s'', (round row).run s' = (.ok event, s'') ∧
        s'.Records (recorded row).toList s'' ∧ holds s'' ∧ event.map view = expected row) :
    ∃ events s', (remindEach round rows).run s = (.ok events, s') ∧
      s.Records (rows.filterMap recorded) s' ∧ holds s' ∧ events.map view = rows.filterMap expected := by
  -- The induction follows the loop; each round keeps the rows that the later ones need.
  induction rows generalizing s with
  | nil => exact ⟨[], s, rfl, .refl fresh, start, rfl⟩
  | cons row rest ih =>
    -- The first round records its key, and the loop goes on from there.
    obtain ⟨event, s₁, answered, first, kept, own⟩ := one row List.mem_cons_self s rfl rfl fresh start
    obtain ⟨events, s₂, further, second, held, others⟩ := ih first.fresh kept
      fun other among s' templates installments => one other (List.mem_cons_of_mem _ among) s'
        (templates.trans first.templates) (installments.trans first.installments)
    refine ⟨event.toList ++ events, s₂, ?_, ?_, held, ?_⟩
    -- The answers of the rounds are put one after the other.
    · rw [remindEach, Prog.run_bind, answered]
      simp only
      rw [Prog.run_bind, further]
      rfl
    -- So are the keys that they record.
    · have both := first.trans second
      cases key : recorded row <;> simpa [key] using both
    · rw [List.map_append, others, List.filterMap_cons, ← own]
      cases event <;> rfl

/-- The first loop records the reminders that are due. -/
theorem remindEach_records {today : Int} (low : 12 * 1000 ≤ monthOf today)
    (near : monthOf today + 1 < 12 * 10000) (templates : List RecurringTransactionTemplate)
    (dated : ∀ template ∈ templates, fixed.Dated template) (fresh : s.FreshEvents)
    (known : ∀ template ∈ templates, template ∈ s.templates.rows) :
    ∃ events s', (remindEach (remindTemplate fixed.zone now (dayText today)) templates).run s =
        (.ok events, s') ∧
      s.Records (templates.filterMap fun template => fixed.dueKey template today) s' := by
  -- The day has a year of four digits, and the next month does.
  have current : FourDigit today := ⟨low, by omega⟩
  have loop : ∃ events s', (remindEach (remindTemplate fixed.zone now (dayText today)) templates).run s =
        (.ok events, s') ∧
      s.Records (templates.filterMap fun template => fixed.dueKey template today) s' ∧ True ∧
      events.map reminderKey =
        templates.filterMap fun template => (fixed.dueKey template today).map some := by
    refine remindEach_run templates fresh trivial ?_
    intro template among s₁ same _ fresh _
    -- Dates of four-digit years are handled, so every round finds what is due.
    have handled := (dated template among).handled current near
    obtain ⟨found, planned, key⟩ : ∃ found,
        templateReminder fixed.zone now (paddedText today) template = .ok found ∧
          found.map (templateKey template) = fixed.dueKey template today :=
      (FixedZone.templateReminder_due_iff current.padded).mpr handled
    rw [paddedText_eq_dayText current] at planned
    obtain ⟨event, s₂, ran, recorded, -, own⟩ :=
      remindTemplate_run planned fresh (same ▸ known template among)
    rw [key] at recorded own
    exact ⟨event, s₂, ran, recorded, trivial, own⟩
  obtain ⟨events, s', ran, recorded, -⟩ := loop
  exact ⟨events, s', ran, recorded⟩

/-- The second loop records no template's reminder, even when it fails on the way. -/
theorem remindEach_keeps (zone : Zone) (date : String) (installments : List Installment)
    (fresh : s.FreshEvents) :
    s.Records [] ((remindEach (remindInstallment zone now date) installments).run s).2 :=
  remindEach_rel (fun s s' => s.FreshEvents → s.Records [] s') (fun _ => .refl)
    (fun first second fresh => (first fresh).trans (second (first fresh).fresh))
    (fun installment _ _ => remindInstallment_records zone date installment) fresh

/-- The templates that an evaluation reads are rows of the store. -/
theorem Store.mem_of_remindedTemplates {userId : Option Id} {template : RecurringTransactionTemplate}
    (among : template ∈ s.remindedTemplates userId) : template ∈ s.templates.rows :=
  (List.mem_filter.mp among).1

/-- An evaluation records the reminders that are due on its day. -/
theorem evaluateReminders_records {today : Int} (low : 12 * 1000 ≤ monthOf today)
    (near : monthOf today + 1 < 12 * 10000) (userId : Option Id)
    (dated : ∀ template ∈ s.remindedTemplates userId, fixed.Dated template) (fresh : s.FreshEvents) :
    s.Records ((s.remindedTemplates userId).filterMap fun template => fixed.dueKey template today)
      ((evaluateReminders fixed.zone now (dayText today) userId).run s).2 := by
  -- The first loop records the keys, and the second one none.
  have loop : ∃ events s₁,
      (remindEach (remindTemplate fixed.zone now (dayText today)) (s.remindedTemplates userId)).run s =
        (.ok events, s₁) ∧
      s.Records ((s.remindedTemplates userId).filterMap fun template => fixed.dueKey template today) s₁ :=
    remindEach_records low near _ dated fresh fun _ => Store.mem_of_remindedTemplates
  obtain ⟨events, s₁, answered, first⟩ := loop
  have second : s₁.Records [] ((remindEach (remindInstallment fixed.zone now (dayText today))
      (s₁.remindedInstallments userId)).run s₁).2 :=
    remindEach_keeps fixed.zone (dayText today) _ first.fresh
  have ran : ((evaluateReminders fixed.zone now (dayText today) userId).run s).2 =
      ((remindEach (remindInstallment fixed.zone now (dayText today))
        (s₁.remindedInstallments userId)).run s₁).2 := by
    simp only [evaluateReminders, query, Prog.read_bind, Prog.ret_bind, Prog.run]
    rw [Prog.run_bind, answered]
    simp only [Prog.run, Prog.pure_eq]
    rw [Prog.run_map]
  rw [ran]
  simpa using first.trans second

end PocketMint
