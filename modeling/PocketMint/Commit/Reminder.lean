import PocketMint.Commit.Template
import PocketMint.Services.Notification
import PocketMint.Store.Evolution

/-! What the reminder engine and the notification service can write. -/

namespace PocketMint

open Prog ReminderEngine NotificationService

/-- The recording of a reminder of a template's occurrence. -/
structure TemplateReminded (zone : Zone) (now : Instant) (evaluationDate : String)
    (userId : Option Id) (template : RecurringTransactionTemplate) (offsetDays : Int)
    (occurrence reminder : Instant) (row : RecurringReminderEvent)
    (rows : Table RecurringReminderEvent) (s s' : Store) : Prop where
  read : Before Store.Later (fun s₁ => template ∈ s₁.remindedTemplates userId) s
  due : templateReminder zone now evaluationDate template = .ok (some (offsetDays, occurrence, reminder))
  absent : ∀ other ∈ s.events.rows, ¬(other.templateId = some template.id ∧
    other.occurrenceDate = occurrence ∧ other.offsetDays = offsetDays)
  shape : row = templateEvent template offsetDays occurrence reminder s.nextId
  keys : s.EventKeys row
  inserted : s.events.insert? row = some rows
  after : s' = { s with nextId := s.nextId + 1, events := rows }

/-- The recording of a reminder of an instalment's due date. -/
structure InstallmentReminded (zone : Zone) (now : Instant) (evaluationDate : String)
    (userId : Option Id) (installment : Installment) (occurrence reminder : Instant)
    (row : RecurringReminderEvent) (rows : Table RecurringReminderEvent) (s s' : Store) : Prop where
  read : Before Store.Later (fun s₁ => installment ∈ s₁.remindedInstallments userId) s
  due : installmentReminder zone now evaluationDate installment = .ok (some (occurrence, reminder))
  absent : ∀ other ∈ s.events.rows, ¬(other.installmentId = some installment.id ∧
    other.occurrenceDate = occurrence ∧ other.offsetDays = installmentReminderOffsetDays)
  shape : row = installmentEvent installment occurrence reminder s.nextId
  keys : s.EventKeys row
  inserted : s.events.insert? row = some rows
  after : s' = { s with nextId := s.nextId + 1, events := rows }

/-- A reminder exists and has not been completed. -/
def Store.Waiting (s : Store) (id : Id) : Prop :=
  ∃ event, s.events.find? id = some event ∧ event.completedAt = none

/-- A reminder was made and waits no more: it is completed, or gone. -/
def Store.Processed (s : Store) (id : Id) : Prop :=
  id < s.nextId ∧ ¬s.Waiting id

/-- The confirmation of a reminder that still waits. -/
structure ReminderConfirmed (between : Store → Store → Prop) (now : Instant) (seen : List Store)
    (input : ConfirmReminderInput) (existing : NotificationWithTemplate) (template : TemplateRef)
    (categoryId : Id) (amount : Decimal) (row : Transaction) (rows : Table Transaction)
    (s s' : Store) : Prop where
  read : ∃ s₁, seen.head? = some s₁ ∧ between s₁ s ∧
    (s₁.ownEvent input.id input.userId).map s₁.includeEvent = some existing
  recurring : existing.event.installmentId = none
  sourced : existing.template = some template
  categorized : template.categoryId = some categoryId
  wallet : WalletRead between input.userId template.walletId s
  category : CategoryOwned between input.userId categoryId s
  valued : confirmedAmount template input.amount = .ok (.finite amount)
  posted : template.type ≠ .transfer
  waiting : ∃ event, s.ownEvent input.id input.userId = some event ∧ event.completedAt = none
  shape : row = confirmedRow now input template categoryId amount s.nextId
  keys : s.TransactionKeys row
  inserted : s.transactions.insert? row = some rows
  after : s' = Store.credit
    { s with
      nextId := s.nextId + 1
      transactions := rows
      events := s.events.update input.id fun event =>
        { event with completedAt := some now, generatedTransactionId := some row.id } }
    (plainDeltas row.type row.amount row.walletId row.toWalletId)

/-- The marking of a reminder as read. -/
structure EventRead (between : Store → Store → Prop) (now : Instant)
    (input : MarkNotificationReadInput) (s s' : Store) : Prop where
  owned : Before between (fun s₁ => (s₁.ownEvent input.id input.userId).isSome) s
  found : (s.events.find? input.id).isSome
  after : s' = { s with
    events := s.events.update input.id fun event => { event with readAt := some now } }

/-- A reminder that was processed stays processed. -/
theorem Store.Evolves.processed {s s' : Store} (evolves : s.Evolves s') {id : Id}
    (processed : s.Processed id) : s'.Processed id := by
  -- The counter only grows.
  refine ⟨processed.1.trans_le evolves.nextId, ?_⟩
  rintro ⟨event, found, waits⟩
  -- The reminder was there before, and completed then.
  obtain ⟨before, here, _, _, _, _, _, kept⟩ := evolves.events.find? processed.1 found
  refine processed.2 ⟨before, here, Option.eq_none_iff_forall_ne_some.mpr fun instant same => ?_⟩
  rw [kept instant same] at waits
  cases waits

section Engine

variable {rely : Store → Store → Prop} {guar : List Store → Store → Store → Prop}
  {history : List Store} {s : Store}

/-- An upsert leaves the store alone, or inserts its row where no row has the unique key. -/
theorem upsert_sat (relies : ∀ {s s'}, rely s s' → s.Numbered → s.Later s') (started : s.Numbered)
    {key : RecurringReminderEvent → Bool} {data : Id → RecurringReminderEvent}
    (named : ∀ id, (data id).id = id) (still : ∀ history s, guar history s s)
    (inserts : ∀ history s' rows, s.Later s' → (∀ other ∈ s'.events.rows, key other = false) →
      s'.EventKeys (data s'.nextId) → s'.events.insert? (data s'.nextId) = some rows →
      guar history s' { s' with nextId := s'.nextId + 1, events := rows }) :
    (upsert key data).Sat rely guar (fun _ _ s' => s.Later s') history s := by
  unfold upsert
  refine sat_commit (fun s' _ => still _ s') fun s' value after moved done => ?_
  -- A reminder of the key is left as it is, and otherwise one is inserted.
  cases taken : s'.events.rows.find? key with
  -- The row that is found is answered, and the store is as it was.
  | some event =>
    obtain ⟨-, rfl⟩ := by simpa [taken] using done
    exact ⟨still _ _, relies moved started⟩
  | none =>
    -- No row has the key in the store at the write, so the insertion is the first.
    simp only [taken] at done
    obtain ⟨rfl, keys, rows, inserted, rfl⟩ := Tx.createEvent_ok.mp done
    have later := relies moved started
    refine ⟨inserts _ s' rows later (fun other among => ?_) keys inserted,
      later.started, later.numbered.insertEvent (named _) inserted,
      later.evolves.trans (.insertEvent (named _) inserted)⟩
    -- Each row fails the key, because the search found none.
    simpa using List.find?_eq_none.mp taken other among

/-- A loop of rounds keeps what its rounds keep, as long as each row stays known. -/
theorem remindEach_sat {α : Type} {round : α → Service (Option RecurringReminderEvent)}
    (known : α → Store → Prop) (later : ∀ row s s', known row s → s.Later s' → known row s')
    (one : ∀ row history s, s.Numbered → known row s →
      (round row).Sat rely guar (fun _ _ s' => s.Later s') history s)
    (rows : List α) (started : s.Numbered) (read : ∀ row ∈ rows, known row s) :
    (remindEach round rows).Sat rely guar (fun _ _ s' => s.Later s') history s := by
  induction rows generalizing history s with unfold remindEach
  -- No row is left to remind of.
  | nil => exact sat_ret.mpr ⟨started, started, .refl s⟩
  | cons row rest ih =>
    -- The round of the first row comes before the others, and what they rely on is still known.
    refine sat_seq (one row history s started (read row List.mem_cons_self)) fun _ _ s₁ moved => ?_
    refine sat_seq (ih moved.numbered fun other among => ?_) fun _ _ s₂ further =>
      sat_ret.mpr (moved.trans further)
    exact later other s s₁ (read other (List.mem_cons_of_mem _ among)) moved

/-- The writes of an evaluation of reminders. -/
def Reminded (zone : Zone) (now : Instant) (evaluationDate : String) (userId : Option Id)
    (s s' : Store) : Prop :=
  (∃ template offsetDays occurrence reminder row rows, TemplateReminded zone now evaluationDate userId
    template offsetDays occurrence reminder row rows s s') ∨
  ∃ installment occurrence reminder row rows, InstallmentReminded zone now evaluationDate userId
    installment occurrence reminder row rows s s'

/-- The round for a template that was read records its reminder or nothing. -/
theorem remindTemplate_sat (relies : ∀ {s s'}, rely s s' → s.Numbered → s.Later s')
    (started : s.Numbered) {zone : Zone}
    {now : Instant} {evaluationDate : String} {userId : Option Id}
    {template : RecurringTransactionTemplate}
    (read : Before Store.Later (fun s₁ => template ∈ s₁.remindedTemplates userId) s) :
    (remindTemplate zone now evaluationDate template).Sat rely
      (fun _ s s' => s' = s ∨ Reminded zone now evaluationDate userId s s')
      (fun _ _ s' => s.Later s') history s := by
  -- The date is computed from the template that was read, before the store is touched.
  unfold remindTemplate
  refine sat_ofExcept_bind fun due computed => ?_
  cases due with
  -- Nothing is due.
  | none => exact sat_ret.mpr ⟨started, started, .refl s⟩
  | some found =>
    obtain ⟨offsetDays, occurrence, reminder⟩ := found
    refine sat_seq (upsert_sat relies started (fun _ => rfl) (fun _ _ => .inl rfl) ?_)
      fun _ _ _ moved => sat_ret.mpr moved
    -- What was read of the template still holds of the store in which the upsert runs.
    intro _ s' rows moved absent keys inserted
    refine .inr (.inl ⟨template, offsetDays, occurrence, reminder, _, rows,
      read.later Store.Later.trans moved, mapError_ok.mp computed, fun other among same => ?_, rfl,
      keys, inserted, rfl⟩)
    simpa [same] using absent other among

/-- The round for an instalment that was read records its reminder or nothing. -/
theorem remindInstallment_sat (relies : ∀ {s s'}, rely s s' → s.Numbered → s.Later s')
    (started : s.Numbered) {zone : Zone}
    {now : Instant} {evaluationDate : String} {userId : Option Id} {installment : Installment}
    (read : Before Store.Later (fun s₁ => installment ∈ s₁.remindedInstallments userId) s) :
    (remindInstallment zone now evaluationDate installment).Sat rely
      (fun _ s s' => s' = s ∨ Reminded zone now evaluationDate userId s s')
      (fun _ _ s' => s.Later s') history s := by
  unfold remindInstallment
  refine sat_ofExcept_bind fun due computed => ?_
  -- As for a template, the reminder is computed first and upserted after.
  cases due with
  | none => exact sat_ret.mpr ⟨started, started, .refl s⟩
  | some found =>
    obtain ⟨occurrence, reminder⟩ := found
    refine sat_seq (upsert_sat relies started (fun _ => rfl) (fun _ _ => .inl rfl) ?_)
      fun _ _ _ moved => sat_ret.mpr moved
    -- What was read of the plan still holds at the write.
    intro _ s' rows moved absent keys inserted
    refine .inr (.inr ⟨installment, occurrence, reminder, _, rows,
      read.later Store.Later.trans moved, mapError_ok.mp computed, fun other among same => ?_, rfl,
      keys, inserted, rfl⟩)
    simpa [same] using absent other among

/-- Evaluating reminders writes nothing but reminders that are due and missing. -/
theorem evaluateReminders_sat (relies : ∀ {s s'}, rely s s' → s.Numbered → s.Later s')
    (started : s.Numbered) {zone : Zone} {now : Instant} {evaluationDate : String} {userId : Option Id} :
    (evaluateReminders zone now evaluationDate userId).Sat rely
      (fun _ s s' => s' = s ∨ Reminded zone now evaluationDate userId s s')
      (fun _ _ _ => True) history s := by
  unfold evaluateReminders
  -- The two reads and the two loops follow each other, and each loop relies on its own read.
  refine sat_query_bind fun s₁ moved₁ => ?_
  -- The counter is past every row in the store of the first read.
  have first := (relies moved₁ started).numbered
  refine sat_seq (remindEach_sat _ (fun _ _ _ read moved => read.later Store.Later.trans moved)
    (fun template _ _ numbered read => remindTemplate_sat relies numbered read) _ first
    fun template among => ⟨s₁, ⟨first, first, .refl s₁⟩, among⟩) fun _ _ s₂ moved₂ => ?_
  refine sat_query_bind fun s₃ moved₃ => ?_
  -- And in the store of the second one.
  have second := (relies moved₃ moved₂.numbered).numbered
  exact sat_seq (remindEach_sat _ (fun _ _ _ read moved => read.later Store.Later.trans moved)
    (fun installment _ _ numbered read => remindInstallment_sat relies numbered read) _ second
    fun installment among => ⟨s₃, ⟨second, second, .refl s₃⟩, among⟩) fun _ _ _ _ => sat_ret.mpr trivial

end Engine

section Notification

variable {between : Store → Store → Prop} {s : Store}

/-- Marking a reminder as read writes nothing but that mark. -/
theorem markNotificationRead_sat {now : Instant} {input : MarkNotificationReadInput}
    {history : List Store} :
    (markNotificationRead now input).Sat between
      (fun _ s s' => s' = s ∨ EventRead between now input s s') (fun _ _ _ => True) history s := by
  unfold markNotificationRead
  refine sat_query_bind fun s₁ _ => sat_orThrow_bind fun existing found => ?_
  -- A reminder that is read already is read again, and not written.
  split
  -- It may have been deleted between the two reads.
  · refine sat_query_bind fun s₂ _ => ?_
    unfold orThrow
    split
    · exact sat_ret.mpr trivial
    · exact sat_fail
  · refine sat_commit (fun _ _ => .inl rfl) fun s' _ after moved done => ⟨.inr ?_, trivial⟩
    -- The update must find the row, and then the row is read back.
    obtain ⟨_, s₂, updated, done⟩ := Tx.bind_ok.mp done
    obtain ⟨row, present, -, -, rfl⟩ := Tx.updateEvent_ok.mp updated
    obtain ⟨-, rfl⟩ := Tx.view_ok.mp done
    exact ⟨⟨s₁, moved, by simp [found]⟩, by simp [present], rfl⟩

/-- The guarded completion affects one row, which waits, or none. -/
theorem completeEvent_ok {now : Instant} {input : ConfirmReminderInput} {transactionId : Id}
    {count : Nat} {after : Store}
    (done : completeEvent now input transactionId s = .ok (count, after)) :
    (count = 0 ∧ after = s) ∨ (count = 1 ∧
      (∃ event, s.ownEvent input.id input.userId = some event ∧ event.completedAt = none) ∧
      after = { s with
        events := s.events.update input.id fun event =>
          { event with completedAt := some now, generatedTransactionId := some transactionId } }) := by
  unfold completeEvent at done
  -- The condition of the update decides, and it changes one row or none.
  cases waits : (s.ownEvent input.id input.userId).filter fun row => row.completedAt = none with
  -- The reminder is not the user's or was completed before, so no row changes.
  | none =>
    simp only [waits, Except.ok.injEq, Prod.mk.injEq] at done
    exact .inl ⟨done.1.symm, done.2.symm⟩
  | some event =>
    simp only [waits, Except.ok.injEq, Prod.mk.injEq] at done
    -- It was waiting, and it is completed now.
    obtain ⟨own, waiting⟩ := Option.filter_eq_some_iff.mp waits
    exact .inr ⟨done.1.symm, ⟨event, own, of_decide_eq_true waiting⟩, done.2.symm⟩

/-- The write of a confirmation needs the reminder to wait, and completes it. -/
theorem writeConfirm_ok {now : Instant} {input : ConfirmReminderInput} {template : TemplateRef}
    {categoryId : Id} {amount : Decimal} {value : ConfirmReminderResult} {after : Store}
    (done : (writeConfirm now input template categoryId amount) s = .ok (value, after)) :
    ∃ row rows, row = confirmedRow now input template categoryId amount s.nextId ∧
      template.type ≠ .transfer ∧
      (∃ event, s.ownEvent input.id input.userId = some event ∧ event.completedAt = none) ∧
      s.TransactionKeys row ∧ s.transactions.insert? row = some rows ∧
      value.transaction.transaction = row ∧
      after = Store.credit
        { s with
          nextId := s.nextId + 1
          transactions := rows
          events := s.events.update input.id fun event =>
            { event with completedAt := some now, generatedTransactionId := some row.id } }
        (plainDeltas row.type row.amount row.walletId row.toWalletId) := by
  -- The steps are the insert, the deltas and the conditional update, which must change a row.
  obtain ⟨row, s₁, created, done⟩ := Tx.bind_ok.mp done
  obtain ⟨rfl, keys, rows, inserted, rfl⟩ := Tx.createTransaction_ok.mp created
  obtain ⟨_, s₂, viewed, done⟩ := Tx.bind_ok.mp done
  obtain ⟨rfl, rfl⟩ := Tx.view_ok.mp viewed
  obtain ⟨effect, s₃, lifted, done⟩ := Tx.bind_ok.mp done
  obtain ⟨computed, rfl⟩ := Tx.lift_ok.mp lifted
  obtain ⟨posted, rfl⟩ := computeBalanceEffect_ok.mp computed
  obtain ⟨_, s₄, applied, done⟩ := Tx.bind_ok.mp done
  obtain ⟨-, rfl⟩ := applyBalanceDeltas_ok.mp applied
  obtain ⟨count, s₅, completed, done⟩ := Tx.bind_ok.mp done
  obtain ⟨rfl, -⟩ | ⟨rfl, waiting, rfl⟩ := completeEvent_ok completed
  -- A count of zero takes everything back.
  · simp at done
  · simp only [Nat.one_ne_zero, if_false] at done
    obtain ⟨again, s₆, reread, done⟩ := Tx.bind_ok.mp done
    obtain ⟨-, rfl⟩ := Tx.view_ok.mp reread
    cases again with
    -- The reminder was updated in the same transaction, so it is there.
    | none => simp at done
    | some notification =>
      obtain ⟨rfl, rfl⟩ := Tx.pure_ok.mp done
      have notTransfer : template.type ≠ .transfer := fun transfer => by simpa using posted transfer
      exact ⟨_, rows, rfl, notTransfer, waiting, keys, inserted, rfl, rfl⟩

/-- A confirmation answers only from a store where its reminder waits, which then waits no more. -/
def ConfirmAnswered (id : Id) (history : List Store) (s : Store) : Prop :=
  (∃ s₀, history.getLast? = some s₀ ∧ s₀.Waiting id) ∧ s.Processed id

/-- The writes of a confirmation. -/
def ConfirmWrites (between : Store → Store → Prop) (now : Instant) (input : ConfirmReminderInput)
    (seen : List Store) (s s' : Store) : Prop :=
  ∃ existing template categoryId amount row rows,
    ReminderConfirmed between now seen input existing template categoryId amount row rows s s'

/-- Confirming a reminder writes nothing but its transaction and its completion. -/
theorem confirmReminder_sat (reading : Reading between) (started : s.Numbered) {now : Instant}
    {input : ConfirmReminderInput} :
    (confirmReminder now input).Sat between
      (fun seen s s' => s' = s ∨ ConfirmWrites between now input seen s s')
      (fun answer history s => ConfirmAnswered input.id history s ∧
        Wrote (ConfirmWrites between now input) none answer.transaction.transaction history s)
      [] s := by
  have chain := @reading.chain
  unfold confirmReminder
  -- Three reads come before the write, and each leaves the store that it saw.
  refine sat_query_bind fun s₁ moved₁ => sat_orThrow_bind fun existing found => ?_
  refine sat_throwIf_bind fun waited => sat_throwIf_bind fun recurring => ?_
  refine sat_orThrow_bind fun template sourced => sat_ofExcept_bind fun number valued => ?_
  refine sat_query_bind fun s₂ moved₂ => sat_orThrow_bind fun wallet foundWallet => ?_
  refine sat_orThrow_bind fun categoryId categorized => ?_
  refine sat_query_bind fun s₃ moved₃ => sat_orThrow_bind fun category foundCategory => ?_
  refine sat_ofExcept_bind fun amount column => ?_
  refine sat_commit (fun _ _ => .inl rfl) fun s' _ after moved done => ?_
  -- What the write has done is one commit, which refers to the stores of the reads.
  obtain ⟨row, rows, shape, posted, waiting, keys, inserted, answered, rfl⟩ := writeConfirm_ok done
  obtain rfl := columnValue_ok.mp column
  -- The write refers to the stores of the three reads, the reminder in the first of them.
  have writes : ConfirmWrites between now input [s₁, s₂, s₃] s' _ :=
    ⟨existing, template, categoryId, amount, row, rows,
      ⟨s₁, rfl, chain moved₂ (chain moved₃ moved), found⟩, by simpa using recurring, sourced,
      categorized, ⟨s₂, chain moved₃ moved, by simp [foundWallet]⟩,
      ⟨s₃, moved, by simp [foundCategory]⟩, valued, posted, waiting, shape, keys, inserted, rfl⟩
  rw [answered]
  refine ⟨.inr writes, ?_, .now writes (.insert inserted rfl)⟩
  · -- The reminder waited at the write, and it is completed after it.
    obtain ⟨event, own, waits⟩ := waiting
    obtain ⟨present, -⟩ := Store.ownEvent_eq_some.mp own
    -- The counter is past the reminder, so no new row can take its place.
    have numbered := (reading.numbered (chain moved₁ (chain moved₂ (chain moved₃ moved)))).mp started
    refine ⟨⟨s', by simp, event, present, waits⟩,
      (numbered.events.find? present).trans (Nat.lt_succ_self _), ?_⟩
    -- The reminder that is found after the write has an instant of completion.
    rintro ⟨later, foundLater, waitsLater⟩
    obtain rfl := by simpa [Store.credit, present] using foundLater
    simp at waitsLater

end Notification

end PocketMint
