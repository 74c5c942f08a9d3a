import PocketMint.Invariant.SeenSchedules
import PocketMint.Services.ReminderRuns
import PocketMint.Services.Category
import PocketMint.Services.Notification
import PocketMint.Services.WalletQuery

/-! Reminders are recorded and answered for a user as they would be where only that user's rows are. -/

namespace PocketMint

open Prog

section Notifications

open NotificationService

variable {s : Store} {userId id : Id} {now : Instant}

/-- A reminder of the user, joined with its template and instalment, is the same in both. -/
theorem Store.Linked.event (linked : s.Linked) {row : RecurringReminderEvent}
    (own : s.ownEvent id userId = some row) :
    row.userId = userId ∧ s.EventLinks row ∧ (s.seenBy userId).includeEvent row = s.includeEvent row := by
  obtain ⟨found, user⟩ := Store.ownEvent_eq_some.mp own
  have links := linked.events row (Table.mem_of_find? found)
  exact ⟨user, links, Store.includeEvent_seenBy linked.installments links.1 links.2.1 user⟩

theorem Tx.local_updateEvent {rewrite : RecurringReminderEvent → RecurringReminderEvent}
    {keeps : ∀ row, (rewrite row).id = row.id} (user : ∀ row, (rewrite row).userId = row.userId)
    (own : (s.ownEvent id userId).isSome)
    (links : ∀ row, s.ownEvent id userId = some row → s.EventLinks (rewrite row)) :
    Tx.Local userId (Tx.updateEvent id rewrite keeps) s := by
  -- The reminder is the user's, and it stays so when it is rewritten.
  refine Tx.local_modify (Store.event_seenBy own) ?_ fun row found => ?_
  · apply Store.ext <;> first | rfl | skip
    exact Table.filter_updated rfl rfl fun row => by rw [user row]
  · obtain ⟨other, owned⟩ := Option.isSome_iff_exists.mp own
    rcases Store.ownEvent_eq_some.mp owned with ⟨found', mine⟩
    obtain rfl : row = other := Option.some.inj (found.symm.trans found')
    exact Store.eventKeys_seenBy (links row owned) ((user row).trans mine)

theorem markNotificationRead_local {input : MarkNotificationReadInput} (sound : s.Intact) :
    (markNotificationRead now input).Local (Store.seenBy input.userId) s := by
  unfold markNotificationRead
  refine local_query_bind Store.ownEvent_seenBy (local_orThrow_bind fun existing own => ?_)
  -- What the answer joins to the reminder is seen by the user as well.
  obtain ⟨user, links, joined⟩ := sound.linked.event own
  have found := (Store.ownEvent_eq_some.mp own).1
  have present : (s.ownEvent input.id input.userId).isSome := by rw [own]; rfl
  split
  -- A reminder that is read already is read once more.
  · refine local_query_bind (by rw [Store.event_seenBy present, found]; exact congrArg some joined) ?_
    rw [found]
    exact local_ret _
  -- Otherwise it is marked, and its links are as before.
  · refine Tx.local_commit (Tx.local_bind (Tx.local_updateEvent (fun _ => rfl) present fun row own' => ?_)
      fun updated s₁ done => ?_)
    · obtain rfl : existing = row := Option.some.inj (own.symm.trans own')
      exact links
    · obtain ⟨row, here, _, rfl, rfl⟩ := Tx.updateEvent_ok.mp done
      obtain rfl : existing = row := Option.some.inj (found.symm.trans here)
      exact Tx.local_view (Store.includeEvent_seenBy
        (s := { s with events := _ }) sound.linked.installments links.1
        links.2.1 user)

theorem completeEvent_local {input : ConfirmReminderInput} {transactionId : Id} :
    Tx.Local input.userId (completeEvent now input transactionId) s := by
  -- The condition of the update reads a reminder of the user.
  unfold Tx.Local completeEvent
  rw [Store.ownEvent_seenBy]
  cases (s.ownEvent input.id input.userId).filter fun row => row.completedAt = none with
  | none => rfl
  | some row =>
    simp only [Except.map, Except.ok.injEq, Prod.mk.injEq, true_and]
    apply Store.ext <;> first | rfl | skip
    symm
    exact Table.filter_updated rfl rfl fun row => rfl

theorem writeConfirm_local {input : ConfirmReminderInput} {template : TemplateRef}
    {categoryId : Id} {amount : Decimal}
    {event : RecurringReminderEvent} (sound : s.Intact) (own : s.ownEvent input.id input.userId = some event)
    (wallet : (s.ownWallet template.walletId input.userId).isSome)
    (category : (s.ownCategory categoryId input.userId).isSome) :
    Tx.Local input.userId (writeConfirm now input template categoryId amount) s := by
  -- The posting names the wallet and the category of the template, which are the user's.
  have links : s.TransactionLinks (confirmedRow now input template categoryId amount s.nextId) := by
    refine ⟨wallet, ?_, ?_, ?_⟩
    · intro id named
      cases named
    · intro id named
      obtain rfl : categoryId = id := Option.some.inj named
      exact category
    · intro id named
      cases named
  unfold writeConfirm
  -- The posting is booked, its wallet is credited and the reminder is completed.
  refine Tx.local_post sound.numbered rfl rfl links fun rows transaction inserted => ?_
  refine Tx.local_movement (effect_own wallet fun id named => by cases named) fun deltas => ?_
  refine Tx.local_bind completeEvent_local fun count s₁ done => ?_
  split
  · exact Tx.local_refuse _
  · rename_i completed
    obtain ⟨found, user⟩ := Store.ownEvent_eq_some.mp own
    have before := sound.linked.events event (Table.mem_of_find? found)
    -- The reminder that was completed names the template and the instalment it named before.
    have retains := Store.Retains.credit { s with nextId := s.nextId + 1, transactions := rows } deltas
    have installments := fun row member => retains.wallets (sound.linked.installments row member)
    -- The update has changed this one reminder.
    have after : s₁ = { ({ s with nextId := s.nextId + 1, transactions := rows } : Store).credit deltas with
        events := s.events.update input.id fun row =>
          { row with completedAt := some now, generatedTransactionId := some s.nextId } } := by
      unfold completeEvent at done
      split at done
      · obtain ⟨rfl, -⟩ := Prod.mk.inj (Except.ok.inj done)
        exact absurd rfl completed
      · exact (Prod.mk.inj (Except.ok.inj done)).2.symm
    have here : s₁.events.find? input.id =
        some { event with completedAt := some now, generatedTransactionId := some s.nextId } := by
      rw [after]
      simp [found]
    -- It is read back, with the template and the instalment that it names.
    have present : (s₁.ownEvent input.id input.userId).isSome := by
      simp [Store.ownEvent, here, user]
    refine Tx.local_bind (Tx.local_view ?_) fun included _ _ => ?_
    · rw [Store.event_seenBy present, here]
      refine congrArg some ?_
      subst after
      exact Store.includeEvent_seenBy installments before.1 before.2.1 user
    · cases included with
      | none => exact Tx.local_refuse _
      | some notification => exact Tx.local_pure _

theorem confirmReminder_local {input : ConfirmReminderInput} (sound : s.Intact) :
    (confirmReminder now input).Local (Store.seenBy input.userId) s := by
  unfold confirmReminder
  refine local_query_bind ?_ (local_orThrow_bind fun existing found => ?_)
  -- The reminder that is read comes with its template and its instalment.
  · rw [Store.ownEvent_seenBy]
    cases own : s.ownEvent input.id input.userId with
    | none => rfl
    | some row => exact congrArg some (sound.linked.event own).2.2
  · obtain ⟨event, own, rfl⟩ := Option.map_eq_some_iff.mp found
    -- The checks look at what was read.
    refine local_throwIf_bind fun _ => local_throwIf_bind fun _ => local_orThrow_bind fun template _ => ?_
    refine local_ofExcept_bind fun _ _ => local_query_bind Store.ownWallet_seenBy ?_
    -- The wallet and the category are read for the user.
    refine local_orThrow_bind fun wallet owned => local_orThrow_bind fun categoryId _ => ?_
    refine local_query_bind Store.ownCategory_seenBy (local_orThrow_bind fun category owned' => ?_)
    exact local_ofExcept_bind fun _ _ => Tx.local_commit (writeConfirm_local sound own
      (Option.isSome_iff_exists.mpr ⟨wallet, owned⟩) (Option.isSome_iff_exists.mpr ⟨category, owned'⟩))

end Notifications

/-! The reminder engine, for one user. -/

section Engine

open ReminderEngine

/-- A sound store with the templates and the instalments that the engine has read from another. -/
structure Store.Reminding (t s : Store) : Prop where
  sound : s.Intact
  templates : s.templates = t.templates
  installments : s.installments = t.installments

variable {t : Store} {userId : Id} {zone : Zone} {now : Instant} {evaluationDate : String}

/-- A reminder is found among the user's, or recorded there. -/
theorem upsert_confined {key : RecurringReminderEvent → Bool} {data : Id → RecurringReminderEvent}
    (named : ∀ id, (data id).id = id) (user : ∀ id, (data id).userId = userId)
    (links : ∀ s, t.Reminding s → ∀ id, s.EventLinks (data id))
    (mine : ∀ s, t.Reminding s → ∀ row ∈ s.events.rows, key row → row.userId = userId) :
    Confined (Store.seenBy userId) t.Reminding (upsert key data) := by
  intro s held
  -- A row of the key is the user's, so the search has the same outcome among the user's rows.
  have among : (s.seenBy userId).events.rows.find? key = s.events.rows.find? key :=
    find?_among fun row member wanted => by simpa using mine s held row member wanted
  constructor
  · refine Tx.local_commit ?_
    simp only [Tx.Local, among]
    cases s.events.rows.find? key with
    | some event => rfl
    | none => exact Tx.local_createEvent held.sound.numbered (named _) (user _) (links s held _)
  · -- A new reminder is linked, and changes neither templates nor instalments.
    -- The store is as it was, or one reminder more.
    rcases upsert_store (s := s) key data with same | ⟨rows, inserted, same⟩
    · rw [same]
      exact held
    · rw [same]
      refine ⟨⟨?_, held.sound.numbered.insertEvent (named _) inserted⟩, held.templates, held.installments⟩
      refine Store.Retains.linked {} held.sound.linked { events := fun other member => ?_ }
      obtain old | rfl := (Table.mem_insert inserted).mp member
      · exact .inl old
      · exact .inr (links s held _)

theorem remindTemplate_confined {template : RecurringTransactionTemplate}
    (listed : template ∈ t.templates.rows)
    (user : template.userId = userId) :
    Confined (Store.seenBy userId) t.Reminding (remindTemplate zone now evaluationDate template) := by
  unfold remindTemplate
  refine Confined.bind (.ofExcept _) fun due => ?_
  cases due with
  | none => exact .ret none
  | some found =>
    obtain ⟨offsetDays, occurrence, reminder⟩ := found
    -- The template is still the user's in the store of the write.
    have own : ∀ s, t.Reminding s → s.ownTemplate template.id userId = some template := fun s held =>
      Store.ownTemplate_eq_some.mpr ⟨held.templates ▸ Table.find?_of_mem listed, user⟩
    refine Confined.bind (upsert_confined (fun _ => rfl) (fun _ => user) (fun s held id => ?_)
      fun s held row member wanted => ?_) fun event => .ret _
    -- The reminder names the template, and nothing else.
    · refine ⟨?_, ?_, ?_⟩
      · intro other named
        obtain rfl : template.id = other := Option.some.inj named
        show (s.ownTemplate template.id template.userId).isSome
        rw [user, own s held]
        rfl
      · intro other named
        cases named
      · intro other named
        cases named
    · -- A reminder of the template is of the template's user.
      simp only [Bool.and_eq_true, decide_eq_true_eq] at wanted
      obtain ⟨other, owned⟩ := Option.isSome_iff_exists.mp
        ((held.sound.linked.events row member).1 _ wanted.1.1)
      obtain ⟨found, mine⟩ := Store.ownTemplate_eq_some.mp owned
      obtain rfl := Option.some.inj ((Store.ownTemplate_eq_some.mp (own s held)).1.symm.trans found)
      exact mine.symm.trans user

theorem remindInstallment_confined {installment : Installment} (listed : installment ∈ t.installments.rows)
    (user : installment.userId = userId) :
    Confined (Store.seenBy userId) t.Reminding (remindInstallment zone now evaluationDate installment) := by
  unfold remindInstallment
  refine Confined.bind (.ofExcept _) fun due => ?_
  cases due with
  | none => exact .ret none
  | some found =>
    obtain ⟨occurrence, reminder⟩ := found
    -- The instalment is still the user's in the store of the write.
    have own : ∀ s, t.Reminding s → s.ownInstallment installment.id userId = some installment := fun s held =>
      Store.ownInstallment_eq_some.mpr ⟨held.installments ▸ Table.find?_of_mem listed, user⟩
    refine Confined.bind (upsert_confined (fun _ => rfl) (fun _ => user) (fun s held id => ?_)
      fun s held row member wanted => ?_) fun event => .ret _
    -- The reminder names the instalment, and nothing else.
    · refine ⟨?_, ?_, ?_⟩
      · intro other named
        cases named
      · intro other named
        obtain rfl : installment.id = other := Option.some.inj named
        show (s.ownInstallment installment.id installment.userId).isSome
        rw [user, own s held]
        rfl
      · intro other named
        cases named
    -- A reminder of the instalment is of the user of the instalment.
    · simp only [Bool.and_eq_true, decide_eq_true_eq] at wanted
      obtain ⟨other, owned⟩ := Option.isSome_iff_exists.mp
        ((held.sound.linked.events row member).2.1 _ wanted.1.1)
      obtain ⟨found, mine⟩ := Store.ownInstallment_eq_some.mp owned
      obtain rfl := Option.some.inj ((Store.ownInstallment_eq_some.mp (own s held)).1.symm.trans found)
      exact mine.symm.trans user

/-- A loop is confined when each of its rounds is. -/
theorem remindEach_confined {α : Type} {round : α → Service (Option RecurringReminderEvent)} {rows : List α}
    (one : ∀ row ∈ rows, Confined (Store.seenBy userId) t.Reminding (round row)) :
    Confined (Store.seenBy userId) t.Reminding (remindEach round rows) := by
  induction rows with
  | nil => exact .ret []
  | cons row rest ih =>
    -- The first round keeps what the other rounds rely on.
    refine Confined.bind (one row List.mem_cons_self) fun event => ?_
    exact Confined.bind (ih fun other among => one other (List.mem_cons_of_mem _ among)) fun events => .ret _

theorem evaluateReminders_local {s : Store} (sound : s.Intact) :
    (evaluateReminders zone now evaluationDate (some userId)).Local (Store.seenBy userId) s := by
  -- The rows the loops run over are the user's.
  have templates : ∀ row ∈ s.remindedTemplates (some userId), row ∈ s.templates.rows ∧
      row.userId = userId := by
    intro row listed
    obtain ⟨member, asked⟩ := List.mem_filter.mp listed
    simp only [Bool.and_eq_true, Option.all_some, decide_eq_true_eq] at asked
    exact ⟨member, asked.2⟩
  unfold evaluateReminders
  refine local_query_bind ?_ ?_
  -- The user sees the same templates.
  · simp only [Store.remindedTemplates, Store.seenBy, Store.rowsOf, Table.rows_filter, List.filter_filter]
    refine List.filter_congr fun row _ => ?_
    simp
  -- The first loop runs over them.
  have first : Confined (Store.seenBy userId) s.Reminding
      (remindEach (remindTemplate zone now evaluationDate) (s.remindedTemplates (some userId))) :=
    remindEach_confined fun row listed =>
      remindTemplate_confined (templates row listed).1 (templates row listed).2
  obtain ⟨here, kept⟩ := first s ⟨sound, rfl, rfl⟩
  refine local_seq here fun events s₁ ran => ?_
  rw [ran] at kept
  -- It has left the instalments, so those are the user's as well.
  have installments : ∀ row ∈ s₁.remindedInstallments (some userId),
      row ∈ s.installments.rows ∧ row.userId = userId := by
    intro row listed
    obtain ⟨member, asked⟩ := List.mem_filter.mp listed
    simp only [Bool.and_eq_true, Option.all_some, decide_eq_true_eq] at asked
    exact ⟨kept.installments ▸ member, asked.2⟩
  refine local_query_bind ?_ ?_
  · simp only [Store.remindedInstallments, Store.seenBy, Store.rowsOf, Table.rows_filter, List.filter_filter]
    refine List.filter_congr fun row _ => ?_
    simp
  -- The second loop runs over them.
  have second : Confined (Store.seenBy userId) s.Reminding
      (remindEach (remindInstallment zone now evaluationDate) (s₁.remindedInstallments (some userId))) :=
    remindEach_confined fun row listed =>
      remindInstallment_confined (installments row listed).1 (installments row listed).2
  exact local_seq (second s₁ kept).1 fun _ _ _ => local_ret _

end Engine

end PocketMint
