import PocketMint.Commit.Transaction
import PocketMint.Services.RecurringTransaction

/-! What the recurring transaction service's requests can write. -/

namespace PocketMint

open Prog RecurringTransactionService

/-- A category was read as the user's. -/
def CategoryOwned (between : Store → Store → Prop) (userId categoryId : Id) (s : Store) : Prop :=
  Before between (fun s₁ => (s₁.ownCategory categoryId userId).isSome) s

/-- What the service has checked of a template's mode, amount, dates and reminder. -/
structure TemplateChecked (amountMode : RecurringAmountMode) (amount : Option Decimal)
    (startDate : Instant) (endDate : Option Instant) (reminder : Bool × Option Int) : Prop where
  fixed : amountMode = .fixed → ∃ value, amount = some value ∧ 0 < value
  flexible : amountMode = .flexible → amount = none
  ordered : ∀ last ∈ endDate, startDate ≤ last
  disabled : reminder.1 = false → reminder.2 = none
  enabled : reminder.1 = true → ∃ days ∈ validReminderOffsetDays, reminder.2 = some days

/-- The creation of a template. -/
structure TemplateCreated (between : Store → Store → Prop) (input : CreateRecurringTransactionInput)
    (walletId : Id) (type : RecurringTransactionType) (amountMode : RecurringAmountMode)
    (amount : Option Decimal) (frequency : RecurrenceFrequency) (startDate : Instant)
    (endDate : Option Instant) (reminder : Bool × Option Int) (row : RecurringTransactionTemplate)
    (rows : Table RecurringTransactionTemplate) (s s' : Store) : Prop where
  checked : TemplateChecked amountMode amount startDate endDate reminder
  wallet : WalletRead between input.userId walletId s
  category : ∀ id ∈ input.categoryId.truthy, CategoryOwned between input.userId id s
  shape : row =
    newTemplate input walletId type amountMode amount frequency startDate endDate reminder s.nextId
  keys : s.TemplateKeys row
  inserted : s.templates.insert? row = some rows
  after : s' = { s with nextId := s.nextId + 1, templates := rows }

/-- The update of a template, which the request has read as its user's. -/
structure TemplateEdited (between : Store → Store → Prop) (seen : List Store)
    (input : UpdateRecurringTransactionInput) (existing : RecurringTransactionTemplate)
    (amount : Option Decimal) (startDate : Instant) (endDate : Option Instant)
    (reminder : Bool × Option Int) (s s' : Store) : Prop where
  read : ∃ s₁, seen.head? = some s₁ ∧ between s₁ s ∧
    s₁.ownTemplate input.id input.userId = some existing
  checked : TemplateChecked (input.amountMode.truthy.getD existing.amountMode) amount startDate
    endDate reminder
  kept : (input.startDate = none → startDate = existing.startDate) ∧
    (input.endDate = none → endDate = existing.endDate)
  wallet : ∀ id, input.walletId = .given id → WalletRead between input.userId id s
  category : ∀ id, input.categoryId = .given id → CategoryOwned between input.userId id s
  found : (s.templates.find? input.id).isSome
  keys : ∀ row, s.templates.find? input.id = some row → s.TemplateKeys
    (editedTemplate input (input.amountMode.truthy.getD existing.amountMode) amount startDate endDate
      reminder row)
  after : s' = { s with
    templates := s.templates.update input.id
      (editedTemplate input (input.amountMode.truthy.getD existing.amountMode) amount startDate
        endDate reminder) }

/-- Mode and amount agree once the amount has been resolved and taken by its column. -/
theorem resolveAmount_checked {amountMode : RecurringAmountMode} {sent resolved : Option Numeric}
    {amount : Option Decimal} (resolve : resolveAmount amountMode sent = .ok resolved)
    (column : amountColumn resolved = .ok amount) :
    (amountMode = .fixed → ∃ value, amount = some value ∧ 0 < value) ∧
    (amountMode = .flexible → amount = none) := by
  -- A flexible template drops what is sent, and a fixed one insists on a positive number.
  cases amountMode with
  | flexible =>
    -- Whatever was sent, nothing is stored.
    obtain rfl : none = resolved := by simpa [resolveAmount] using resolve
    have none_ : none = amount := by simpa [amountColumn] using column
    exact ⟨by simp, fun _ => none_.symm⟩
  | fixed =>
    refine ⟨fun _ => ?_, by simp⟩
    -- A number that is no positive one is refused.
    cases given : sent.filter fun number => number.IsPositive with
    | none => simp [resolveAmount, given] at resolve
    | some number =>
      obtain rfl : some number = resolved := by simpa [resolveAmount, given] using resolve
      obtain ⟨-, positive⟩ := Option.filter_eq_some_iff.mp given
      -- Positive infinity passes the check, but the column refuses it.
      cases number with
      | finite value =>
        obtain rfl : some value = amount := by simpa [amountColumn, columnValue, Except.map] using column
        exact ⟨value, rfl, of_decide_eq_true positive⟩
      | _ => simp [amountColumn, columnValue, Except.map] at column

/-- A resolved reminder is none at all, or one of the lead times. -/
theorem resolveReminder_checked {enabled : Bool} {sent : Option Numeric}
    {reminder : Bool × Option Int} (resolve : resolveReminder enabled sent = .ok reminder) :
    (reminder.1 = false → reminder.2 = none) ∧
    (reminder.1 = true → ∃ days ∈ validReminderOffsetDays, reminder.2 = some days) := by
  -- Both settings are sent together or not at all, which the cases follow.
  cases enabled with
  | false =>
    cases sent with
    -- Without a reminder there are no days.
    | none =>
      obtain rfl : (false, none) = reminder := by simpa [resolveReminder] using resolve
      simp
    | some number => simp [resolveReminder] at resolve
  | true =>
    -- A reminder needs one of the allowed offsets.
    cases given : (sent.bind Numeric.toInteger).filter (· ∈ validReminderOffsetDays) with
    | none => simp [resolveReminder, given] at resolve
    | some days =>
      obtain rfl : (true, some days) = reminder := by simpa [resolveReminder, given] using resolve
      exact ⟨by simp, fun _ => ⟨days, of_decide_eq_true (Option.filter_eq_some_iff.mp given).2, rfl⟩⟩

section Template

variable {between : Store → Store → Prop} {s : Store} {history : List Store}
  (stays : ∀ s, between s s) (chain : ∀ {a b c}, between a b → between b c → between a c)

include stays in
/-- After its check, the wallet was read as the user's. -/
theorem assertWalletOwnership_sat {userId : Id} {walletId : Option Id} {guar} :
    (assertWalletOwnership userId walletId).Sat between guar
      (fun _ history' s' => history <+: history' ∧ between s s' ∧
        ∀ id, walletId = some id → WalletRead between userId id s') history s := by
  unfold assertWalletOwnership
  refine sat_query_bind fun s₁ moved => sat_orThrow_bind fun wallet found => ?_
  refine sat_ret.mpr ⟨List.prefix_append _ _, moved, fun id named => ⟨s₁, stays s₁, ?_⟩⟩
  -- The wallet was read for the user, in the last store of the history.
  simp [boundWallet_some found named]

include stays in
/-- After its check, the category was read as the user's. -/
theorem assertCategoryOwnership_sat {userId : Id} {categoryId : Option Id} {guar} :
    (assertCategoryOwnership userId categoryId).Sat between guar
      (fun _ history' s' => history <+: history' ∧ between s s' ∧
        ∀ id, categoryId = some id → CategoryOwned between userId id s') history s := by
  unfold assertCategoryOwnership
  refine sat_query_bind fun s₁ moved => sat_orThrow_bind fun category found => ?_
  refine sat_ret.mpr ⟨List.prefix_append _ _, moved, fun id named => ⟨s₁, stays s₁, ?_⟩⟩
  -- The category was read for the user as well.
  subst named
  simp only [Option.bind_some] at found
  simp [found]

include stays in
/-- After its check, a category that a creation names was read as the user's. -/
theorem assertCategoryGiven_sat {userId : Id} {categoryId : Option Id} {guar} :
    (assertCategoryGiven userId categoryId).Sat between guar
      (fun _ _ s' => between s s' ∧ ∀ id ∈ categoryId, CategoryOwned between userId id s')
      history s := by
  unfold assertCategoryGiven
  split
  · exact (assertCategoryOwnership_sat stays).mono (fun _ _ same => same) (fun _ _ _ same => same)
      -- A category that is not given is not read.
      fun _ _ _ read => read.2
  · exact sat_ret.mpr ⟨stays s, by simp⟩

include stays in
/-- After its check, a wallet that an update sends was read as the user's. -/
theorem assertWalletSent_sat {userId : Id} {walletId : Arg Id} {guar} :
    (assertWalletSent userId walletId).Sat between guar
      (fun _ history' s' => history <+: history' ∧ between s s' ∧
        ∀ id, walletId = .given id → WalletRead between userId id s') history s := by
  unfold assertWalletSent
  split
  · rename_i omitted
    -- A wallet that is not sent is not read.
    exact sat_ret.mpr ⟨List.prefix_rfl, stays s, by simp [omitted]⟩
  · refine (assertWalletOwnership_sat stays).mono (fun _ _ same => same) (fun _ _ _ same => same) ?_
    rintro _ _ _ ⟨grown, moved, read⟩
    -- One that is sent is read before the write.
    exact ⟨grown, moved, fun id given => read id (by simp [given, Arg.truthy])⟩

include stays in
/-- After its check, a category that an update sends was read as the user's. -/
theorem assertCategorySent_sat {userId : Id} {categoryId : Arg Id} {guar} :
    (assertCategorySent userId categoryId).Sat between guar
      (fun _ history' s' => history <+: history' ∧ between s s' ∧
        ∀ id, categoryId = .given id → CategoryOwned between userId id s') history s := by
  unfold assertCategorySent
  split
  · rename_i omitted
    -- A category that is not sent is not read.
    exact sat_ret.mpr ⟨List.prefix_rfl, stays s, by simp [omitted]⟩
  · refine (assertCategoryOwnership_sat stays).mono (fun _ _ same => same) (fun _ _ _ same => same) ?_
    rintro _ _ _ ⟨grown, moved, read⟩
    exact ⟨grown, moved, fun id given => read id (by simp [given, Arg.truthy])⟩

/-- A date range that passed its check is in order. -/
theorem endDate_ordered {startDate : Instant} {endDate : Option Instant}
    (checked : ¬∃ last ∈ endDate, last < startDate) : ∀ last ∈ endDate, startDate ≤ last :=
  fun last given => Int.not_lt.mp fun early => checked ⟨last, given, early⟩

include stays chain in
/-- Creating a template writes nothing but the template. -/
theorem createRecurringTransaction_sat {zone : Zone} {now : Instant}
    {input : CreateRecurringTransactionInput} :
    (createRecurringTransaction zone now input).Sat between
      (fun _ s s' => s' = s ∨
        ∃ walletId type amountMode amount frequency startDate endDate reminder row rows,
          TemplateCreated between input walletId type amountMode amount frequency startDate endDate
            reminder row rows s s')
      (fun _ _ _ => True) history s := by
  unfold createRecurringTransaction
  -- Each check leaves what it found as a fact for the one write at the end.
  refine sat_throwIf_bind fun _ => sat_orThrow_bind fun type _ => ?_
  refine sat_orThrow_bind fun amountMode _ => sat_ofExcept_bind fun resolved resolve => ?_
  refine sat_orThrow_bind fun frequency _ => sat_orThrow_bind fun walletId _ => ?_
  refine sat_ofExcept_bind fun startDate _ => sat_ofExcept_bind fun endDate _ => ?_
  refine sat_throwIf_bind fun ordered => sat_ofExcept_bind fun reminder reminded => ?_
  refine sat_seq (assertWalletOwnership_sat stays) fun _ _ s₁ ⟨_, moved₁, wallet⟩ => ?_
  refine sat_seq (assertCategoryGiven_sat stays) fun _ _ s₂ ⟨moved₂, category⟩ => ?_
  refine sat_ofExcept_bind fun amount column => ?_
  refine sat_commit (fun _ _ => .inl rfl) fun s' _ after moved done => ⟨.inr ?_, trivial⟩
  -- The write inserts the row that the checks have resolved.
  obtain ⟨row, s₃, created, done⟩ := Tx.bind_ok.mp done
  obtain ⟨shape, keys, rows, inserted, rfl⟩ := Tx.createTemplate_ok.mp created
  obtain ⟨-, rfl⟩ := Tx.view_ok.mp done
  obtain ⟨fixed, flexible⟩ := resolveAmount_checked resolve column
  obtain ⟨disabled, enabled⟩ := resolveReminder_checked reminded
  exact ⟨walletId, type, amountMode, amount, frequency, startDate, endDate, reminder, row, rows,
    ⟨fixed, flexible, endDate_ordered ordered, disabled, enabled⟩,
    (wallet walletId rfl).later chain (chain moved₂ moved),
    fun id given => (category id given).later chain moved, shape, keys, inserted, rfl⟩

include stays chain in
/-- Updating a template writes nothing but the template. -/
theorem updateRecurringTransaction_sat {zone : Zone} {now : Instant}
    {input : UpdateRecurringTransactionInput} :
    (updateRecurringTransaction zone now input).Sat between
      (fun seen s s' => s' = s ∨ ∃ existing amount startDate endDate reminder,
        TemplateEdited between seen input existing amount startDate endDate reminder s s')
      (fun _ _ _ => True) [] s := by
  unfold updateRecurringTransaction
  -- The template is read first, so what the checks decide is about the row of that read.
  refine sat_query_bind fun s₁ _ => sat_orThrow_bind fun existing found => ?_
  refine sat_throwIf_bind fun _ => sat_throwIf_bind fun _ => ?_
  refine sat_throwIf_bind fun _ => sat_throwIf_bind fun _ => ?_
  refine sat_ofExcept_bind fun resolved resolve => ?_
  refine sat_ofExcept_bind fun startDate started => sat_ofExcept_bind fun endDate ended => ?_
  refine sat_throwIf_bind fun ordered => sat_ofExcept_bind fun reminder reminded => ?_
  refine sat_seq (assertWalletSent_sat stays) fun _ _ s₂ ⟨grown₂, moved₂, wallet⟩ => ?_
  refine sat_seq (assertCategorySent_sat stays) fun _ history₃ s₃ ⟨grown₃, moved₃, category⟩ => ?_
  refine sat_ofExcept_bind fun amount column => ?_
  refine sat_commit (fun _ _ => .inl rfl) fun s' _ after moved done => ⟨.inr ?_, trivial⟩
  -- The row must still exist at the write, and its keys are checked there.
  obtain ⟨_, s₄, rewritten, done⟩ := Tx.bind_ok.mp done
  obtain ⟨row, present, keys, -, rfl⟩ := Tx.updateTemplate_ok.mp rewritten
  obtain ⟨-, rfl⟩ := Tx.view_ok.mp done
  obtain ⟨fixed, flexible⟩ := resolveAmount_checked resolve column
  obtain ⟨disabled, enabled⟩ := resolveReminder_checked reminded
  -- The reads since then were added behind the first one.
  have first : history₃.head? = some s₁ := by
    obtain ⟨more, rfl⟩ := grown₂.trans grown₃
    rfl
  refine ⟨existing, amount, startDate, endDate, reminder,
    ⟨s₁, first, chain moved₂ (chain moved₃ moved), found⟩,
    ⟨fixed, flexible, endDate_ordered ordered, disabled, enabled⟩, ⟨fun omitted => ?_, fun omitted => ?_⟩,
    fun id given => (wallet id given).later chain (chain moved₃ moved),
    fun id given => (category id given).later chain moved, by simp [present], fun other same => ?_, rfl⟩
  · -- A date that is left out is the stored one.
    simpa [omitted, eq_comm] using started
  · simpa [omitted, eq_comm] using ended
  -- The keys hold of the row that is rewritten.
  · obtain rfl : row = other := by simpa [present] using same
    exact keys

end Template

end PocketMint
