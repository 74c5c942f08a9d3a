import PocketMint.Commit.Purchase
import PocketMint.Proofs.Confirmation
import PocketMint.Proofs.Ledger

/-! Recurring templates stay valid under partial updates, which keep whatever they do not supply. -/

namespace PocketMint

open Prog RecurringTransactionService

/-- The mode and the amount, the dates and the reminder of a template agree with each other. -/
def RecurringTransactionTemplate.Valid (row : RecurringTransactionTemplate) : Prop :=
  TemplateChecked row.amountMode row.amount row.startDate row.endDate
    (row.reminderEnabled, row.reminderOffsetDays)

/-- Every template is valid. -/
def Store.ValidTemplates (s : Store) : Prop := ∀ row ∈ s.templates.rows, row.Valid

/-- A template that was checked as a whole is valid, whichever of its dates were sent. -/
theorem TemplateEdited.valid {seen : List Store} {input : UpdateRecurringTransactionInput}
    {existing : RecurringTransactionTemplate} {amount : Option Decimal} {startDate : Instant}
    {endDate : Option Instant} {reminder : Bool × Option Int} {s s' : Store}
    (made : TemplateEdited Eq seen input existing amount startDate endDate reminder s s')
    {row : RecurringTransactionTemplate} (found : s.templates.find? input.id = some row) :
    (editedTemplate input (input.amountMode.truthy.getD existing.amountMode) amount startDate endDate
      reminder row).Valid := by
  -- The row that is written to is the one that was read, so that a date not sent is the stored one.
  rcases made.read with ⟨s₁, _, rfl, own⟩
  obtain rfl : existing = row := Option.some.inj ((Store.ownTemplate_eq_some.mp own).1.symm.trans found)
  have checked := made.checked
  -- A date that is not sent stays, and one that is sent is the checked one.
  have starts : (if input.startDate.isSome then startDate else existing.startDate) = startDate := by
    cases sent : input.startDate with
    | none => exact (made.kept.1 sent).symm
    | some text => rfl
  have ends : (if input.endDate.isSome then endDate else existing.endDate) = endDate := by
    cases sent : input.endDate with
    | none => exact (made.kept.2 sent).symm
    | some text => rfl
  constructor
  · exact checked.fixed
  · exact checked.flexible
  -- The end is not before the start, whichever of them were sent.
  · show ∀ last ∈ (if input.endDate.isSome then endDate else existing.endDate),
      (if input.startDate.isSome then startDate else existing.startDate) ≤ last
    rw [starts, ends]
    exact checked.ordered
  · exact checked.disabled
  · exact checked.enabled

/-- A write of a call that is executed alone keeps every template valid. -/
theorem Commit.validTemplates {zone : Zone} {call : Call} {seen : List Store} {s s' : Store}
    (commit : Commit Eq zone call seen s s') (valid : s.ValidTemplates) : s'.ValidTemplates := by
  -- Only the recurring transaction service and the deletion of a wallet write templates.
  intro row among
  cases commit with
  -- A template that remains was there before.
  | walletDeleted asked made =>
    rw [made.after] at among
    exact valid row (List.mem_of_mem_filter among)
  | templateCreated asked made =>
    rw [made.after] at among
    -- A new template was checked.
    rcases (Table.mem_insert made.inserted).mp among with old | rfl
    · exact valid row old
    · rw [made.shape]
      exact made.checked
  | templateEdited asked made =>
    rw [made.after] at among
    -- The edited template was checked against the row that it is.
    rcases Table.mem_update (fun _ => by rfl) among with old | ⟨before, found, rfl⟩
    · exact valid row old
    · exact made.valid found
  | installmentDeleted asked made =>
    rw [made.after] at among
    split at among
    · exact valid row among
    · exact valid row among
  | _ asked made =>
    rw [made.after] at among
    exact valid row among

theorem Reachable.validTemplates {zone : Zone} {s : Store} (reached : Reachable zone s) :
    s.ValidTemplates := by
  let holds (s : Store) : Prop := s.Numbered ∧ s.ValidTemplates
  have numbers : ∀ s, holds s → s.Numbered := fun _ held => held.1
  have empty : holds .empty := ⟨.empty, fun _ among => by simp [Store.empty] at among⟩
  exact (reached.invariant numbers empty fun _ _ _ _ held commit =>
    ⟨commit.numbered held.1, commit.validTemplates held.2⟩).2

/-- An updated template has the stored value of every field that the update does not supply. -/
structure UpdateRecurringTransactionInput.Keeps (input : UpdateRecurringTransactionInput)
    (existing row : RecurringTransactionTemplate) : Prop where
  id : row.id = existing.id
  userId : row.userId = existing.userId
  name : input.name = none → row.name = existing.name
  walletId : input.walletId = .omitted → row.walletId = existing.walletId
  categoryId : input.categoryId = .omitted → row.categoryId = existing.categoryId
  type : input.type = .omitted → row.type = existing.type
  description : input.description = none → row.description = existing.description
  frequency : input.frequency = .omitted → row.frequency = existing.frequency
  startDate : input.startDate = none → row.startDate = existing.startDate
  endDate : input.endDate = none → row.endDate = existing.endDate
  isActive : input.isActive = none → row.isActive = existing.isActive
  /-- The mode and the amount are resolved as a pair. -/
  amount : input.amountMode = .omitted → input.amount = none →
    row.amountMode = existing.amountMode ∧ row.amount = existing.amount
  /-- So are the reminder and its lead time. -/
  reminder : input.reminderEnabled = none → input.reminderOffsetDays = .omitted →
    row.reminderEnabled = existing.reminderEnabled ∧ row.reminderOffsetDays = existing.reminderOffsetDays

/-- Resolving the stored mode and amount of a valid template leaves them as they are. -/
theorem resolveAmount_stored {mode : RecurringAmountMode} {stored amount : Option Decimal}
    {resolved : Option Numeric} (flexible : mode = .flexible → stored = none)
    (resolve : resolveAmount mode (stored.map Numeric.finite) = .ok resolved)
    (column : amountColumn resolved = .ok amount) : amount = stored := by
  cases mode with
  | flexible =>
    -- A flexible template has no amount, and none is stored.
    rw [resolveAmount] at resolve
    cases resolve
    rw [flexible rfl]
    cases column
    rfl
  | fixed =>
    -- A fixed one has the amount that it had, which is positive.
    cases stored with
    | none => cases resolve
    | some value =>
      by_cases positive : 0 < value
      · simp [resolveAmount, Option.filter, Numeric.IsPositive, positive] at resolve
        subst resolve
        cases column
        rfl
      · simp [resolveAmount, Option.filter, Numeric.IsPositive, positive] at resolve

/-- Resolving the stored reminder of a valid template leaves it as it is. -/
theorem resolveReminder_stored {enabled : Bool} {stored : Option Int} {reminder : Bool × Option Int}
    (resolve : resolveReminder enabled (stored.map fun (days : Int) => Numeric.finite days) = .ok reminder) :
    reminder = (enabled, stored) := by
  cases enabled with
  | false =>
    -- No lead goes with a reminder that is disabled.
    cases stored with
    | none =>
      cases resolve
      rfl
    | some days => cases resolve
  | true =>
    -- A lead that is stored is a whole number of days, and an allowed one.
    cases stored with
    | none => cases resolve
    | some days =>
      have whole : Numeric.toInteger (.finite (days : ℚ)) = some days := by
        simp [Numeric.toInteger]
      have sent : (some days).map (fun (days : Int) => Numeric.finite days) = some (.finite (days : ℚ)) := rfl
      rw [sent, resolveReminder] at resolve
      by_cases lead : days ∈ validReminderOffsetDays
      · simp [whole, Option.filter, lead] at resolve
        exact resolve.symm
      · simp [whole, Option.filter, lead] at resolve

section Sent

theorem reads_assertWalletOwnership (userId : Id) (walletId : Option Id) :
    (assertWalletOwnership userId walletId).Reads :=
  (reads_query _).bind fun _ => (reads_orThrow _ _).bind fun _ => reads_ret _

theorem reads_assertCategoryOwnership (userId : Id) (categoryId : Option Id) :
    (assertCategoryOwnership userId categoryId).Reads :=
  (reads_query _).bind fun _ => (reads_orThrow _ _).bind fun _ => reads_ret _

theorem reads_assertWalletSent (userId : Id) (walletId : Arg Id) :
    (assertWalletSent userId walletId).Reads := by
  unfold assertWalletSent
  split
  · exact reads_ret _
  · exact reads_assertWalletOwnership _ _

theorem reads_assertCategorySent (userId : Id) (categoryId : Arg Id) :
    (assertCategorySent userId categoryId).Reads := by
  unfold assertCategorySent
  split
  · exact reads_ret _
  · exact reads_assertCategoryOwnership _ _

end Sent

/-- What an update that is sent alone keeps, once every field it writes is known. -/
theorem UpdateRecurringTransactionInput.keeps_edited {input : UpdateRecurringTransactionInput}
    {existing : RecurringTransactionTemplate} (valid : existing.Valid)
    {resolved : Option Numeric} {amount : Option Decimal} {startDate : Instant} {endDate : Option Instant}
    {reminder : Bool × Option Int}
    (resolve : resolveAmount (input.amountMode.truthy.getD existing.amountMode)
      (if input.amount.isSome then input.amount.map DecimalInput.number
        else existing.amount.map Numeric.finite) = .ok resolved)
    (column : amountColumn resolved = .ok amount)
    (reminded : resolveReminder (input.reminderEnabled.getD existing.reminderEnabled)
      (input.reminderOffsetDays.resolve
        (existing.reminderOffsetDays.map fun (days : Int) => Numeric.finite days)) = .ok reminder) :
    input.Keeps existing (editedTemplate input
      (input.amountMode.truthy.getD existing.amountMode) amount startDate
      endDate reminder existing) := by
  constructor
  · rfl
  · rfl
  · intro omitted
    -- What is omitted stays, field by field.
    simp [editedTemplate, omitted]
  · intro omitted
    simp [editedTemplate, omitted, Arg.truthy]
  · intro omitted
    simp [editedTemplate, omitted, Arg.truthy]
  · intro omitted
    simp [editedTemplate, omitted, Arg.truthy]
  · intro omitted
    simp [editedTemplate, omitted]
  · intro omitted
    simp [editedTemplate, omitted, Arg.truthy]
  · intro omitted
    simp [editedTemplate, omitted]
  · intro omitted
    simp [editedTemplate, omitted]
  · intro omitted
    simp [editedTemplate, omitted]
  · intro modeOmitted amountOmitted
    -- The stored mode and amount are resolved again, and agree because the template is valid.
    rw [modeOmitted, amountOmitted] at resolve
    have mode : input.amountMode.truthy.getD existing.amountMode = existing.amountMode := by
      rw [modeOmitted]
      rfl
    exact ⟨mode, resolveAmount_stored valid.flexible resolve column⟩
  -- The stored lead is resolved again, and it is one that was allowed.
  · intro enabledOmitted daysOmitted
    rw [enabledOmitted, daysOmitted] at reminded
    have same := resolveReminder_stored reminded
    exact ⟨congrArg Prod.fst same, congrArg Prod.snd same⟩

/-- An accepted update of a valid template writes that template alone, and keeps what it does not supply. -/
theorem updateRecurringTransaction_keeps {zone : Zone} {now : Instant}
    {input : UpdateRecurringTransactionInput}
    {s s' : Store} {answer : RecurringTransactionWithRelations} (valid : s.ValidTemplates)
    (ran : (updateRecurringTransaction zone now input).run s = (.ok answer, s')) :
    ∃ existing row, s.ownTemplate input.id input.userId = some existing ∧
      s'.templates.find? input.id = some row ∧ input.Keeps existing row ∧
      (∀ id ≠ input.id, s'.templates.find? id = s.templates.find? id) ∧
      s' = { s with templates := s'.templates } := by
  -- Every check passes, so the write is the one whose inputs these checks computed.
  unfold updateRecurringTransaction at ran
  rw [run_query_bind] at ran
  -- The template is the user's, and the checks are of the input and of it.
  rcases run_orThrow_bind.mp ran with ⟨existing, own, ran⟩
  rcases run_throwIf_bind.mp ran with ⟨_, ran⟩
  rcases run_throwIf_bind.mp ran with ⟨_, ran⟩
  rcases run_throwIf_bind.mp ran with ⟨_, ran⟩
  rcases run_throwIf_bind.mp ran with ⟨_, ran⟩
  rcases run_ofExcept_bind.mp ran with ⟨resolved, resolve, ran⟩
  rcases run_ofExcept_bind.mp ran with ⟨startDate, _, ran⟩
  rcases run_ofExcept_bind.mp ran with ⟨endDate, _, ran⟩
  rcases run_throwIf_bind.mp ran with ⟨_, ran⟩
  rcases run_ofExcept_bind.mp ran with ⟨reminder, reminded, ran⟩
  rcases (reads_assertWalletSent _ _).run_bind.mp ran with ⟨_, _, ran⟩
  rcases (reads_assertCategorySent _ _).run_bind.mp ran with ⟨_, _, ran⟩
  rcases run_ofExcept_bind.mp ran with ⟨amount, column, ran⟩
  -- The write rewrites one template.
  rcases Tx.bind_ok.mp (run_commit_eq_ok.mp ran) with ⟨_, after, rewritten, viewed⟩
  rcases Tx.updateTemplate_ok.mp rewritten with ⟨row, present, _, _, rfl⟩
  rcases Tx.view_ok.mp viewed with ⟨_, rfl⟩
  -- The row that is written to is the one that was read.
  rcases Store.ownTemplate_eq_some.mp own with ⟨found, _⟩
  obtain rfl : existing = row := Option.some.inj (found.symm.trans present)
  have stored := valid existing (Table.mem_of_find? found)
  refine ⟨existing, editedTemplate input
    (input.amountMode.truthy.getD existing.amountMode) amount startDate endDate
    reminder existing, own, ?_, ?_, ?_, rfl⟩
  · simp [present]
  · exact input.keeps_edited stored resolve column reminded
  -- The other templates are not touched.
  · intro id other
    simp [other]

/-- In every state of a sequential run the templates are valid and point at rows of their user, and an
accepted update keeps every field that is not derived from a supplied one. -/
theorem Reachable.templates_kept {zone : Zone} {s : Store} (reached : Reachable zone s) :
    (∀ row ∈ s.templates.rows, row.Valid ∧ s.TemplateLinks row) ∧
    ∀ now input answer s', (updateRecurringTransaction zone now input).run s = (.ok answer, s') →
      ∃ existing row, s.ownTemplate input.id input.userId = some existing ∧
        s'.templates.find? input.id = some row ∧ input.Keeps existing row ∧
        (∀ id ≠ input.id, s'.templates.find? id = s.templates.find? id) ∧
        s' = { s with templates := s'.templates } := by
  have valid := reached.validTemplates
  constructor
  · intro row among
    exact ⟨valid row among, reached.sound.linked.templates row among⟩
  · intro now input answer s' ran
    exact updateRecurringTransaction_keeps valid ran

/-- The calls up to a rent of 100, with a reminder three days ahead. -/
def rented : List Call :=
  onboarding 1 1000 5000 ++ [{ now := 0, request := .createRecurringTransaction (monthlyRent 1 12 0 3) }]

/-- The rent is raised, in an update that supplies the amount alone. -/
def raisedRent : UpdateRecurringTransactionInput := { userId := 1, id := 14, amount := some (.exact 120) }

/-- The raise is accepted, and leaves the mode, the dates and the reminder of the rent. -/
theorem Reachable.templates_kept_rent :
    let s := serveAll defaultTimezone.zone .empty rented
    let raised := (updateRecurringTransaction defaultTimezone.zone 1 raisedRent).run s
    (∀ row ∈ s.templates.rows, row.Valid ∧ s.TemplateLinks row) ∧
    (raised.2.templates.find? 14).map (fun row => (row.amountMode, row.amount, row.reminderOffsetDays)) =
      some (.fixed, some 120, some 3) ∧
    ∃ existing row, s.ownTemplate 14 1 = some existing ∧ raised.2.templates.find? 14 = some row ∧
      raisedRent.Keeps existing row := by
  intro s raised
  have reached : Reachable defaultTimezone.zone s := ⟨rented, rfl⟩
  rcases Reachable.templates_kept reached with ⟨valid, kept⟩
  -- The update is accepted, which is evaluated.
  have accepted : raised.1.toOption.isSome = true := by decide
  cases ran : raised.1 with
  | error error =>
    rw [ran] at accepted
    cases accepted
  | ok answer =>
    rcases kept 1 raisedRent answer raised.2 (Prod.ext ran rfl) with ⟨existing, row, own, found, keeps, _⟩
    exact ⟨valid, by decide, existing, row, own, found, keeps⟩

end PocketMint
