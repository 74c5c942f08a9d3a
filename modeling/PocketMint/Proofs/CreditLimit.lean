import PocketMint.Domain.FinancialLaws
import PocketMint.Proofs.Confirmation
import PocketMint.Proofs.PostingRules
import PocketMint.Proofs.Payments

/-! Purchases stay within the credit limit, as long as no write meets less credit than it needs. -/

namespace PocketMint

open Prog TransactionService NotificationService

/-- The amount that a transaction took from or gave to its wallet. -/
def Store.postedAmount (s : Store) (row : Transaction) : Decimal :=
  persistedWalletAmount (s.sparklineTransaction row).toReportingTransaction

/-- A credit wallet owes no more than its limit. -/
def Wallet.WithinLimit (wallet : Wallet) : Prop :=
  wallet.type.isCredit → -wallet.creditLimit ≤ wallet.balance

instance : DecidablePred Wallet.WithinLimit := fun wallet => by
  unfold Wallet.WithinLimit
  infer_instance

/-- A debit leaves the balance of a credit wallet within its limit. -/
def Store.Covers (s : Store) (walletId : Id) (debit : Decimal) : Prop :=
  ∀ wallet ∈ s.wallets.find? walletId, wallet.type.isCredit →
    debit ≤ wallet.balance + wallet.creditLimit

instance (s : Store) (walletId : Id) : DecidablePred (s.Covers walletId) := fun debit => by
  unfold Store.Covers
  infer_instance

/-- No less credit remains on the wallet of a creation than when the creation read it. -/
def CreationFits (input : CreateTransactionInput) (seen : List Store) (s : Store) : Prop :=
  ∀ s₀ ∈ seen.head?, ∀ walletId ∈ targetWallet input s₀, ∀ wallet ∈ s.wallets.find? walletId,
    wallet.type.isCredit → ∀ s₁ ∈ seen[stepsToWallet input]?,
      ∀ read ∈ s₁.ownWallet walletId input.userId,
        read.type.isCredit ∧ remainingCredit read ≤ remainingCredit wallet

/--
The transaction of an update is as it was read, and its wallet covers the amount of the expense it
becomes, together with the effect that the update takes back.
-/
def UpdateFits (input : UpdateTransactionInput) (seen : List Store) (s : Store) : Prop :=
  ∀ s₀ ∈ seen.head?, ∀ existing ∈ s₀.ownTransaction input.id input.userId,
    s.transactions.find? input.id = some existing ∧
    (input.type.truthy.getD existing.type = .expense →
      ∀ amount ∈ (columnValue ((positiveAmount input.amount).getD (.finite existing.amount))).toOption,
      ∀ walletId ∈ newWalletId input existing,
        s.Covers walletId (amount + s.effectOn walletId existing))

/-- The wallet of a confirmed reminder covers the amount of the expense that is posted on it. -/
def ConfirmationFits (input : ConfirmReminderInput) (seen : List Store) (s : Store) : Prop :=
  ∀ s₀ ∈ seen.head?, ∀ event ∈ (s₀.ownEvent input.id input.userId).map s₀.includeEvent,
    ∀ template ∈ event.template, template.type = .expense →
      ∀ number ∈ (confirmedAmount template input.amount).toOption,
      ∀ amount ∈ (columnValue number).toOption, s.Covers template.walletId amount

/--
What a call that writes needs of the store so that it debits no credit wallet beyond its limit.

A creation checks the credit that it read; an update and a confirmation check none.
-/
def Call.FitsCredit (call : Call) (seen : List Store) (s : Store) : Prop :=
  match call.request with
  | .createTransaction input => CreationFits input seen s
  | .updateTransaction input => UpdateFits input seen s
  | .confirmReminder input => ConfirmationFits input seen s
  | _ => True

instance (input : CreateTransactionInput) (seen : List Store) (s : Store) :
    Decidable (CreationFits input seen s) := by
  unfold CreationFits
  infer_instance

instance (input : UpdateTransactionInput) (seen : List Store) (s : Store) :
    Decidable (UpdateFits input seen s) := by
  unfold UpdateFits
  infer_instance

instance (input : ConfirmReminderInput) (seen : List Store) (s : Store) :
    Decidable (ConfirmationFits input seen s) := by
  unfold ConfirmationFits
  infer_instance

instance (call : Call) (seen : List Store) : DecidablePred (call.FitsCredit seen) := fun s => by
  unfold Call.FitsCredit
  rcases call with ⟨_, _ | _⟩ <;> infer_instance

/-- A positive amount within the remaining credit leaves the balance within the limit. -/
theorem remainingCredit_covers {wallet : Wallet} {amount : Decimal} (positive : 0 < amount)
    (affordable : amount ≤ remainingCredit wallet) :
    -wallet.creditLimit ≤ wallet.balance - amount := by
  unfold remainingCredit at affordable
  -- The remaining credit is the limit less the debt, or nothing.
  rcases le_max_iff.mp affordable with within | none_
  · split at within
    · rename_i owing
      rw [abs_of_neg owing] at within
      linarith
    · rename_i owes
      have := not_lt.mp owes
      linarith
  · linarith

/-- A wallet after deltas were credited is the one before, with its part of the deltas. -/
theorem Store.credited_wallet {s : Store} {deltas : List WalletDelta} {id : Id} {wallet' : Wallet}
    (found : (s.credit deltas).wallets.find? id = some wallet') :
    ∃ wallet, s.wallets.find? id = some wallet ∧
      wallet' = { wallet with balance := wallet.balance + WalletDelta.on deltas id } := by
  simp only [Store.credit, Table.find?_mapRows, Option.map_eq_some_iff] at found
  obtain ⟨wallet, here, rfl⟩ := found
  obtain rfl : wallet.id = id := Table.key_of_find? here
  exact ⟨wallet, here, rfl⟩

section Posted

variable {between : Store → Store → Prop} {zone : Zone} {call : Call} {seen : List Store}
  {row : Transaction} {s s' : Store} {wallet' : Wallet}

/-- A creation on an asset debits no credit wallet, unless the wallet became one since. -/
theorem RegularCreated.withinLimit {input : CreateTransactionInput} {type : FinancialTxType}
    {amount : Decimal} {date : Instant} {wallet : Wallet} {rows : Table Transaction}
    (asked : call.request = .createTransaction input) (aimed : TargetRead input wallet seen)
    (made : RegularCreated between call.now input type amount date wallet row rows s s')
    (expense : row.type = .expense) (found : s'.wallets.find? row.walletId = some wallet')
    (fits : call.FitsCredit seen s) : wallet'.WithinLimit := by
  intro credit
  obtain ⟨⟨s₀, first, target⟩, s₁, saw, own⟩ := aimed
  rw [made.after] at found
  have on : row.walletId = wallet.id := congrArg Transaction.walletId made.shape
  obtain ⟨now, here, rfl⟩ := Store.credited_wallet found
  rw [on] at here
  simp only [Call.FitsCredit, asked] at fits
  have reads := fits s₀ first wallet.id target now here credit s₁ saw wallet own
  -- The wallet that was read is an asset, and a credit wallet is none.
  have typed : type = .expense := (congrArg Transaction.type made.shape).symm.trans expense
  have asset := (made.posted (by simp [typed])).2
  exact absurd asset (WalletType.isCredit_not_asset reads.1)

/-- A purchase stays within the limit when no less credit remains than it read. -/
theorem CreditCreated.withinLimit {input : CreateTransactionInput} {principal rate : Decimal}
    {months : Int} {mode : BillKind} {plan : InstallmentPlan} {date nextDueDate : Instant}
    {wallet : Wallet} {installment : Installment} {installments : Table Installment}
    {rows : Table Transaction} (asked : call.request = .createTransaction input)
    (aimed : TargetRead input wallet seen)
    (made : CreditCreated between zone call.now input principal rate months mode plan date
      nextDueDate wallet installment row installments rows s s')
    (positive : 0 < s'.postedAmount row) (found : s'.wallets.find? row.walletId = some wallet')
    (fits : call.FitsCredit seen s) : wallet'.WithinLimit := by
  intro credit
  obtain ⟨⟨s₀, first, target⟩, s₁, saw, own⟩ := aimed
  -- The amount that is posted is the grand total of the instalment.
  have total : s'.postedAmount row = plan.grandTotal := by
    -- The instalment of the row is the one that was just inserted, so it is found under the next key.
    have backing := Table.find?_inserted made.backed
    have shape := made.shape
    have named : installment.id = s.nextId := congrArg Installment.id made.backing
    change installments.find? installment.id = some installment at backing
    rw [named] at backing
    rw [made.after, shape]
    simp [Store.postedAmount, Store.sparklineTransaction, persistedWalletAmount, creditRow,
      Store.grandTotal, Store.credit, backing, made.backing, creditInstallment]
  rw [total] at positive
  have on : row.walletId = wallet.id := congrArg Transaction.walletId made.shape
  -- The wallet that is found afterwards is the one that was there, with the row's effect booked.
  rw [made.after] at found
  obtain ⟨now, here, rfl⟩ := Store.credited_wallet found
  rw [on] at here
  -- The condition says that the credit that was read is what is left when the write happens.
  simp only [Call.FitsCredit, asked] at fits
  have reads := fits s₀ first wallet.id target now here credit s₁ saw wallet own
  have covered := remainingCredit_covers positive (made.affordable.trans reads.2)
  simpa [on, sub_eq_add_neg] using covered

/-- An update stays within the limit when the wallet covers the new amount instead of the old one. -/
theorem TransactionUpdated.withinLimit {input : UpdateTransactionInput} {existing old : Transaction}
    {type : FinancialTxType} {amount : Decimal} {walletId : Id} {date : Option Instant}
    (asked : call.request = .updateTransaction input)
    (made : TransactionUpdated between seen input existing type amount walletId date s s')
    (stored : s.transactions.find? input.id = some old)
    (shape : row = updatedRow input type amount walletId (newToWalletId input existing type) date old)
    (expense : row.type = .expense) (found : s'.wallets.find? row.walletId = some wallet')
    (fits : call.FitsCredit seen s) : wallet'.WithinLimit := by
  intro credit
  obtain ⟨s₀, first, -, own⟩ := made.read
  -- The condition says that the row is unchanged since the read and that the new expense is covered.
  simp only [Call.FitsCredit, asked] at fits
  obtain ⟨unchanged, covers⟩ := fits s₀ first existing own
  obtain rfl : existing = old := Option.some.inj (unchanged.symm.trans stored)
  -- The row after the update has the type, the amount and the wallet that the request resolved.
  have typed : row.type = type := (congrArg Transaction.type shape).trans made.typed.symm
  have isExpense : type = .expense := typed.symm.trans expense
  have on : row.walletId = walletId := (congrArg Transaction.walletId shape).trans made.walletId_eq
  -- The wallet is changed twice, by the reversal of the old effect and by the new one.
  rw [made.after, on] at found
  obtain ⟨reversed, there, rfl⟩ := Store.credited_wallet found
  obtain ⟨now, here, rfl⟩ := Store.credited_wallet there
  have covered := covers (made.typed.symm.trans isExpense) amount (by simp [made.priced, Except.toOption])
    walletId made.source now here credit
  rw [Store.effectOn_regular made.regular] at covered
  simp only [isExpense, plainDeltas, WalletDelta.on_negated, WalletDelta.on_cons, WalletDelta.on_nil,
    if_true]
  simp only [plainDeltas] at covered
  -- Both effects are plain, so the limit is a comparison of sums.
  linarith

/-- A confirmation stays within the limit when the wallet covers its amount. -/
theorem ReminderConfirmed.withinLimit {input : ConfirmReminderInput}
    {existing : NotificationWithTemplate} {template : TemplateRef} {categoryId : Id}
    {amount : Decimal} {rows : Table Transaction} (asked : call.request = .confirmReminder input)
    (made : ReminderConfirmed between call.now seen input existing template categoryId amount row rows
      s s') (expense : row.type = .expense) (found : s'.wallets.find? row.walletId = some wallet')
    (fits : call.FitsCredit seen s) : wallet'.WithinLimit := by
  intro credit
  obtain ⟨s₀, first, -, read⟩ := made.read
  -- The posted row takes its type and wallet from the template that was read.
  have typed : row.type = template.type := congrArg Transaction.type made.shape
  have on : row.walletId = template.walletId := congrArg Transaction.walletId made.shape
  have valued : row.amount = amount := congrArg Transaction.amount made.shape
  -- The condition says that the template's amount fits at the moment of the write.
  simp only [Call.FitsCredit, asked] at fits
  rw [made.after] at found
  obtain ⟨now, here, rfl⟩ := Store.credited_wallet found
  rw [on] at here
  have covered := fits s₀ first existing read template made.sourced (typed.symm.trans expense)
    (.finite amount) (by simp [made.valued, Except.toOption]) amount
    (by simp [columnValue, Except.toOption]) now here credit
  simp only [expense, plainDeltas, on, valued, WalletDelta.on_cons, WalletDelta.on_nil, if_true]
  linarith

/-- A write that posts a positive expense stays within the limit of the wallet it debits. -/
theorem Posting.withinLimit (posting : Posting between zone call seen row s s')
    (expense : row.type = .expense) (positive : 0 < s'.postedAmount row)
    (found : s'.wallets.find? row.walletId = some wallet') (fits : call.FitsCredit seen s) :
    wallet'.WithinLimit := by
  -- A payment posts a transfer, so the other four requests remain.
  cases posting with
  | regular asked made first aimed => exact made.withinLimit asked aimed expense found fits
  | credit asked made first aimed => exact made.withinLimit asked aimed positive found fits
  | update asked made stored shape => exact made.withinLimit asked stored shape expense found fits
  | payment asked made =>
    have typed : row.type = .transfer := congrArg Transaction.type made.shape
    exact absurd (typed.symm.trans expense) (by decide)
  | confirmation asked made => exact made.withinLimit asked expense found fits

end Posted

/--
However calls interleave, a write that meets the credit it needs and posts a positive expense leaves
the wallet it debits within its credit limit.
-/
theorem interleaved_within_limit {zone : Zone} {s : Store} (reached : Reachable zone s)
    (calls : List Call) (schedule : List Nat) (position : Nat) :
    let pool := interleave zone s calls schedule
    let s' := (interleave zone s calls (schedule ++ [position])).store
    ∀ thread response row wallet,
      pool.answering (handle zone) position = some (thread, response) →
      response.posted = some row → row.type = .expense → 0 < s'.postedAmount row →
      s'.wallets.find? row.walletId = some wallet →
      thread.request.FitsCredit thread.seen pool.store → wallet.WithinLimit := by
  intro pool s' thread response row wallet answers posted expense positive found fits
  have good : (confirmation zone).Good (Pool.start s calls) :=
    interleaving_start (fun _ numbered => numbered) reached.numbered calls
  have goodNow := (interleaving_exec good reached.numbered schedule (meets_true _ _)).1
  have stepped : s' = (pool.step (handle zone) position).store := by
    simp only [s', pool, interleave, Pool.exec_append]
    rfl
  -- The row that is answered is the one the last step has posted.
  have posting := interleaving_posting goodNow answers posted
  rw [stepped] at positive found
  exact posting.withinLimit expense positive found fits

/-- The second of two purchases of 300 that take turns leaves the card within a limit of 1000. -/
theorem interleaved_within_limit_turns :
    let s := serveAll defaultTimezone.zone .empty (onboarding 1 1000 1000)
    let s' := (interleave defaultTimezone.zone s [purchase, purchase] [0, 0, 0, 1, 1, 1]).store
    ∃ wallet, s'.wallets.find? 13 = some wallet ∧ wallet.balance = -600 ∧ wallet.WithinLimit := by
  intro s s'
  have reached : Reachable defaultTimezone.zone s := ⟨onboarding 1 1000 1000, rfl⟩
  obtain ⟨⟨thread, response⟩, answers, row, posted, expense, positive, on, fits⟩ :
      let pool := interleave defaultTimezone.zone s [purchase, purchase] [0, 0, 0, 1, 1]
      ∃ answer ∈ pool.answering (handle defaultTimezone.zone) 1, ∃ row ∈ answer.2.posted,
        row.type = .expense ∧ 0 < s'.postedAmount row ∧ row.walletId = 13 ∧
        answer.1.request.FitsCredit answer.1.seen pool.store := by
    decide +kernel
  -- The state after the turn is evaluated, and only the limit itself is left to the theorem.
  obtain ⟨wallet, found, owes⟩ : ∃ wallet ∈ s'.wallets.find? 13, wallet.balance = -600 := by
    decide +kernel
  -- The last turn is the one in which the second purchase writes.
  have stepped : s' = (interleave defaultTimezone.zone s [purchase, purchase]
      ([0, 0, 0, 1, 1] ++ [1])).store := rfl
  rw [stepped] at positive found ⊢
  refine ⟨wallet, found, owes, ?_⟩
  rw [← on] at found
  exact interleaved_within_limit reached [purchase, purchase] [0, 0, 0, 1, 1] 1
    thread response row wallet answers posted expense positive found fits

/-- Two purchases of 300 that both read the full limit of 500 before either commits exceed it. -/
theorem interleaved_exceeds_limit :
    let s := serveAll defaultTimezone.zone .empty (onboarding 1 1000 500)
    let s' := (interleave defaultTimezone.zone s [purchase, purchase] [0, 1, 0, 1, 0, 1]).store
    ∃ wallet ∈ s'.wallets.find? 13, wallet.balance = -600 ∧ ¬wallet.WithinLimit := by
  decide +kernel

end PocketMint
