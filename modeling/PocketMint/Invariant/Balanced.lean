import PocketMint.Invariant.Linked
import PocketMint.Store.Balance

/-! Every write moves exactly the money of the transactions it makes, changes and removes. -/

namespace PocketMint

open Prog

/-- A row that is still as it was read is rewritten to the money columns that were computed. -/
theorem TransactionUpdated.columns {between : Store → Store → Prop} {seen : List Store}
    {s s' : Store} {input : UpdateTransactionInput} {existing : Transaction} {type : FinancialTxType}
    {amount : Decimal} {walletId : Id} {date : Option Instant}
    (made : TransactionUpdated between seen input existing type amount walletId date s s')
    {row : Transaction} (same : row.ledger = existing.ledger) :
    let updated := TransactionService.updatedRow input type amount walletId
      (TransactionService.newToWalletId input existing type) date row
    updated.type = type ∧ updated.amount = amount ∧ updated.walletId = walletId ∧
      updated.toWalletId = TransactionService.newToWalletId input existing type ∧
      updated.isInstallment = false := by
  simp only [Transaction.ledger, LedgerTransaction.mk.injEq] at same
  obtain ⟨sameType, sameAmount, sameWallet, -, sameKind, -⟩ := same
  -- A column that was not sent keeps what the row holds, and that was read.
  refine ⟨?_, ?_, ?_, rfl, sameKind.trans made.regular⟩
  · exact (congrArg input.type.truthy.getD sameType).trans made.typed.symm
  -- The amount is the one that was sent, or the stored one.
  · simp only [TransactionService.updatedRow]
    split
    · rfl
    · rename_i omitted
      exact sameAmount.trans (made.valued.1 (by simpa using omitted)).symm
  -- So is the wallet.
  · simp only [TransactionService.updatedRow]
    split
    · rename_i omitted
      have source := made.source
      simp only [TransactionService.newWalletId, omitted, Option.some.injEq] at source
      exact sameWallet.trans source
    · rfl

/-- The grand total that was read is that of the instalment the write finds. -/
theorem InstallmentDeleted.grandTotal_now {between : Store → Store → Prop} {seen : List Store}
    {s s' : Store} (reading : Reading between) (numbered : s.Numbered)
    (backed : ∀ s₁, between s₁ s → s₁.Backed) {input : DeleteTransactionInput}
    {existing : Transaction} {grandTotal : Option Decimal}
    (made : InstallmentDeleted between seen input existing grandTotal s s') :
    grandTotal = existing.installmentId.bind s.grandTotal := by
  -- The row was read as the user's own.
  obtain ⟨s₁, -, moved, own, rfl⟩ := made.read
  -- The plan of an instalment is frozen, so the total that was read is the one of now.
  cases named : existing.installmentId with
  | none => rfl
  | some id =>
    -- The row named a plan when it was read, and the plan is still there.
    have member := Table.mem_of_find? (Store.ownTransaction_eq_some.mp own).1
    obtain ⟨before, here⟩ := Option.isSome_iff_exists.mp (backed s₁ moved existing member id named)
    obtain ⟨row, found⟩ := Option.isSome_iff_exists.mp (made.backing id named)
    have frozen := (reading.evolves moved).installments.frozen
      ((reading.numbered moved).mpr numbered).installments here found
    simp [Store.grandTotal, here, found, frozen.2.2.1]

section Writes

variable {between : Store → Store → Prop} {zone : Zone} {now : Instant} {seen : List Store}
  {s s' : Store} (before : s.Balanced)

include before

theorem RegularCreated.balanced {input : CreateTransactionInput} {type : FinancialTxType}
    {amount : Decimal} {date : Instant} {wallet : Wallet} {row : Transaction}
    {rows : Table Transaction}
    (made : RegularCreated between now input type amount date wallet row rows s s') :
    s'.Balanced := by
  -- The effect of the new row is that of the deltas, which are its plain ones.
  have regular : row.isInstallment = false := congrArg Transaction.isInstallment made.shape
  rw [made.after]
  refine before.insert ?_ made.inserted ?_ (Store.effectOn_regular regular)
  · rfl
  · exact fun _ _ _ _ => rfl

theorem InstallmentPaid.balanced {input : PayInstallmentInput} {installment : Installment}
    {walletName : String} {source : Wallet} {date due : Instant} {row : Transaction}
    {rows : Table Transaction}
    (made : InstallmentPaid between zone now seen input installment walletName source date due row
      rows s s') : s'.Balanced := by
  have regular : row.isInstallment = false := congrArg Transaction.isInstallment made.shape
  rw [made.after]
  refine before.insert (by rfl) made.inserted (fun _ _ id _ => ?_) (Store.effectOn_regular regular)
  -- A payment advances its instalment but keeps the grand total.
  rw [Store.grandTotal, Table.find?_update]
  split
  · simp [Store.grandTotal, Function.comp_def, InstallmentPaymentService.advanced]
  · rfl

theorem ReminderConfirmed.balanced {input : ConfirmReminderInput}
    {existing : NotificationWithTemplate} {template : TemplateRef} {categoryId : Id}
    {amount : Decimal} {row : Transaction} {rows : Table Transaction}
    (made : ReminderConfirmed between now seen input existing template categoryId amount row rows
      s s') : s'.Balanced := by
  -- The posting is a regular row, so its effect is that of its plain deltas.
  have regular : row.isInstallment = false := congrArg Transaction.isInstallment made.shape
  rw [made.after]
  refine before.insert ?_ made.inserted ?_ (Store.effectOn_regular regular)
  · rfl
  · exact fun _ _ _ _ => rfl

/-- A credit purchase debits its wallet by the grand total its own row is reconciled with. -/
theorem CreditCreated.balanced {input : CreateTransactionInput} {principal rate : Decimal}
    {months : Int} {mode : BillKind} {plan : InstallmentPlan} {date nextDueDate : Instant}
    {wallet : Wallet} {installment : Installment} {row : Transaction}
    {installments : Table Installment} {rows : Table Transaction}
    (backed : s.Backed)
    (made : CreditCreated between zone now input principal rate months mode plan date nextDueDate
      wallet installment row installments rows s s') : s'.Balanced := by
  have created := made.backed
  have inserted := made.inserted
  -- The new row is an instalment, whose effect is the grand total of its own plan.
  rw [made.after]
  refine before.insert (by rfl) inserted (fun other member id named => ?_) fun walletId => ?_
  · -- An old row names an old instalment, never the new one.
    simp only [Store.grandTotal, Table.find?_insert created]
    -- An old row that names the new plan would have named it before it existed.
    split
    · rename_i same
      have absent := (Table.insert?_eq_some_iff.mp created).1
      exact absurd (backed other member id named) (by simp [← same, absent])
    · rfl
  · have found := Table.find?_inserted created
    -- The plan is the new one, and its total is what the wallet is debited by.
    obtain rfl := made.shape
    obtain rfl := made.backing
    have grand : (installments.find? s.nextId).map Installment.grandTotal = some plan.grandTotal :=
      congrArg (Option.map Installment.grandTotal) found
    rw [Store.effectOn_installment rfl]
    simp [TransactionService.creditRow, Store.grandTotal, grand]

/-- An update of a row that is still as it was read moves the difference of its effects. -/
theorem TransactionUpdated.balanced {input : UpdateTransactionInput} {existing : Transaction}
    {type : FinancialTxType} {amount : Decimal} {walletId : Id} {date : Option Instant}
    (undisturbed : ∀ row, s.transactions.find? input.id = some row → row.ledger = existing.ledger)
    (made : TransactionUpdated between seen input existing type amount walletId date s s') :
    s'.Balanced := by
  obtain ⟨row, found⟩ := Option.isSome_iff_exists.mp made.found
  have same := undisturbed row found
  -- The row holds what was read, so the reversed effect is the one that it had.
  simp only [Transaction.ledger, LedgerTransaction.mk.injEq] at same
  obtain ⟨sameType, sameAmount, sameWallet, sameTo, sameKind, -⟩ := same
  have regular : row.isInstallment = false := sameKind.trans made.regular
  rw [made.after, Store.credit_credit]
  refine before.credit ?_ fun wallet _ => ?_
  · rfl
  -- The old effect is the reversed one, and the new row's effect is the applied one.
  rw [Table.total_update _ found, sub_eq_add_neg, add_assoc, WalletDelta.on_append,
    WalletDelta.on_negated]
  congr 2
  -- What is reversed is the effect of the stored row.
  · have old := Store.effectOn_regular (s := s) regular wallet.id
    rw [sameType, sameAmount, sameWallet, sameTo] at old
    exact congrArg Neg.neg old
  -- What is applied is the effect of the row as it is rewritten.
  · obtain ⟨newType, newAmount, newWallet, newTo, newKind⟩ := made.columns (undisturbed row found)
    rw [Store.effectOn_regular newKind, newType, newAmount, newWallet, newTo]

/-- Deleting a row that is still as it was read undoes its effect. -/
theorem RegularDeleted.balanced {input : DeleteTransactionInput} {existing : Transaction}
    (undisturbed : ∀ row, s.transactions.find? input.id = some row → row.ledger = existing.ledger)
    (made : RegularDeleted between seen input existing s s') : s'.Balanced := by
  obtain ⟨row, found⟩ := Option.isSome_iff_exists.mp made.found
  -- The row has the amounts that were read, so the effect that is taken back is its own.
  have same := undisturbed row found
  simp only [Transaction.ledger, LedgerTransaction.mk.injEq] at same
  obtain ⟨sameType, sameAmount, sameWallet, sameTo, sameKind, -⟩ := same
  rw [made.after]
  refine before.erase ?_ found (fun _ => ?_) fun walletId => ?_
  · rfl
  · rfl
  · rw [WalletDelta.on_negated, Store.effectOn_regular (sameKind.trans made.regular), sameType,
      sameAmount, sameWallet, sameTo]

/-- Deleting an instalment's row that is still as it was read, and alone in naming its instalment,
undoes its effect. -/
theorem InstallmentDeleted.balanced (reading : Reading between) (numbered : s.Numbered)
    (backed : ∀ s₁, between s₁ s → s₁.Backed)
    {input : DeleteTransactionInput} {existing : Transaction} {grandTotal : Option Decimal}
    (undisturbed : ∀ row, s.transactions.find? input.id = some row → row.ledger = existing.ledger)
    (unshared : ∀ id ∈ existing.installmentId, ∀ other ∈ s.transactions.rows,
      other.installmentId = some id → other.id = input.id)
    (made : InstallmentDeleted between seen input existing grandTotal s s') : s'.Balanced := by
  obtain ⟨row, found⟩ := Option.isSome_iff_exists.mp made.found
  have same := undisturbed row found
  -- The row holds what was read, so its wallet and its plan are the ones that were read.
  simp only [Transaction.ledger, LedgerTransaction.mk.injEq] at same
  obtain ⟨-, sameAmount, sameWallet, -, sameKind, sameLink⟩ := same
  -- What goes back to the wallet is the effect that the row had on it.
  have effect : ∀ walletId, WalletDelta.on [⟨existing.walletId, grandTotal.getD existing.amount⟩]
      walletId = -s.effectOn walletId row := by
    intro walletId
    have grand := (made.grandTotal_now reading numbered backed).trans (by rw [← sameLink])
    rw [Store.effectOn_installment (sameKind.trans made.backed), grand, sameAmount, sameWallet]
    simp only [WalletDelta.on_cons, WalletDelta.on_nil, add_zero]
    split <;> simp
  rw [made.after]
  -- The plan goes with the row that names it.
  cases linked : existing.installmentId with
  | none =>
    refine before.erase ?_ found (fun _ => ?_) effect
    · rfl
    · rfl
  | some id =>
    refine before.erase ?_ found (fun walletId => ?_) effect
    · rfl
    · -- The rows that stay name other instalments, which stay as well.
      refine Store.total_deleteInstallment (fun other member named => ?_) walletId
      obtain ⟨among, stays⟩ := List.mem_filter.mp member
      exact of_decide_eq_true stays (unshared id linked other among named)

/-- Deleting a wallet that no transfer leaves, and whose instalments only its own rows name. -/
theorem WalletDeleted.balanced {input : DeleteWalletInput}
    (noTransfer : ∀ row ∈ s.transactions.rows, row.walletId = input.walletId → row.type ≠ .transfer)
    (alone : ∀ row ∈ s.transactions.rows, ∀ id ∈ row.installmentId,
      s.installmentOn input.walletId id → row.walletId = input.walletId)
    (made : WalletDeleted between input s s') : s'.Balanced := by
  rw [made.after]
  exact before.deleteWallet noTransfer alone

end Writes

/-- A transaction has the money columns that a request's first step read. -/
def AsRead (id : Id) (seen : List Store) (s : Store) : Prop :=
  ∀ s₁ ∈ seen.head?, ∀ existing ∈ s₁.transactions.find? id, ∀ row ∈ s.transactions.find? id,
    row.ledger = existing.ledger

instance (id : Id) (seen : List Store) (s : Store) : Decidable (AsRead id seen s) := by
  unfold AsRead
  infer_instance

/--
What a call needs of the store its write meets.

A transaction that it rewrites or deletes is as it was read, and no other names its instalment. A
wallet that it deletes has no transfer out of it, and only rows on it name its instalments.
-/
def Undisturbed (call : Call) (seen : List Store) (s : Store) : Prop :=
  match call.request with
  | .updateTransaction input => AsRead input.id seen s
  | .deleteTransaction input => AsRead input.id seen s ∧
      ∀ row ∈ s.transactions.find? input.id, ∀ id ∈ row.installmentId,
        ∀ other ∈ s.transactions.rows, other.installmentId = some id → other.id = input.id
  | .deleteWallet input => ∀ row ∈ s.transactions.rows,
      (row.walletId = input.walletId → row.type ≠ .transfer) ∧
      ∀ id ∈ row.installmentId, s.installmentOn input.walletId id → row.walletId = input.walletId
  | _ => True

instance (call : Call) (seen : List Store) (s : Store) : Decidable (Undisturbed call seen s) := by
  unfold Undisturbed
  split <;> infer_instance

/-- A transaction that is as it was read is as its reader has it. -/
theorem AsRead.of_read {id userId : Id} {seen : List Store} {s s₁ : Store} {existing : Transaction}
    (same : AsRead id seen s) (first : seen.head? = some s₁)
    (own : s₁.ownTransaction id userId = some existing) :
    ∀ row, s.transactions.find? id = some row → row.ledger = existing.ledger :=
  fun row found => same s₁ first existing (Store.ownTransaction_eq_some.mp own).1 row found

/-- Every write that meets an undisturbed store keeps it balanced. -/
theorem Commit.balanced {between : Store → Store → Prop} (reading : Reading between) {zone : Zone}
    {call : Call} {seen : List Store} {s s' : Store} (commit : Commit between zone call seen s s')
    (numbered : s.Numbered) (backed : ∀ s₁, between s₁ s → s₁.Backed)
    (unnamed : ∀ input, call.request = .createWallet input → ∀ row ∈ s.transactions.rows,
      row.walletId ≠ s.nextId ∧ row.toWalletId ≠ some s.nextId)
    (undisturbed : Undisturbed call seen s) (balanced : s.Balanced) : s'.Balanced := by
  -- A wallet that is not written keeps its balance and its opening one.
  have unchanged : ∀ wallet ∈ s.wallets.rows, ∃ before ∈ s.wallets.rows, wallet.id = before.id ∧
      wallet.balance = before.balance ∧ wallet.initialBalance = before.initialBalance :=
    fun wallet member => ⟨wallet, member, rfl, rfl, rfl⟩
  -- Only posted rows and wallets matter to a balance, and the other commits leave both.
  cases commit with
  | walletCreated asked made =>
    -- No row names a wallet that is only now created.
    have apart := unnamed _ asked
    rw [← made.id] at apart
    rw [made.after]
    exact balanced.insertWallet made.inserted made.seeded apart _
  | walletEdited asked made =>
    rw [made.after]
    -- An edit leaves the balances.
    refine balanced.congr (fun wallet member => ?_) fun _ _ => rfl
    obtain old | ⟨before, found, rfl⟩ := Table.mem_update (fun _ => by rfl) member
    · exact unchanged wallet old
    · exact ⟨before, Table.mem_of_find? found, rfl, rfl, rfl⟩
  | walletDeleted asked made =>
    -- Nothing else moved money between the wallet and another one.
    simp only [Undisturbed, asked] at undisturbed
    exact made.balanced balanced (fun row member => (undisturbed row member).1)
      fun row member => (undisturbed row member).2
  | regularCreated asked made => exact made.balanced balanced
  | creditCreated asked made => exact made.balanced balanced (backed s (reading.stays s))
  | transactionUpdated asked made =>
    simp only [Undisturbed, asked] at undisturbed
    obtain ⟨s₁, first, -, own⟩ := made.read
    exact made.balanced balanced (undisturbed.of_read first own)
  | regularDeleted asked made =>
    simp only [Undisturbed, asked] at undisturbed
    obtain ⟨s₁, first, -, own⟩ := made.read
    exact made.balanced balanced (undisturbed.1.of_read first own)
  | @installmentDeleted input existing _ asked made =>
    simp only [Undisturbed, asked] at undisturbed
    -- The row is the one that was read, so it names the plan that was read.
    obtain ⟨s₁, first, -, own, -⟩ := made.read
    have same := undisturbed.1.of_read first own
    obtain ⟨row, found⟩ := Option.isSome_iff_exists.mp made.found
    have link : row.installmentId = existing.installmentId :=
      congrArg LedgerTransaction.installmentId (same row found)
    refine made.balanced balanced reading numbered backed same fun id named => ?_
    exact undisturbed.2 row found id (link ▸ named)
  | installmentPaid asked made => exact made.balanced balanced
  | reminderConfirmed asked made => exact made.balanced balanced
  | templateCreated asked made =>
    rw [made.after]
    exact balanced.congr unchanged fun _ _ => rfl
  | templateEdited asked made =>
    rw [made.after]
    exact balanced.congr unchanged fun _ _ => rfl
  | templateReminded asked made =>
    rw [made.after]
    exact balanced.congr unchanged fun _ _ => rfl
  | installmentReminded asked made =>
    rw [made.after]
    exact balanced.congr unchanged fun _ _ => rfl
  | eventRead asked made =>
    rw [made.after]
    exact balanced.congr unchanged fun _ _ => rfl
  | categoryCreated asked made =>
    rw [made.after]
    exact balanced.congr unchanged fun _ _ => rfl

end PocketMint
