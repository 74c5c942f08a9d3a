import PocketMint.Store.Schema
import PocketMint.Program.Prog

/-! The database client: checked writes inside one transaction, and the schema's referential actions. -/

namespace PocketMint

/-- How a request fails. -/
inductive Failure where
  /-- A refusal by a service, with the status and code its response carries. -/
  | service (message : String) (status : Nat) (code : String)
  /-- An error code of the database client. -/
  | prisma (code : String)
  /-- A value the database client cannot write to its column. -/
  | validation
  /-- An error thrown by a calculation. -/
  | thrown (message : String)
  deriving DecidableEq

/-- A service call over the database. -/
abbrev Service (α : Type) := Prog Store Failure α

/-- A body that runs inside one database transaction. -/
abbrev Tx (α : Type) := StateT Store (Except Failure) α

/-- Run a body as one transaction, with the errors it throws rewritten. -/
def commit {α : Type} (rethrow : Failure → Failure) (body : Tx α) : Service α :=
  Prog.transact fun s => (body s).mapError rethrow

namespace Store

/-- Every foreign key of a transaction row points to a row. -/
def TransactionKeys (s : Store) (row : Transaction) : Prop :=
  (s.wallets.find? row.walletId).isSome ∧
  (∀ id ∈ row.toWalletId, (s.wallets.find? id).isSome) ∧
  (∀ id ∈ row.categoryId, (s.categories.find? id).isSome) ∧
  (∀ id ∈ row.installmentId, (s.installments.find? id).isSome)

/-- Every foreign key of an instalment row points to a row. -/
def InstallmentKeys (s : Store) (row : Installment) : Prop :=
  (s.wallets.find? row.walletId).isSome

/-- Every foreign key of a template row points to a row. -/
def TemplateKeys (s : Store) (row : RecurringTransactionTemplate) : Prop :=
  (s.wallets.find? row.walletId).isSome ∧
  (∀ id ∈ row.categoryId, (s.categories.find? id).isSome)

/-- Every foreign key of a reminder row points to a row. -/
def EventKeys (s : Store) (row : RecurringReminderEvent) : Prop :=
  (∀ id ∈ row.templateId, (s.templates.find? id).isSome) ∧
  (∀ id ∈ row.installmentId, (s.installments.find? id).isSome) ∧
  (∀ id ∈ row.generatedTransactionId, (s.transactions.find? id).isSome)

instance (s : Store) : DecidablePred s.TransactionKeys := fun _ => by
  unfold TransactionKeys; infer_instance

instance (s : Store) : DecidablePred s.InstallmentKeys := fun _ => by
  unfold InstallmentKeys; infer_instance

instance (s : Store) : DecidablePred s.TemplateKeys := fun _ => by
  unfold TemplateKeys; infer_instance

instance (s : Store) : DecidablePred s.EventKeys := fun _ => by
  unfold EventKeys; infer_instance

/-! Referential actions of the schema. -/

/-- Delete a transaction; a reminder it was made from forgets it. -/
def deleteTransaction (s : Store) (id : Id) : Store :=
  { s with
    transactions := s.transactions.erase id
    events := s.events.mapRows fun row =>
      { row with generatedTransactionId := row.generatedTransactionId.filter (· ≠ id) } }

/-- Delete an instalment with its reminders; transactions forget it. -/
def deleteInstallment (s : Store) (id : Id) : Store :=
  { s with
    installments := s.installments.erase id
    transactions := s.transactions.mapRows fun row =>
      { row with installmentId := row.installmentId.filter (· ≠ id) }
    events := s.events.filter fun row => row.installmentId ≠ some id }

/-- Delete a template with its reminders. -/
def deleteTemplate (s : Store) (id : Id) : Store :=
  { s with
    templates := s.templates.erase id
    events := s.events.filter fun row => row.templateId ≠ some id }

/-- Whether an instalment belongs to a wallet. -/
def installmentOn (s : Store) (walletId id : Id) : Bool :=
  (s.installments.find? id).any fun row => row.walletId = walletId

/-- Whether a template belongs to a wallet. -/
def templateOn (s : Store) (walletId id : Id) : Bool :=
  (s.templates.find? id).any fun row => row.walletId = walletId

/-- Whether a transaction belongs to a wallet. -/
def transactionOn (s : Store) (walletId id : Id) : Bool :=
  (s.transactions.find? id).any fun row => row.walletId = walletId

/-- Delete a wallet with its transactions, instalments, templates and their reminders. -/
def deleteWallet (s : Store) (id : Id) : Store :=
  { s with
    wallets := s.wallets.erase id
    transactions := (s.transactions.filter fun row => row.walletId ≠ id).mapRows fun row =>
      { row with
        toWalletId := row.toWalletId.filter (· ≠ id)
        installmentId := row.installmentId.filter fun other => !s.installmentOn id other }
    installments := s.installments.filter fun row => row.walletId ≠ id
    templates := s.templates.filter fun row => row.walletId ≠ id
    events := (s.events.filter fun row =>
        !row.templateId.any (s.templateOn id) && !row.installmentId.any (s.installmentOn id)).mapRows
      fun row =>
        { row with
          generatedTransactionId :=
            row.generatedTransactionId.filter fun other => !s.transactionOn id other } }

end Store

namespace Tx

variable {α β : Type}

/-- Throw inside a transaction. -/
def refuse (error : Failure) : Tx α := fun _ => .error error

/-- Carry a calculation's result or error into a transaction. -/
def lift (computed : Except String α) : Tx α := fun s =>
  match computed with
  | .ok value => .ok (value, s)
  | .error message => .error (.thrown message)

/-- Read the store inside a transaction. -/
def view (read : Store → α) : Tx α := fun s => .ok (read s, s)

/-- Insert a row under the next identifier, once its foreign keys hold. -/
def insert [Keyed α] (table : Store → Table α) (put : Store → Table α → Store)
    (keys : Store → α → Prop) [∀ s, DecidablePred (keys s)] (data : Id → α) : Tx α := fun s =>
  if ¬keys s (data s.nextId) then .error (.prisma "P2003")
  else
    match (table s).insert? (data s.nextId) with
    | none => .error (.prisma "P2002")
    | some after => .ok (data s.nextId, put { s with nextId := s.nextId + 1 } after)

/-- `category.create`. -/
def createCategory (data : Id → Category) : Tx Category :=
  insert Store.categories (fun s table => { s with categories := table }) (fun _ _ => True) data

/-- `wallet.create`. -/
def createWallet (data : Id → Wallet) : Tx Wallet :=
  insert Store.wallets (fun s table => { s with wallets := table }) (fun _ _ => True) data

/-- `transaction.create`. -/
def createTransaction (data : Id → Transaction) : Tx Transaction :=
  insert Store.transactions (fun s table => { s with transactions := table }) Store.TransactionKeys
    data

/-- `installment.create`. -/
def createInstallment (data : Id → Installment) : Tx Installment := fun s =>
  -- Terms are paid from products of these amounts, so their range is part of the model.
  if ¬(data s.nextId).Fits then .error (.prisma "P2020")
  else
    insert Store.installments (fun s table => { s with installments := table })
      Store.InstallmentKeys data s

/-- `recurringTransactionTemplate.create`. -/
def createTemplate (data : Id → RecurringTransactionTemplate) : Tx RecurringTransactionTemplate :=
  insert Store.templates (fun s table => { s with templates := table }) Store.TemplateKeys data

/-- `recurringReminderEvent.create`. -/
def createEvent (data : Id → RecurringReminderEvent) : Tx RecurringReminderEvent :=
  insert Store.events (fun s table => { s with events := table }) Store.EventKeys data

/-- Write a row that must exist, once the foreign keys of its new value hold. -/
def modify [Keyed α] (find : Store → Option α) (put : Store → Store) (keys : Store → α → Prop)
    [∀ s, DecidablePred (keys s)] (rewrite : α → α) : Tx α := fun s =>
  match find s with
  | none => .error (.prisma "P2025")
  | some row =>
    if ¬keys s (rewrite row) then .error (.prisma "P2003") else .ok (rewrite row, put s)

/-- `wallet.update`. -/
def updateWallet (id : Id) (rewrite : Wallet → Wallet)
    (keeps : ∀ row, (rewrite row).id = row.id := by intro _; exact Eq.symm rfl) : Tx Wallet :=
  modify (fun s => s.wallets.find? id) (fun s => { s with wallets := s.wallets.update id rewrite keeps })
    (fun _ _ => True) rewrite

/-- `transaction.update`. -/
def updateTransaction (id : Id) (rewrite : Transaction → Transaction)
    (keeps : ∀ row, (rewrite row).id = row.id := by intro _; exact Eq.symm rfl) : Tx Transaction :=
  modify (fun s => s.transactions.find? id)
    (fun s => { s with transactions := s.transactions.update id rewrite keeps })
    Store.TransactionKeys rewrite

/-- `installment.update`. -/
def updateInstallment (id : Id) (rewrite : Installment → Installment)
    (keeps : ∀ row, (rewrite row).id = row.id := by intro _; exact Eq.symm rfl) : Tx Installment :=
  modify (fun s => s.installments.find? id)
    (fun s => { s with installments := s.installments.update id rewrite keeps })
    Store.InstallmentKeys rewrite

/-- `recurringTransactionTemplate.update`. -/
def updateTemplate (id : Id)
    (rewrite : RecurringTransactionTemplate → RecurringTransactionTemplate)
    (keeps : ∀ row, (rewrite row).id = row.id := by intro _; exact Eq.symm rfl) :
    Tx RecurringTransactionTemplate :=
  modify (fun s => s.templates.find? id)
    (fun s => { s with templates := s.templates.update id rewrite keeps }) Store.TemplateKeys rewrite

/-- `recurringReminderEvent.update`. -/
def updateEvent (id : Id) (rewrite : RecurringReminderEvent → RecurringReminderEvent)
    (keeps : ∀ row, (rewrite row).id = row.id := by intro _; exact Eq.symm rfl) : Tx RecurringReminderEvent :=
  modify (fun s => s.events.find? id)
    (fun s => { s with events := s.events.update id rewrite keeps }) Store.EventKeys rewrite

/-- Delete a row that must exist, with the referential actions of its deletion. -/
def delete (find : Store → Option α) (action : Store → Store) : Tx Unit := fun s =>
  match find s with
  | none => .error (.prisma "P2025")
  | some _ => .ok ((), action s)

/-- `wallet.delete`. -/
def deleteWallet (id : Id) : Tx Unit := delete (fun s => s.wallets.find? id) (·.deleteWallet id)

/-- `transaction.delete`. -/
def deleteTransaction (id : Id) : Tx Unit :=
  delete (fun s => s.transactions.find? id) (·.deleteTransaction id)

/-- `installment.delete`. -/
def deleteInstallment (id : Id) : Tx Unit :=
  delete (fun s => s.installments.find? id) (·.deleteInstallment id)

/-- `recurringTransactionTemplate.delete`. -/
def deleteTemplate (id : Id) : Tx Unit :=
  delete (fun s => s.templates.find? id) (·.deleteTemplate id)

/--
`wallet.update({ data: { balance: { increment } } })`.

A money column may hold less than what is assigned to it, and what it makes of a value is a parameter of the
services that post; where nothing depends on it, a column holds every value.
-/
def incrementBalance (walletId : Id) (amount : Decimal) (column : Decimal → Decimal := id) : Tx Wallet :=
  updateWallet walletId fun row => { row with balance := column (row.balance + amount) }

end Tx

/-- Apply signed deltas to wallet balances by atomic increments. -/
def applyBalanceDeltas (deltas : List WalletDelta) (column : Decimal → Decimal := id) : Tx Unit :=
  match deltas with
  | [] => pure ()
  | delta :: rest => do
    if delta.amount ≠ 0 then
      let _ ← Tx.incrementBalance delta.walletId delta.amount column
    applyBalanceDeltas rest column

end PocketMint
