import PocketMint.Proofs.LedgerRaces

/-! Which written transactions follow the rules that a creation enforces on its wallets. -/

namespace PocketMint

open Prog TransactionService

/-- The type of a stored wallet. -/
def Store.walletType (s : Store) (id : Id) : Option WalletType :=
  (s.wallets.find? id).map Wallet.type

/--
The rules that a creation enforces, for the wallet types of a store.

An income is on an asset. An expense is never on a loan, and on a credit wallet only when an
instalment backs it. A transfer leaves an asset for another wallet.
-/
def Store.PostingRules (s : Store) (row : Transaction) : Prop :=
  match row.type with
  | .income => ∃ type ∈ s.walletType row.walletId, type.isAsset
  | .expense => ∃ type ∈ s.walletType row.walletId,
      type ≠ .loan ∧ (type.isCredit → row.isInstallment ∧ row.installmentId.isSome)
  | .transfer => (∃ type ∈ s.walletType row.walletId, type.isAsset) ∧
      ∃ id ∈ row.toWalletId, id ≠ row.walletId

instance (s : Store) : DecidablePred s.PostingRules := fun row => by
  unfold Store.PostingRules
  cases row.type <;> infer_instance

/--
What a call needs of the store for its transaction to follow the rules.

An update does not leave an expense on a liability, a payment's source is not the instalment's own
wallet, and a confirmed reminder's template is on an asset. A creation needs nothing: it checks.
-/
def Call.PostsByRules (call : Call) (s : Store) : Prop :=
  match call.request with
  | .updateTransaction input => ∀ existing ∈ s.transactions.find? input.id,
      input.type.truthy.getD existing.type = .expense →
      ∀ id ∈ newWalletId input existing, ∀ type ∈ s.walletType id, type.isAsset
  | .payInstallment input => ∀ installment ∈ s.installments.find? input.installmentId,
      input.sourceWalletId ≠ .given installment.walletId
  | .confirmReminder input => ∀ event ∈ s.events.find? input.id, ∀ templateId ∈ event.templateId,
      ∀ template ∈ s.templates.find? templateId,
      ∀ type ∈ s.walletType template.walletId, type.isAsset
  | _ => True

instance (call : Call) : DecidablePred call.PostsByRules := fun s => by
  unfold Call.PostsByRules
  rcases call with ⟨_, _ | _⟩ <;> infer_instance

/-- Crediting balances changes no wallet's type. -/
@[simp] theorem Store.walletType_credit (s : Store) (deltas : List WalletDelta) (id : Id) :
    (s.credit deltas).walletType id = s.walletType id := by
  simp only [walletType, credit, Table.find?_mapRows, Option.map_map]
  rfl

/-- An expense that no instalment backs is allowed on assets only. -/
theorem WalletType.isAsset_iff_expense {type : WalletType} :
    type.isAsset ↔ type ≠ .loan ∧ type.isCredit = false := by
  cases type <;> decide

section Posted

variable {zone : Zone} {call : Call} {seen : List Store} {row : Transaction} {s s' : Store}

/-- A posting write changes no wallet's type. -/
theorem Posting.walletType (posting : Posting Eq zone call seen row s s') (id : Id) :
    s'.walletType id = s.walletType id := by
  cases posting with
  | _ asked made =>
    rw [made.after]
    simp only [Store.walletType_credit]
    rfl

/-- A wallet that was read in the store is of the type it was read with. -/
theorem Store.walletType_own {id userId : Id} {wallet : Wallet}
    (own : s.ownWallet id userId = some wallet) : s.walletType id = some wallet.type := by
  rw [Store.walletType, (Store.ownWallet_eq_some.mp own).1, Option.map_some]

/-- A row whose wallet is of a type follows the rules when the type allows it. -/
theorem Store.postingRules_iff {type : WalletType} (onWallet : s.walletType row.walletId = some type) :
    s.PostingRules row ↔
      match row.type with
      | .income => type.isAsset
      | .expense => type ≠ .loan ∧ (type.isCredit → row.isInstallment ∧ row.installmentId.isSome)
      | .transfer => type.isAsset ∧ ∃ id ∈ row.toWalletId, id ≠ row.walletId := by
  unfold Store.PostingRules
  cases row.type <;> simp [onWallet]

/-- An expense without an instalment follows the rules exactly when it is on an asset. -/
theorem Store.postingRules_expense {type : WalletType}
    (onWallet : s.walletType row.walletId = some type) (expense : row.type = .expense)
    (regular : row.isInstallment = false) : s.PostingRules row ↔ type.isAsset := by
  rw [Store.postingRules_iff onWallet, expense, WalletType.isAsset_iff_expense]
  simp [regular]

/-- What a creation posts follows the rules. -/
theorem RegularCreated.rules {now : Instant} {input : CreateTransactionInput}
    {type : FinancialTxType} {amount : Decimal} {date : Instant} {wallet : Wallet}
    {rows : Table Transaction}
    (made : RegularCreated Eq now input type amount date wallet row rows s s') :
    s.PostingRules row := by
  have own : s.ownWallet wallet.id input.userId = some wallet := made.source.alone
  have onWallet : s.walletType row.walletId = some wallet.type := by
    rw [made.shape]
    exact Store.walletType_own own
  have typed : row.type = type := congrArg Transaction.type made.shape
  have regular : row.isInstallment = false := congrArg Transaction.isInstallment made.shape
  -- Each type was checked against the wallet when the row was created.
  cases type with
  | income =>
    rw [Store.postingRules_iff onWallet, typed]
    exact (made.posted (by decide)).2
  | expense =>
    rw [Store.postingRules_expense onWallet typed regular]
    exact (made.posted (by decide)).2
  | transfer =>
    -- A transfer was checked for its source, its destination and their difference.
    obtain ⟨-, asset, -, dest, sent, distinct, -⟩ := made.transfer rfl
    rw [Store.postingRules_iff onWallet, typed]
    refine ⟨asset, dest, ?_, ?_⟩
    · exact (congrArg Transaction.toWalletId made.shape).trans sent
    · rw [congrArg Transaction.walletId made.shape]
      exact distinct

/-- A credit purchase follows the rules, because an instalment backs it. -/
theorem CreditCreated.rules {now : Instant} {input : CreateTransactionInput}
    {principal rate : Decimal} {months : Int} {mode : BillKind} {plan : InstallmentPlan}
    {date nextDueDate : Instant} {wallet : Wallet} {installment : Installment}
    {installments : Table Installment} {rows : Table Transaction}
    (made : CreditCreated Eq zone now input principal rate months mode plan date nextDueDate wallet
      installment row installments rows s s') : s.PostingRules row := by
  have own : s.ownWallet wallet.id input.userId = some wallet := made.source.alone
  have onWallet : s.walletType row.walletId = some wallet.type := by
    rw [made.shape]
    exact Store.walletType_own own
  -- A purchase on credit is an expense of a credit wallet, with its instalment.
  have typed : row.type = .expense := congrArg Transaction.type made.shape
  rw [Store.postingRules_iff onWallet, typed]
  -- The credit wallet is no loan, since its type was read when the plan was made.
  have credit := made.credit
  refine ⟨?_, fun _ => ?_⟩
  · rintro loan
    rw [loan] at credit
    cases credit
  · rw [made.shape]
    exact ⟨rfl, rfl⟩

/-- The row an update finds is the one it read, so the update decides the new row's wallet. -/
theorem TransactionUpdated.stored {input : UpdateTransactionInput} {existing : Transaction}
    {type : FinancialTxType} {amount : Decimal} {walletId : Id} {date : Option Instant}
    (made : TransactionUpdated Eq seen input existing type amount walletId date s s') :
    s.transactions.find? input.id = some existing := by
  obtain ⟨_, -, rfl, own⟩ := made.read
  exact (Store.ownTransaction_eq_some.mp own).1

theorem TransactionUpdated.walletId_eq {between : Store → Store → Prop}
    {input : UpdateTransactionInput} {existing : Transaction} {type : FinancialTxType}
    {amount : Decimal} {walletId : Id} {date : Option Instant} {toWalletId : Option Id}
    (made : TransactionUpdated between seen input existing type amount walletId date s s') :
    (updatedRow input type amount walletId toWalletId date existing).walletId = walletId := by
  have source := made.source
  cases sent : input.walletId with
  | omitted =>
    simp only [newWalletId, sent, Option.some.injEq] at source
    simp [updatedRow, sent, source]
  | invalid => simp [newWalletId, sent] at source
  | given id => simp [updatedRow, sent]

/-- What an update posts follows the rules exactly when it leaves no expense on a liability. -/
theorem TransactionUpdated.rules_iff {input : UpdateTransactionInput} {existing : Transaction}
    {type : FinancialTxType} {amount : Decimal} {walletId : Id} {date : Option Instant}
    (asked : call.request = .updateTransaction input)
    (made : TransactionUpdated Eq seen input existing type amount walletId date s s')
    (shape : row = updatedRow input type amount walletId (newToWalletId input existing type) date
      existing) : s.PostingRules row ↔ call.PostsByRules s := by
  have stored := made.stored
  have walletOf : row.walletId = walletId := by
    rw [shape]
    exact made.walletId_eq
  have typed : row.type = type := by
    rw [shape]
    exact made.typed.symm
  have regular : row.isInstallment = false := by
    rw [shape]
    exact made.regular
  -- The new wallet is there, since the row's foreign keys hold.
  obtain ⟨wallet, found⟩ : ∃ wallet, s.wallets.find? walletId = some wallet := by
    have keys := (made.keys existing stored).1
    rw [made.walletId_eq] at keys
    exact Option.isSome_iff_exists.mp keys
  have onWallet : s.walletType row.walletId = some wallet.type := by
    rw [walletOf, Store.walletType, found, Option.map_some]
  have source := made.source
  -- The type that the update resolves and the type of its new wallet decide the condition.
  have kind := made.typed
  have condition : call.PostsByRules s ↔ (type = .expense → wallet.type.isAsset) := by
    simp [Call.PostsByRules, asked, stored, source, Store.walletType, found, ← kind]
  rw [condition]
  cases type with
  | income =>
    -- An income was checked against the wallet that was read, which is the stored one.
    simp only [reduceCtorEq, false_implies, iff_true]
    obtain ⟨_, rfl, read, own, asset⟩ := made.posted (by decide) (.inr rfl)
    rw [Store.postingRules_iff onWallet, typed]
    obtain rfl : wallet = read :=
      Option.some.inj (found.symm.trans (Store.ownWallet_eq_some.mp own).1)
    exact asset rfl
  | expense =>
    -- An expense is posted as the request resolves it, on whatever wallet that is.
    rw [Store.postingRules_expense onWallet typed regular]
    simp
  | transfer =>
    -- A transfer was checked at both ends, as in a creation.
    simp only [reduceCtorEq, false_implies, iff_true]
    obtain ⟨-, ⟨_, rfl, read, own, asset, -⟩, dest, sent, distinct, -⟩ := made.transfer rfl
    obtain rfl : wallet = read :=
      Option.some.inj (found.symm.trans (Store.ownWallet_eq_some.mp own).1)
    rw [Store.postingRules_iff onWallet, typed]
    refine ⟨asset, dest, ?_, walletOf ▸ distinct⟩
    rw [shape]
    exact sent

/-- What a payment posts follows the rules exactly when its source is not the instalment's wallet. -/
theorem InstallmentPaid.rules_iff {input : PayInstallmentInput} {installment : Installment}
    {walletName : String} {source : Wallet} {date due : Instant} {rows : Table Transaction}
    (asked : call.request = .payInstallment input)
    (made : InstallmentPaid Eq zone call.now seen input installment walletName source date due row
      rows s s') : s.PostingRules row ↔ call.PostsByRules s := by
  -- The instalment that was read is the stored one, since nothing ran in between.
  obtain ⟨s₁, -, same, own⟩ := made.read
  rw [same] at own
  have here := (Store.ownInstallment_eq_some.mp own).1
  have held : s.ownWallet source.id input.userId = some source := made.held.alone
  have shape := made.shape
  have onWallet : s.walletType row.walletId = some source.type := by
    rw [shape]
    exact Store.walletType_own held
  -- A payment is a transfer, which must not go back to its own wallet.
  have condition : call.PostsByRules s ↔ source.id ≠ installment.walletId := by
    simp [Call.PostsByRules, asked, here, made.named]
  rw [condition, Store.postingRules_iff onWallet]
  have asset := made.asset
  rw [shape]
  simp [InstallmentPaymentService.paymentRow, asset, eq_comm]

/-- What a confirmation posts follows the rules exactly when its template is on an asset. -/
theorem ReminderConfirmed.rules_iff {input : ConfirmReminderInput}
    {existing : NotificationWithTemplate} {template : TemplateRef} {categoryId : Id}
    {amount : Decimal} {rows : Table Transaction} (asked : call.request = .confirmReminder input)
    (made : ReminderConfirmed Eq call.now seen input existing template categoryId amount row rows
      s s') : s.PostingRules row ↔ call.PostsByRules s := by
  -- The same holds of the reminder, whose template is joined when it is read.
  obtain ⟨s₁, -, same, read⟩ := made.read
  rw [same] at read
  obtain ⟨event, own, rfl⟩ := Option.map_eq_some_iff.mp read
  have here := (Store.ownEvent_eq_some.mp own).1
  -- The reminder names the template that it was confirmed from.
  obtain ⟨templateId, names, joined⟩ := Option.bind_eq_some_iff.mp made.sourced
  obtain ⟨stored, there, rfl⟩ := Option.map_eq_some_iff.mp joined
  obtain ⟨wallet, found⟩ := Option.isSome_iff_exists.mp made.keys.1
  have shape := made.shape
  have walletOf : row.walletId = stored.walletId := congrArg Transaction.walletId shape
  have onWallet : s.walletType row.walletId = some wallet.type := by
    rw [Store.walletType, found, Option.map_some]
  -- What the confirmation does not check is whether the template's wallet holds assets.
  have condition : call.PostsByRules s ↔ wallet.type.isAsset := by
    have names : event.templateId = some templateId := names
    rw [walletOf] at onWallet
    simp [Call.PostsByRules, asked, here, names, there, onWallet]
  have typed : row.type = stored.type := congrArg Transaction.type shape
  have regular : row.isInstallment = false := congrArg Transaction.isInstallment shape
  have posted : stored.type ≠ .transfer := made.posted
  rw [condition]
  -- An expense needs the check and an income brings it, while a transfer is refused.
  cases kind : stored.type with
  | income => rw [Store.postingRules_iff onWallet, typed, kind]
  | expense => exact Store.postingRules_expense onWallet (typed.trans kind) regular
  | transfer => exact absurd kind posted

/-- A posted row follows the rules exactly when its call met what it needs. -/
theorem Posting.rules_iff (posting : Posting Eq zone call seen row s s') :
    s'.PostingRules row ↔ call.PostsByRules s := by
  -- The write leaves the wallets' types alone, so that the rules are those of the state before it.
  have types := posting.walletType
  have still : s'.PostingRules row ↔ s.PostingRules row := by
    simp only [Store.PostingRules, types]
  rw [still]
  -- The rules hold of what was checked, and the condition is what was not.
  cases posting with
  | regular asked made =>
    simp only [Call.PostsByRules, asked, iff_true]
    exact made.rules
  | credit asked made =>
    simp only [Call.PostsByRules, asked, iff_true]
    exact made.rules
  | update asked made stored shape =>
    obtain rfl := Option.some.inj (made.stored.symm.trans stored)
    exact made.rules_iff asked shape
  | payment asked made => exact made.rules_iff asked
  | confirmation asked made => exact made.rules_iff asked

end Posted

/--
A transaction that a call reports as written follows the rules a creation enforces, for the wallet
types at that moment, exactly when the call meets what it needs.
-/
theorem serve_posts_by_rules_iff {zone : Zone} {s : Store} (reached : Reachable zone s) {call : Call}
    {row : Transaction} (posted : reported (serve zone s call).1 = some row) :
    (serve zone s call).2.PostingRules row ↔ call.PostsByRules s := by
  obtain ⟨seen, posting⟩ := serve_posting reached.numbered posted
  exact posting.rules_iff

/-- An edit of the amount leaves the purchase on the bank account. -/
theorem serve_posts_by_rules_bank :
    let s := serveAll defaultTimezone.zone .empty spent
    let edited := serve defaultTimezone.zone s (respent 200)
    ∃ row, reported edited.1 = some row ∧ edited.2.PostingRules row := by
  intro s edited
  have reached : Reachable defaultTimezone.zone s := ⟨spent, rfl⟩
  have met : (respent 200).PostsByRules s := by decide
  have reports : (reported edited.1).isSome := by decide
  obtain ⟨row, posted⟩ := Option.isSome_iff_exists.mp reports
  exact ⟨row, posted, (serve_posts_by_rules_iff reached posted).mpr met⟩

/-- The purchase moved to the credit card, as an expense that no instalment backs. -/
def moved : Call :=
  { now := 1, request := .updateTransaction { userId := 1, id := 14, walletId := .given 13 } }

/-- An update moves an expense to a card, which a creation refuses. -/
theorem updateTransaction_breaks_rules :
    let s := serveAll defaultTimezone.zone .empty spent
    let edited := serve defaultTimezone.zone s moved
    (reported edited.1).map (fun row => decide (edited.2.PostingRules row)) = some false := by
  decide

end PocketMint
