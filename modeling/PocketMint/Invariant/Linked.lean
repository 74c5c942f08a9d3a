import PocketMint.Commit.Runs
import PocketMint.Store.Linked

/-! Every foreign key of every row that any run writes points to a row of the same user. -/

namespace PocketMint

open Prog

section Reading

/-! What a request read as its user's is still the user's when its write finds it. -/

variable {between : Store → Store → Prop} (reading : Reading between) {s : Store}
  (numbered : s.Numbered) {userId id : Id}

include reading numbered

theorem WalletRead.own (read : WalletRead between userId id s)
    (present : (s.wallets.find? id).isSome) : (s.ownWallet id userId).isSome := by
  obtain ⟨s₁, moved, own⟩ := read
  obtain ⟨before, owned⟩ := Option.isSome_iff_exists.mp own
  obtain ⟨found, user⟩ := Store.ownWallet_eq_some.mp owned
  obtain ⟨row, here⟩ := Option.isSome_iff_exists.mp present
  -- The owner of a wallet is frozen, so the wallet of now is still the user's.
  have frozen := (reading.evolves moved).wallets.frozen ((reading.numbered moved).mpr numbered).wallets
    found here
  exact Option.isSome_iff_exists.mpr ⟨row, Store.ownWallet_eq_some.mpr ⟨here, frozen.1.trans user⟩⟩

theorem CategoryOwned.own (read : CategoryOwned between userId id s)
    (present : (s.categories.find? id).isSome) : (s.ownCategory id userId).isSome := by
  obtain ⟨s₁, moved, own⟩ := read
  obtain ⟨before, owned⟩ := Option.isSome_iff_exists.mp own
  obtain ⟨found, user⟩ := Store.ownCategory_eq_some.mp owned
  obtain ⟨row, here⟩ := Option.isSome_iff_exists.mp present
  -- A category is never rewritten.
  obtain rfl : before = row := (reading.evolves moved).categories.frozen
    ((reading.numbered moved).mpr numbered).categories found here
  exact Option.isSome_iff_exists.mpr ⟨before, Store.ownCategory_eq_some.mpr ⟨here, user⟩⟩

/-- A transaction that was read as the user's and is still there is the one that was read. -/
theorem Store.ownTransaction_later {s₁ : Store} {existing row : Transaction} (moved : between s₁ s)
    (own : s₁.ownTransaction id userId = some existing) (found : s.transactions.find? id = some row) :
    existing.Frozen row ∧ row.userId = userId := by
  -- The owner is frozen, so the row has the one that was read.
  obtain ⟨here, user⟩ := Store.ownTransaction_eq_some.mp own
  have frozen := (reading.evolves moved).transactions.frozen
    ((reading.numbered moved).mpr numbered).transactions
    here found
  exact ⟨frozen, frozen.1.trans user⟩

/-- An instalment that was read as the user's and is still there is the one that was read. -/
theorem Store.ownInstallment_later {s₁ : Store} {existing row : Installment} (moved : between s₁ s)
    (own : s₁.ownInstallment id userId = some existing) (found : s.installments.find? id = some row) :
    existing.Frozen row ∧ row.userId = userId := by
  -- An instalment keeps its owner as well.
  obtain ⟨here, user⟩ := Store.ownInstallment_eq_some.mp own
  have frozen := (reading.evolves moved).installments.frozen
    ((reading.numbered moved).mpr numbered).installments
    here found
  exact ⟨frozen, frozen.1.trans user⟩

/-- A template that was read as the user's and is still there is still the user's. -/
theorem Store.ownTemplate_later {s₁ : Store} {existing row : RecurringTransactionTemplate}
    (moved : between s₁ s) (own : s₁.ownTemplate id userId = some existing)
    (found : s.templates.find? id = some row) : row.userId = userId := by
  -- And so does a template.
  obtain ⟨here, user⟩ := Store.ownTemplate_eq_some.mp own
  have frozen := (reading.evolves moved).templates.frozen ((reading.numbered moved).mpr numbered).templates
    here found
  exact Eq.trans frozen user

end Reading

/-- A wallet that was read with some property was read as the user's. -/
theorem WalletRead.of_property {between : Store → Store → Prop} {fact : Wallet → Prop} {userId id : Id}
    {s : Store}
    (read : Before between (fun s₁ => ∃ wallet, s₁.ownWallet id userId = some wallet ∧ fact wallet) s) :
    WalletRead between userId id s := by
  obtain ⟨s₁, moved, wallet, own, -⟩ := read
  exact ⟨s₁, moved, by simp [own]⟩

/-- A category that was read with its type was read as the user's. -/
theorem CategoryRead.owned {between : Store → Store → Prop} {userId : Id} {categoryId : Option Id}
    {type : FinancialTxType} {s : Store} (read : CategoryRead between userId categoryId type s)
    {id : Id} (named : id ∈ categoryId) : CategoryOwned between userId id s := by
  obtain ⟨s₁, moved, category, own, -⟩ := read id named
  exact ⟨s₁, moved, by simp [own]⟩

/-- A wallet that was read as it was, was read as the user's. -/
theorem walletRead_of_row {between : Store → Store → Prop} {userId : Id} {wallet : Wallet} {s : Store}
    (read : Before between (fun s₁ => s₁.ownWallet wallet.id userId = some wallet) s) :
    WalletRead between userId wallet.id s := by
  obtain ⟨s₁, moved, own⟩ := read
  exact ⟨s₁, moved, by simp [own]⟩

section Writes

/-! The rows of each write are linked in the store they are written to. -/

variable {between : Store → Store → Prop} (reading : Reading between) {zone : Zone} {now : Instant}
  {seen : List Store} {s s' : Store} (numbered : s.Numbered) (linked : s.Linked)

include reading numbered

theorem RegularCreated.links {input : CreateTransactionInput} {type : FinancialTxType}
    {amount : Decimal} {date : Instant} {wallet : Wallet} {row : Transaction}
    {rows : Table Transaction}
    (made : RegularCreated between now input type amount date wallet row rows s s') :
    s.TransactionLinks row := by
  -- The database has checked that the keys exist, and the request that they are the user's.
  have keys := made.keys
  obtain rfl := made.shape
  refine ⟨(walletRead_of_row made.source).own reading numbered keys.1, fun id named => ?_,
    fun id named => ?_, by simp [TransactionService.regularRow]⟩
  · -- Only a transfer has a destination, and it was read.
    have transfer : type = .transfer := by
      by_contra other
      simp [TransactionService.regularRow, TransactionService.destination, other] at named
    obtain ⟨_, _, _, toWalletId, sent, _, read⟩ := made.transfer transfer
    obtain rfl : toWalletId = id := Option.some.inj (sent.symm.trans named)
    exact read.own reading numbered (keys.2.1 _ named)
  · exact (made.category.owned named).own reading numbered (keys.2.2.1 _ named)

/-- A credit purchase links its instalment, and its row in any store that has the instalment. -/
theorem CreditCreated.links {input : CreateTransactionInput} {principal rate : Decimal} {months : Int}
    {mode : BillKind} {plan : InstallmentPlan} {date nextDueDate : Instant} {wallet : Wallet}
    {installment : Installment} {row : Transaction} {installments : Table Installment}
    {rows : Table Transaction}
    (made : CreditCreated between zone now input principal rate months mode plan date nextDueDate
      wallet installment row installments rows s s') :
    s.InstallmentLinks installment ∧ Store.TransactionLinks
      { s with nextId := s.nextId + 2, installments, transactions := rows } row := by
  -- The two rows name the wallet that was read, and the row names its new instalment.
  have own := (walletRead_of_row made.source).own reading numbered made.present
  have categorized := made.categorized
  have backed := Table.find?_inserted made.backed
  obtain rfl := made.shape
  -- The keys were checked when the row was written.
  obtain rfl := made.backing
  refine ⟨own, own, by simp [TransactionService.creditRow], fun id named => ?_, fun id named => ?_⟩
  · exact (made.category.owned named).own reading numbered (categorized _ named)
  · obtain rfl : s.nextId = id := Option.some.inj named
    exact Option.isSome_iff_exists.mpr ⟨_, Store.ownInstallment_eq_some.mpr ⟨backed, rfl⟩⟩

theorem InstallmentPaid.links {input : PayInstallmentInput} {installment : Installment}
    {walletName : String} {source : Wallet} {date due : Instant} {row : Transaction}
    {rows : Table Transaction} (linked : s.Linked)
    (made : InstallmentPaid between zone now seen input installment walletName source date due row
      rows s s') : s.TransactionLinks row := by
  have keys := made.keys
  obtain rfl := made.shape
  obtain ⟨s₁, -, moved, own⟩ := made.read
  -- The transfer goes from the wallet that was read to that of the instalment.
  refine ⟨(walletRead_of_row made.held).own reading numbered keys.1, fun id named => ?_,
    by simp [InstallmentPaymentService.paymentRow], by simp [InstallmentPaymentService.paymentRow]⟩
  -- The instalment is still there, on the wallet that was read.
  obtain ⟨stored, found⟩ := Option.isSome_iff_exists.mp made.found
  have same : installment.id = input.installmentId :=
    Table.key_of_find? (Store.ownInstallment_eq_some.mp own).1
  obtain ⟨frozen, user⟩ :=
    Store.ownInstallment_later reading numbered moved own (same ▸ found)
  have links := linked.installments stored (Table.mem_of_find? found)
  obtain rfl : installment.walletId = id := Option.some.inj named
  rwa [Store.InstallmentLinks, frozen.2.1, user] at links

theorem TemplateCreated.links {input : CreateRecurringTransactionInput} {walletId : Id}
    {type : RecurringTransactionType} {amountMode : RecurringAmountMode} {amount : Option Decimal}
    {frequency : RecurrenceFrequency} {startDate : Instant} {endDate : Option Instant}
    {reminder : Bool × Option Int} {row : RecurringTransactionTemplate}
    {rows : Table RecurringTransactionTemplate}
    (made : TemplateCreated between input walletId type amountMode amount frequency startDate endDate
      reminder row rows s s') : s.TemplateLinks row := by
  have keys := made.keys
  obtain rfl := made.shape
  -- The wallet and the category were read for the user, and their keys still hold.
  exact ⟨made.wallet.own reading numbered keys.1,
    fun id named => (made.category id named).own reading numbered (keys.2 id named)⟩

theorem TemplateEdited.links {input : UpdateRecurringTransactionInput}
    {existing : RecurringTransactionTemplate} {amount : Option Decimal} {startDate : Instant}
    {endDate : Option Instant} {reminder : Bool × Option Int} (linked : s.Linked)
    (made : TemplateEdited between seen input existing amount startDate endDate reminder s s')
    {row : RecurringTransactionTemplate} (found : s.templates.find? input.id = some row) :
    s.TemplateLinks (RecurringTransactionService.editedTemplate input
      (input.amountMode.truthy.getD existing.amountMode) amount startDate endDate reminder row) := by
  obtain ⟨s₁, -, moved, own⟩ := made.read
  have user := Store.ownTemplate_later reading numbered moved own found
  have keys := made.keys row found
  have links := linked.templates row (Table.mem_of_find? found)
  -- A key that was sent was read, and one that was not is the stored one.
  constructor
  -- A template names one wallet, and perhaps a category.
  · cases sent : input.walletId with
    | given id =>
      have read := (made.wallet id sent).own reading numbered
      simpa [RecurringTransactionService.editedTemplate, sent, Arg.truthy, user] using
        read (by simpa [RecurringTransactionService.editedTemplate, sent, Arg.truthy] using keys.1)
    | _ => simpa [RecurringTransactionService.editedTemplate, sent, Arg.truthy] using links.1
  · intro id named
    cases sent : input.categoryId with
    | given other =>
      obtain rfl : other = id := by
        simpa [RecurringTransactionService.editedTemplate, sent, Arg.truthy] using named
      have read := (made.category other sent).own reading numbered (keys.2 _ named)
      simpa [RecurringTransactionService.editedTemplate, user] using read
    -- Otherwise the stored category stays.
    | _ =>
      have kept : row.categoryId = some id := by
        simpa [RecurringTransactionService.editedTemplate, sent, Arg.truthy] using named
      simpa [RecurringTransactionService.editedTemplate] using links.2 id kept

theorem TransactionUpdated.links {input : UpdateTransactionInput} {existing : Transaction}
    {type : FinancialTxType} {amount : Decimal} {walletId : Id} {date : Option Instant}
    (linked : s.Linked)
    (made : TransactionUpdated between seen input existing type amount walletId date s s')
    {row : Transaction} (found : s.transactions.find? input.id = some row) :
    s.TransactionLinks (TransactionService.updatedRow input type amount walletId
      (TransactionService.newToWalletId input existing type) date row) := by
  obtain ⟨s₁, -, moved, own⟩ := made.read
  obtain ⟨-, user⟩ := Store.ownTransaction_later reading numbered moved own found
  -- A key that was sent was read, and one that was not is the stored one.
  have keys := made.keys row found
  have links := linked.transactions row (Table.mem_of_find? found)
  refine ⟨?_, fun id named => ?_, fun id named => ?_, fun id named => links.2.2.2 id named⟩
  · -- A wallet that is sent was read, for a transfer or as the target of another type.
    cases sent : input.walletId with
    | omitted => simpa [TransactionService.updatedRow, sent] using links.1
    | invalid => simpa [TransactionService.newWalletId, sent] using made.source
    | given id =>
      have read : WalletRead between input.userId walletId s := by
        by_cases transfer : type = .transfer
        · exact .of_property (made.transfer transfer).2.1
        · exact .of_property (made.posted transfer (.inl (by simp [sent, Arg.truthy])))
      have present : (s.wallets.find? walletId).isSome := by
        simpa [TransactionService.updatedRow, sent] using keys.1
      simpa [TransactionService.updatedRow, sent, user] using read.own reading numbered present
  · -- Only a transfer has a destination, and it was read.
    have transfer : type = .transfer := by
      by_contra other
      simp [TransactionService.updatedRow, TransactionService.newToWalletId, other] at named
    obtain ⟨_, _, toWalletId, destination, _, read⟩ := made.transfer transfer
    obtain rfl : toWalletId = id := Option.some.inj (destination.symm.trans named)
    simpa [TransactionService.updatedRow, user] using
      read.own reading numbered (keys.2.1 _ named)
  · by_cases transfer : type = .transfer
    · simp [TransactionService.updatedRow, transfer] at named
    -- The category follows the same rule, and a transfer has none.
    · cases sent : input.categoryId.truthy with
      | none =>
        have kept : row.categoryId = some id := by
          simpa [TransactionService.updatedRow, transfer, sent] using named
        simpa [TransactionService.updatedRow] using links.2.2.1 id kept
      | some other =>
        obtain rfl : other = id := by
          simpa [TransactionService.updatedRow, transfer, sent] using named
        have read := (made.category.owned sent).own reading numbered (keys.2.2.1 _ named)
        simpa [TransactionService.updatedRow, user] using read

theorem ReminderConfirmed.links {input : ConfirmReminderInput} {existing : NotificationWithTemplate}
    {template : TemplateRef} {categoryId : Id} {amount : Decimal} {row : Transaction}
    {rows : Table Transaction}
    (made : ReminderConfirmed between now seen input existing template categoryId amount row rows
      s s') : s.TransactionLinks row := by
  have keys := made.keys
  obtain rfl := made.shape
  -- The wallet and the category are those of the template, and both were checked.
  refine ⟨made.wallet.own reading numbered keys.1, by simp [NotificationService.confirmedRow],
    fun id named => ?_, by simp [NotificationService.confirmedRow]⟩
  obtain rfl : categoryId = id := Option.some.inj named
  exact made.category.own reading numbered (keys.2.2.1 _ named)

omit reading numbered in
/-- A completed reminder is linked to the transaction that was made from it. -/
theorem ReminderConfirmed.eventLinks {input : ConfirmReminderInput}
    {existing : NotificationWithTemplate} {template : TemplateRef} {categoryId : Id}
    {amount : Decimal} {row : Transaction} {rows : Table Transaction} {next : Id}
    (linked : s.Linked)
    (made : ReminderConfirmed between now seen input existing template categoryId amount row rows s s')
    {event : RecurringReminderEvent} (found : s.events.find? input.id = some event)
    {events : Table RecurringReminderEvent} : Store.EventLinks
      { s with nextId := next, transactions := rows, events }
      { event with completedAt := some now, generatedTransactionId := some row.id } := by
  -- The new key is the one of the transaction that the same write has inserted.
  have links := linked.events event (Table.mem_of_find? found)
  obtain ⟨waiting, own, -⟩ := made.waiting
  obtain ⟨here, user⟩ := Store.ownEvent_eq_some.mp own
  obtain rfl : waiting = event := Option.some.inj (here.symm.trans found)
  refine ⟨links.1, links.2.1, fun id named => ?_⟩
  obtain rfl : row.id = id := Option.some.inj named
  have same : row.userId = waiting.userId := (congrArg Transaction.userId made.shape).trans user.symm
  exact Option.isSome_iff_exists.mpr
    ⟨row, Store.ownTransaction_eq_some.mpr ⟨Table.find?_inserted made.inserted, same⟩⟩

omit reading numbered in
theorem TemplateReminded.links {evaluationDate : String} {userId : Option Id}
    {template : RecurringTransactionTemplate} {offsetDays : Int} {occurrence reminder : Instant}
    {row : RecurringReminderEvent} {rows : Table RecurringReminderEvent}
    (made : TemplateReminded zone now evaluationDate userId template offsetDays occurrence reminder
      row rows s s') : s.EventLinks row := by
  -- The owner of the reminder is copied from the template, which is still there.
  have keys := made.keys
  obtain rfl := made.shape
  obtain ⟨s₁, moved, member⟩ := made.read
  refine ⟨fun id named => ?_, by simp [ReminderEngine.templateEvent],
    by simp [ReminderEngine.templateEvent]⟩
  obtain rfl : template.id = id := Option.some.inj named
  obtain ⟨stored, found⟩ := Option.isSome_iff_exists.mp (keys.1 _ named)
  have here := Table.find?_of_mem (List.mem_filter.mp member).1
  have frozen := moved.evolves.templates.frozen moved.started.templates here found
  exact Option.isSome_iff_exists.mpr ⟨stored, Store.ownTemplate_eq_some.mpr ⟨found, frozen⟩⟩

omit reading numbered in
theorem InstallmentReminded.links {evaluationDate : String} {userId : Option Id}
    {installment : Installment} {occurrence reminder : Instant} {row : RecurringReminderEvent}
    {rows : Table RecurringReminderEvent}
    (made : InstallmentReminded zone now evaluationDate userId installment occurrence reminder row
      rows s s') : s.EventLinks row := by
  -- The owner of the reminder is copied from the instalment, which is still there.
  have keys := made.keys
  obtain rfl := made.shape
  obtain ⟨s₁, moved, member⟩ := made.read
  refine ⟨by simp [ReminderEngine.installmentEvent], fun id named => ?_,
    by simp [ReminderEngine.installmentEvent]⟩
  obtain rfl : installment.id = id := Option.some.inj named
  obtain ⟨stored, found⟩ := Option.isSome_iff_exists.mp (keys.2.1 _ named)
  have here := Table.find?_of_mem (List.mem_filter.mp member).1
  have frozen := moved.evolves.installments.frozen moved.started.installments here found
  exact Option.isSome_iff_exists.mpr ⟨stored, Store.ownInstallment_eq_some.mpr ⟨found, frozen.1⟩⟩

end Writes

/-- Every write links the rows it makes and changes. -/
theorem Commit.linked {between : Store → Store → Prop} (reading : Reading between) {zone : Zone}
    {call : Call} {seen : List Store} {s s' : Store} (commit : Commit between zone call seen s s')
    (numbered : s.Numbered) (linked : s.Linked) : s'.Linked := by
  -- A write keeps the rows that keys point to, and new keys are the ones it has checked.
  cases commit with
  | walletCreated asked made =>
    rw [made.after]
    exact Store.Retains.linked { wallets := Table.owned_insert made.inserted } linked {}
  | walletEdited asked made =>
    rw [made.after]
    exact (Store.Retains.updateWallet fun _ => by rfl).linked linked {}
  | walletDeleted asked made =>
    rw [made.after]
    exact linked.deleteWallet _
  | regularCreated asked made =>
    rw [made.after]
    exact (Store.Retains.insertTransaction_linked (s.nextId + 1) made.inserted linked
      (made.links reading numbered)).credit _
  | creditCreated asked made =>
    rw [made.after]
    refine Store.Linked.credit ?_ _
    -- The plan and its row name the wallet of the purchase, and the row names the plan.
    obtain ⟨wallet, backing⟩ := made.links reading numbered
    refine Store.Retains.linked
      { transactions := Table.owned_insert made.inserted
        installments := Table.owned_insert made.backed } linked
      { transactions := fun other member => ?_
        installments := fun other member => ?_ }
    · obtain old | rfl := (Table.mem_insert made.inserted).mp member
      · exact .inl old
      · exact .inr backing
    · obtain old | rfl := (Table.mem_insert made.backed).mp member
      · exact .inl old
      · exact .inr wallet
  | transactionUpdated asked made =>
    rw [made.after]
    refine (Store.Linked.credit ?_ _).credit _
    -- The rewritten row has the links that were checked, and the others keep theirs.
    refine (Store.Retains.updateTransaction fun _ => by rfl).linked linked
      { transactions := fun other member => ?_ }
    obtain old | ⟨row, found, rfl⟩ := Table.mem_update (by intro _; rfl) member
    · exact .inl old
    · exact .inr ((Store.Retains.updateTransaction fun _ => by rfl).transactionLinks
        (made.links reading numbered linked found))
  | regularDeleted asked made =>
    rw [made.after]
    exact (linked.deleteTransaction _).credit _
  | installmentDeleted asked made =>
    rw [made.after]
    -- The rows that remain forget the plan, or there was none.
    split
    · exact ((linked.deleteTransaction _).deleteInstallment _).credit _
    · exact (linked.deleteTransaction _).credit _
  | installmentPaid asked made =>
    rw [made.after]
    refine Store.Linked.credit ?_ _
    -- The new transfer is linked, and the advanced plan keeps its wallet.
    refine (Store.Retains.updateInstallment fun _ => by rfl).linked
      (Store.Retains.insertTransaction_linked (s.nextId + 1) made.inserted linked
        (made.links reading numbered linked))
      { installments := fun other member => ?_ }
    obtain old | ⟨row, found, rfl⟩ := Table.mem_update (by intro _; rfl) member
    · exact .inl old
    · exact .inr (linked.installments row (Table.mem_of_find? found))
  | templateCreated asked made =>
    rw [made.after]
    -- The new template has the links that were checked.
    refine Store.Retains.linked { templates := Table.owned_insert made.inserted } linked
      { templates := fun other member => ?_ }
    obtain old | rfl := (Table.mem_insert made.inserted).mp member
    · exact .inl old
    · exact .inr (made.links reading numbered)
  | templateEdited asked made =>
    rw [made.after]
    refine (Store.Retains.updateTemplate fun _ => by rfl).linked linked
      { templates := fun other member => ?_ }
    -- The edited template has the links that were checked.
    obtain old | ⟨row, found, rfl⟩ := Table.mem_update (by intro _; rfl) member
    · exact .inl old
    · exact .inr (made.links reading numbered linked found)
  | templateReminded asked made =>
    rw [made.after]
    refine Store.Retains.linked {} linked { events := fun other member => ?_ }
    -- A new reminder belongs to the owner of what it reminds of.
    obtain old | rfl := (Table.mem_insert made.inserted).mp member
    · exact .inl old
    · exact .inr made.links
  | installmentReminded asked made =>
    rw [made.after]
    refine Store.Retains.linked {} linked { events := fun other member => ?_ }
    obtain old | rfl := (Table.mem_insert made.inserted).mp member
    · exact .inl old
    · exact .inr made.links
  | eventRead asked made =>
    rw [made.after]
    refine Store.Retains.linked {} linked { events := fun other member => ?_ }
    -- A reminder that is read keeps its links.
    obtain old | ⟨row, found, rfl⟩ := Table.mem_update (by intro _; rfl) member
    · exact .inl old
    · exact .inr (linked.events row (Table.mem_of_find? found))
  | reminderConfirmed asked made =>
    rw [made.after]
    refine Store.Linked.credit ?_ _
    -- The posting is linked, and the reminder names it from now on.
    refine Store.Retains.linked {}
      (Store.Retains.insertTransaction_linked (s.nextId + 1) made.inserted linked
        (made.links reading numbered))
      { events := fun other member => ?_ }
    obtain old | ⟨event, found, rfl⟩ := Table.mem_update (by intro _; rfl) member
    · exact .inl old
    · exact .inr (made.eventLinks linked found)
  | categoryCreated asked made =>
    rw [made.after]
    exact Store.Retains.linked { categories := Table.owned_insert made.inserted } linked {}

end PocketMint
