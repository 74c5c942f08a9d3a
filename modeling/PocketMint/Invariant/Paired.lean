import PocketMint.Invariant.Linked

/-! Every instalment is named by at most one transaction, an expense on the instalment's wallet. -/

namespace PocketMint

open Prog

namespace Store

/-- Transactions and instalments come in pairs, as credit purchases make them. -/
structure Paired (s : Store) : Prop where
  expense : ∀ row ∈ s.transactions.rows, row.isInstallment → row.type = .expense
  backed : ∀ row ∈ s.transactions.rows, ∀ id ∈ row.installmentId, row.isInstallment
  wallet : ∀ row ∈ s.transactions.rows, ∀ id ∈ row.installmentId, ∀ installment,
    s.installments.find? id = some installment → installment.walletId = row.walletId
  alone : ∀ row ∈ s.transactions.rows, ∀ other ∈ s.transactions.rows, ∀ id ∈ row.installmentId,
    id ∈ other.installmentId → row.id = other.id

theorem Paired.empty : Store.empty.Paired := by
  constructor <;> exact fun row member => by simp [Store.empty] at member

end Store

/-- A row that continues another: an instalment's row keeps its type and wallet, and names no more. -/
structure Transaction.Derives (row row' : Transaction) : Prop where
  id : row'.id = row.id
  kind : row'.isInstallment = row.isInstallment
  type : row.isInstallment → row'.type = row.type
  wallet : row.isInstallment → row'.walletId = row.walletId
  names : ∀ id ∈ row'.installmentId, id ∈ row.installmentId

theorem Transaction.Derives.refl (row : Transaction) : row.Derives row :=
  ⟨rfl, rfl, fun _ => rfl, fun _ => rfl, fun _ named => named⟩

namespace Store

/-- Rows that continue paired rows, and new regular ones, are paired. -/
theorem Paired.derive {s s' : Store} (paired : s.Paired)
    (rows : ∀ row' ∈ s'.transactions.rows, (∃ row ∈ s.transactions.rows, row.Derives row') ∨
      (row'.isInstallment = false ∧ row'.installmentId = none))
    (installments : ∀ id installment', s'.installments.find? id = some installment' →
      ∃ installment, s.installments.find? id = some installment ∧
        installment'.walletId = installment.walletId) : s'.Paired where
  expense row' member instalment := by
    -- A row that derives from an old one inherits its pairing, and a regular one needs none.
    obtain ⟨row, among, derives⟩ | ⟨regular, -⟩ := rows row' member
    · have before := derives.kind ▸ instalment
      exact (derives.type before).trans (paired.expense row among before)
    · simp [regular] at instalment
  backed row' member id named := by
    obtain ⟨row, among, derives⟩ | ⟨-, nothing⟩ := rows row' member
    · exact derives.kind ▸ paired.backed row among id (derives.names id named)
    · simp [nothing] at named
  wallet row' member id named installment' found := by
    obtain ⟨row, among, derives⟩ | ⟨-, nothing⟩ := rows row' member
    · obtain ⟨installment, here, same⟩ := installments id installment' found
      have names := derives.names id named
      rw [same, derives.wallet (paired.backed row among id names)]
      exact paired.wallet row among id names installment here
    · simp [nothing] at named
  alone row' member other' member' id named named' := by
    obtain ⟨row, among, derives⟩ | ⟨-, nothing⟩ := rows row' member
    · obtain ⟨other, among', derives'⟩ | ⟨-, nothing⟩ := rows other' member'
      · rw [derives.id, derives'.id]
        exact paired.alone row among other among' id (derives.names id named)
          (derives'.names id named')
      · simp [nothing] at named'
    · simp [nothing] at named

theorem Paired.deleteTransaction {s : Store} (paired : s.Paired) (id : Id) :
    (s.deleteTransaction id).Paired :=
  paired.derive (fun row' member => .inl ⟨row', (List.mem_filter.mp member).1, .refl row'⟩)
    fun _ installment' found => ⟨installment', found, rfl⟩

theorem Paired.deleteInstallment {s : Store} (paired : s.Paired) (id : Id) :
    (s.deleteInstallment id).Paired := by
  refine paired.derive (fun row' member => ?_) fun other installment' found => ?_
  · -- The rows that named the instalment name none after it is gone.
    obtain ⟨row, among, rfl⟩ := List.mem_map.mp member
    refine .inl ⟨row, among, rfl, rfl, fun _ => rfl, fun _ => rfl, fun other named => ?_⟩
    exact (Option.filter_eq_some_iff.mp named).1
  -- The instalments that stay are the old ones.
  · rw [Store.deleteInstallment, Table.find?_erase] at found
    split at found
    · cases found
    · exact ⟨installment', found, rfl⟩

theorem Paired.credit {s : Store} (paired : s.Paired) (deltas : List WalletDelta) :
    (s.credit deltas).Paired :=
  ⟨paired.expense, paired.backed, paired.wallet, paired.alone⟩

end Store

/-- A credit purchase makes a new pair, which no older row names. -/
theorem CreditCreated.paired {between : Store → Store → Prop} {zone : Zone} {now : Instant}
    {s s' : Store} {input : CreateTransactionInput} {principal rate : Decimal} {months : Int}
    {mode : BillKind} {plan : InstallmentPlan} {date nextDueDate : Instant} {wallet : Wallet}
    {installment : Installment} {row : Transaction} {installments : Table Installment}
    {rows : Table Transaction} (linked : s.Linked) (paired : s.Paired)
    (made : CreditCreated between zone now input principal rate months mode plan date nextDueDate
      wallet installment row installments rows s s') : s'.Paired := by
  -- The plan has the next identifier and the wallet of the purchase.
  have created := made.backed
  have inserted := made.inserted
  have named : Keyed.key installment = s.nextId := congrArg Installment.id made.backing
  have onWallet : installment.walletId = wallet.id := congrArg Installment.walletId made.backing
  have fresh : s.installments.find? s.nextId = none := named ▸ (Table.insert?_eq_some_iff.mp created).1
  rw [made.after]
  obtain rfl := made.shape
  refine Store.Paired.credit ?_ _
  -- No older row names an instalment that is only now created.
  have older : ∀ other ∈ s.transactions.rows, s.nextId ∉ other.installmentId := by
    intro other member named
    have links := (linked.transactions other member).2.2.2 s.nextId named
    simp [Store.ownInstallment, fresh] at links
  -- Every row is an old one or the one of the purchase.
  have rowOf : ∀ other ∈ rows.rows, other ∈ s.transactions.rows ∨ other =
      TransactionService.creditRow now input wallet.id date plan s.nextId (s.nextId + 1) :=
    fun other member => (Table.mem_insert inserted).mp member
  constructor
  -- The row of the purchase is an expense.
  · intro other member kind
    obtain old | rfl := rowOf other member
    · exact paired.expense other old kind
    · rfl
  -- It is an instalment.
  · intro other member id named
    obtain old | rfl := rowOf other member
    · exact paired.backed other old id named
    · rfl
  -- It is on the wallet of its plan.
  · intro other member id names backing found
    rw [Table.find?_insert created, named] at found
    obtain old | rfl := rowOf other member
    · have different : s.nextId ≠ id := fun same => older other old (same ▸ names)
      rw [if_neg different] at found
      exact paired.wallet other old id names backing found
    · obtain rfl : s.nextId = id := Option.some.inj names
      rw [if_pos rfl] at found
      exact Option.some.inj found ▸ onWallet
  -- It is the only row that names its plan.
  · intro first member second member' id named named'
    obtain old | rfl := rowOf first member
    · obtain old' | rfl := rowOf second member'
      · exact paired.alone first old second old' id named named'
      · exact absurd (Option.some.inj named' ▸ named) (older first old)
    · obtain old' | rfl := rowOf second member'
      · exact absurd (Option.some.inj named ▸ named') (older second old')
      · rfl

/-- Every write keeps transactions and instalments in pairs. -/
theorem Commit.paired {between : Store → Store → Prop} (reading : Reading between) {zone : Zone}
    {call : Call} {seen : List Store} {s s' : Store} (commit : Commit between zone call seen s s')
    (numbered : s.Numbered) (linked : s.Linked) (paired : s.Paired) : s'.Paired := by
  have rowsKept : ∀ row' ∈ s.transactions.rows, (∃ row ∈ s.transactions.rows, row.Derives row') ∨
      (row'.isInstallment = false ∧ row'.installmentId = none) :=
    -- A row that stays derives from itself.
    fun row' member => .inl ⟨row', member, .refl row'⟩
  have installmentsKept : ∀ id installment', s.installments.find? id = some installment' →
      ∃ installment, s.installments.find? id = some installment ∧
        installment'.walletId = installment.walletId :=
    fun _ installment' found => ⟨installment', found, rfl⟩
  -- Only a credit purchase makes a row that names an instalment.
  cases commit with
  | walletCreated asked made =>
    rw [made.after]
    exact paired.derive rowsKept installmentsKept
  | walletEdited asked made =>
    rw [made.after]
    exact paired.derive rowsKept installmentsKept
  | walletDeleted asked made =>
    rw [made.after]
    -- The rows that remain may lose their links, but none gets a new one.
    refine paired.derive (fun row' member => ?_) fun id installment' found => ?_
    · obtain ⟨row, among, rfl⟩ := List.mem_map.mp member
      refine .inl ⟨row, (List.mem_filter.mp among).1, rfl, rfl, fun _ => rfl, fun _ => rfl, ?_⟩
      exact fun id named => (Option.filter_eq_some_iff.mp named).1
    · rw [Store.deleteWallet, Table.find?_filter] at found
      exact ⟨installment', (Option.filter_eq_some_iff.mp found).1, rfl⟩
  | regularCreated asked made =>
    rw [made.after]
    refine paired.derive (fun row' member => ?_) installmentsKept
    -- A new regular row names no plan.
    obtain old | rfl := (Table.mem_insert made.inserted).mp member
    · exact rowsKept row' old
    · exact .inr ⟨congrArg Transaction.isInstallment made.shape,
        congrArg Transaction.installmentId made.shape⟩
  | creditCreated asked made =>
    exact made.paired linked paired
  | transactionUpdated asked made =>
    rw [made.after]
    refine paired.derive (fun row' member => ?_) installmentsKept
    obtain old | ⟨row, found, rfl⟩ := Table.mem_update (fun _ => by rfl) member
    · exact rowsKept row' old
    -- The row that is rewritten is regular, so it says nothing about a plan.
    · obtain ⟨s₁, -, moved, own⟩ := made.read
      obtain ⟨frozen, -⟩ := Store.ownTransaction_later reading numbered moved own found
      have regular : row.isInstallment = false := frozen.2.1.trans made.regular
      refine .inl ⟨row, Table.mem_of_find? found, rfl, rfl, fun kind => ?_, fun kind => ?_,
        fun _ named => named⟩
      · simp [regular] at kind
      · simp [regular] at kind
  | regularDeleted asked made =>
    rw [made.after]
    exact (paired.deleteTransaction _).credit _
  | installmentDeleted asked made =>
    rw [made.after]
    -- The plan goes with the row that names it.
    refine Store.Paired.credit ?_ _
    split
    · exact (paired.deleteTransaction _).deleteInstallment _
    · exact paired.deleteTransaction _
  | installmentPaid asked made =>
    rw [made.after]
    refine Store.Paired.credit (paired.derive (fun row' member => ?_) fun id installment' found => ?_) _
    -- The transfer is no instalment, and the plan that is paid keeps its wallet.
    · obtain old | rfl := (Table.mem_insert made.inserted).mp member
      · exact rowsKept row' old
      · exact .inr ⟨congrArg Transaction.isInstallment made.shape,
          congrArg Transaction.installmentId made.shape⟩
    · rw [Table.find?_update] at found
      split at found
      · obtain ⟨installment, here, rfl⟩ := Option.map_eq_some_iff.mp found
        exact ⟨installment, here, rfl⟩
      · exact ⟨installment', found, rfl⟩
  | reminderConfirmed asked made =>
    rw [made.after]
    refine paired.derive (fun row' member => ?_) installmentsKept
    -- The posting is no instalment either.
    obtain old | rfl := (Table.mem_insert made.inserted).mp member
    · exact rowsKept row' old
    · exact .inr ⟨congrArg Transaction.isInstallment made.shape,
        congrArg Transaction.installmentId made.shape⟩
  | templateCreated asked made =>
    rw [made.after]
    exact paired.derive rowsKept installmentsKept
  | templateEdited asked made =>
    rw [made.after]
    exact paired.derive rowsKept installmentsKept
  | templateReminded asked made =>
    rw [made.after]
    exact paired.derive rowsKept installmentsKept
  | installmentReminded asked made =>
    rw [made.after]
    exact paired.derive rowsKept installmentsKept
  | eventRead asked made =>
    rw [made.after]
    exact paired.derive rowsKept installmentsKept
  | categoryCreated asked made =>
    rw [made.after]
    exact paired.derive rowsKept installmentsKept

end PocketMint
