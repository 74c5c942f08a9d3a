import PocketMint.Invariant.OwnWrites
import PocketMint.Store.SeenBy

/-! The services do for a user what they would do where only that user's rows are. -/

namespace PocketMint

open Prog

/-- An identifier that is not given yet is free. -/
theorem Table.Below.free {α : Type} [Keyed α] {limit at_ : Nat} {table : Table α} (below : table.Below limit)
    (beyond : limit ≤ at_) : table.find? at_ = none := by
  cases found : table.find? at_ with
  | none => rfl
  | some row => exact absurd (below.find? found) (by omega)

section Rows

variable {s : Store} {userId id : Id}

theorem Tx.local_createTransaction {data : Id → Transaction} (numbered : s.Numbered)
    (named : (data s.nextId).id = s.nextId) (user : (data s.nextId).userId = userId)
    (links : s.TransactionLinks (data s.nextId)) : Tx.Local userId (Tx.createTransaction data) s :=
  Tx.local_insert Transaction.userId rfl (fun _ => rfl) (Store.transactionKeys_seenBy links user) user
    (numbered.transactions.free named.ge)

theorem Tx.local_createInstallment {data : Id → Installment} (numbered : s.Numbered)
    (named : (data s.nextId).id = s.nextId) (user : (data s.nextId).userId = userId)
    (links : s.InstallmentLinks (data s.nextId)) : Tx.Local userId (Tx.createInstallment data) s := by
  -- Within the range of the columns it is an insertion on a wallet of the user.
  have inserted : Tx.Local userId
      (Tx.insert Store.installments (fun s table => { s with installments := table })
      Store.InstallmentKeys data) s := by
    refine Tx.local_insert Installment.userId rfl (fun _ => rfl) ?_ user (numbered.installments.free named.ge)
    rw [Store.InstallmentKeys, Store.InstallmentKeys, Store.wallet_seenBy (user ▸ links)]
  have counter : (s.seenBy userId).nextId = s.nextId := rfl
  simp only [Tx.Local, Tx.createInstallment, counter]
  split
  · rfl
  · exact inserted

theorem Tx.local_createTemplate {data : Id → RecurringTransactionTemplate} (numbered : s.Numbered)
    (named : (data s.nextId).id = s.nextId) (user : (data s.nextId).userId = userId)
    (links : s.TemplateLinks (data s.nextId)) : Tx.Local userId (Tx.createTemplate data) s :=
  Tx.local_insert RecurringTransactionTemplate.userId rfl (fun _ => rfl)
    (Store.templateKeys_seenBy links user) user
    (numbered.templates.free named.ge)

theorem Tx.local_createEvent {data : Id → RecurringReminderEvent} (numbered : s.Numbered)
    (named : (data s.nextId).id = s.nextId) (user : (data s.nextId).userId = userId)
    (links : s.EventLinks (data s.nextId)) : Tx.Local userId (Tx.createEvent data) s :=
  Tx.local_insert RecurringReminderEvent.userId rfl (fun _ => rfl) (Store.eventKeys_seenBy links user) user
    (numbered.events.free named.ge)

theorem Tx.local_updateWallet {rewrite : Wallet → Wallet} {keeps : ∀ row, (rewrite row).id = row.id}
    (user : ∀ row, (rewrite row).userId = row.userId) (own : (s.ownWallet id userId).isSome) :
    Tx.Local userId (Tx.updateWallet id rewrite keeps) s := by
  refine Tx.local_modify (Store.wallet_seenBy own) ?_ fun _ _ => Iff.rfl
  apply Store.ext <;> first | rfl | skip
  exact Table.filter_updated rfl rfl fun row => by rw [user row]

theorem Tx.local_updateTransaction {rewrite : Transaction → Transaction}
    {keeps : ∀ row, (rewrite row).id = row.id}
    (user : ∀ row, (rewrite row).userId = row.userId) (own : (s.ownTransaction id userId).isSome)
    (links : ∀ row, s.ownTransaction id userId = some row → s.TransactionLinks (rewrite row)) :
    Tx.Local userId (Tx.updateTransaction id rewrite keeps) s := by
  refine Tx.local_modify (Store.transaction_seenBy own) ?_ fun row found => ?_
  -- The row keeps its owner.
  · apply Store.ext <;> first | rfl | skip
    exact Table.filter_updated rfl rfl fun row => by rw [user row]
  · obtain ⟨other, owned⟩ := Option.isSome_iff_exists.mp own
    rcases Store.ownTransaction_eq_some.mp owned with ⟨found', mine⟩
    -- The row that is found is the one that the user owns.
    obtain rfl : row = other := Option.some.inj (found.symm.trans found')
    exact Store.transactionKeys_seenBy (links row owned) ((user row).trans mine)

theorem Tx.local_updateInstallment {rewrite : Installment → Installment}
    {keeps : ∀ row, (rewrite row).id = row.id}
    (user : ∀ row, (rewrite row).userId = row.userId) (own : (s.ownInstallment id userId).isSome)
    (links : ∀ row, s.ownInstallment id userId = some row →
      (s.ownWallet (rewrite row).walletId userId).isSome) :
    Tx.Local userId (Tx.updateInstallment id rewrite keeps) s := by
  refine Tx.local_modify (Store.installment_seenBy own) ?_ fun row found => ?_
  -- The plan keeps its owner.
  · apply Store.ext <;> first | rfl | skip
    exact Table.filter_updated rfl rfl fun row => by rw [user row]
  · obtain ⟨other, owned⟩ := Option.isSome_iff_exists.mp own
    rcases Store.ownInstallment_eq_some.mp owned with ⟨found', -⟩
    -- The plan that is found is the one that the user owns.
    obtain rfl : row = other := Option.some.inj (found.symm.trans found')
    rw [Store.InstallmentKeys, Store.InstallmentKeys, Store.wallet_seenBy (links row owned)]

theorem Tx.local_updateTemplate {rewrite : RecurringTransactionTemplate → RecurringTransactionTemplate}
    {keeps : ∀ row, (rewrite row).id = row.id} (user : ∀ row, (rewrite row).userId = row.userId)
    (own : (s.ownTemplate id userId).isSome)
    (links : ∀ row, s.ownTemplate id userId = some row → s.TemplateLinks (rewrite row)) :
    Tx.Local userId (Tx.updateTemplate id rewrite keeps) s := by
  refine Tx.local_modify (Store.template_seenBy own) ?_ fun row found => ?_
  -- The template keeps its owner.
  · apply Store.ext <;> first | rfl | skip
    exact Table.filter_updated rfl rfl fun row => by rw [user row]
  · obtain ⟨other, owned⟩ := Option.isSome_iff_exists.mp own
    rcases Store.ownTemplate_eq_some.mp owned with ⟨found', mine⟩
    -- The template that is found is the one that the user owns.
    obtain rfl : row = other := Option.some.inj (found.symm.trans found')
    exact Store.templateKeys_seenBy (links row owned) ((user row).trans mine)

end Rows

/-! Wallets. -/

section Wallets

variable {s : Store} {now : Instant}

theorem createWallet_local {input : CreateWalletInput} (sound : s.Intact) :
    (createWallet now input).Local (Store.seenBy input.userId) s := by
  unfold createWallet
  -- The input is checked without the store.
  refine local_throwIf_bind fun _ => local_throwIf_bind fun _ => local_throwIf_bind fun _ => ?_
  refine local_ofExcept_bind fun _ _ => local_ofExcept_bind fun _ _ => local_ofExcept_bind fun _ _ => ?_
  refine local_throwIf_bind fun _ => local_throwIf_bind fun _ => local_throwIf_bind fun _ => ?_
  refine local_throwIf_bind fun _ => local_ofExcept_bind fun _ _ => local_ofExcept_bind fun _ _ => ?_
  refine local_ofExcept_bind fun _ _ => local_ofExcept_bind fun _ _ => Tx.local_commit ?_
  exact Tx.local_insert Wallet.userId rfl (fun _ => rfl) Iff.rfl rfl (sound.numbered.wallets.free le_rfl)

theorem updateWallet_local {input : UpdateWalletInput} :
    (updateWallet input).Local (Store.seenBy input.userId) s := by
  unfold updateWallet
  refine local_throwIf_bind fun _ => local_ofExcept_bind fun _ _ => local_ofExcept_bind fun _ _ => ?_
  -- The wallet is read for the user.
  refine local_query_bind Store.ownWallet_seenBy (local_orThrow_bind fun owned own => ?_)
  refine local_throwIf_bind fun _ => local_ofExcept_bind fun _ _ => local_ofExcept_bind fun _ _ => ?_
  refine local_ofExcept_bind fun _ _ => local_ofExcept_bind fun _ _ => Tx.local_commit ?_
  exact Tx.local_updateWallet (fun _ => rfl) (by rw [own]; rfl)

theorem deleteWallet_local {input : DeleteWalletInput} (sound : s.Intact) :
    (deleteWallet input).Local (Store.seenBy input.userId) s := by
  -- Both counts are of the user's transactions.
  have counted : ∀ test : Transaction → Bool, (∀ row, test row → row.userId = input.userId) →
      (s.seenBy input.userId).transactions.rows.countP test = s.transactions.rows.countP test := by
    intro test mine
    -- A row that is counted is the user's, so no other row adds to the count.
    show (s.transactions.rows.filter _).countP test = _
    rw [List.countP_filter]
    refine List.countP_congr fun row _ => ?_
    simpa using mine row
  unfold deleteWallet
  refine local_query_bind Store.ownWallet_seenBy (local_orThrow_bind fun owned own => ?_)
  refine local_query_bind (counted _ fun row => by simp; tauto) (local_throwIf_bind fun _ => ?_)
  refine local_query_bind (counted _ fun row => by simp) (local_throwIf_bind fun _ => Tx.local_commit ?_)
  -- Deleting the wallet and looking as the user may be done in either order.
  refine Tx.local_bind (Tx.local_delete (Store.wallet_seenBy (by rw [own]; rfl)) ?_) fun _ _ _ =>
    Tx.local_pure _
  exact Store.seenBy_deleteWallet sound.linked _

end Wallets

/-! What is verified of a transaction before it is written. -/

section Verification

variable {α : Type} {s : Store} {userId : Id} {rest : Unit → Service α}

open TransactionService

theorem local_resolveWalletId {input : CreateTransactionInput} {rest : Id → Service α}
    (next : ∀ walletId, (rest walletId).Local (Store.seenBy input.userId) s) :
    (resolveWalletId input >>= rest).Local (Store.seenBy input.userId) s := by
  unfold resolveWalletId
  -- A wallet that is named is not read.
  cases input.walletId.truthy with
  | some walletId => exact next walletId
  | none =>
    simp only [bind_bind]
    -- Otherwise the first wallet of the user is read.
    refine local_query_bind (find?_among fun _ _ => id) (local_orThrow_bind fun wallet _ => ?_)
    exact next wallet.id

theorem local_verifyCategory {categoryId : Option Id} {type : FinancialTxType}
    (next : (∀ id ∈ categoryId, (s.ownCategory id userId).isSome) → (rest ()).Local (Store.seenBy userId) s) :
    (verifyCategory userId categoryId type >>= rest).Local (Store.seenBy userId) s := by
  unfold verifyCategory
  cases categoryId with
  -- Without a category nothing is read.
  | none => exact next fun _ named => by cases named
  | some id =>
    simp only [bind_bind]
    -- A category is read for the user.
    refine local_query_bind Store.ownCategory_seenBy (local_orThrow_bind fun category own => ?_)
    refine local_throwIf_bind fun _ => next fun other named => ?_
    obtain rfl : id = other := Option.some.inj named
    rw [own]
    rfl

theorem local_verifyDestination {toWalletId : Option Id} {type : FinancialTxType}
    (next : (type = .transfer → ∀ id ∈ toWalletId, (s.ownWallet id userId).isSome) →
      (rest ()).Local (Store.seenBy userId) s) :
    (verifyDestination userId toWalletId type >>= rest).Local (Store.seenBy userId) s := by
  unfold verifyDestination
  split
  · rename_i id
    simp only [bind_bind]
    -- Only a transfer reads its destination, and it reads it for the user.
    refine local_query_bind Store.ownWallet_seenBy
      (local_orThrow_bind fun wallet own => next fun _ other named => ?_)
    obtain rfl : id = other := Option.some.inj named
    rw [own]
    rfl
  · rename_i other
    refine next fun transfer id named => ?_
    exact absurd named (other id transfer)

/-- A wallet that is looked up for a user, if any is named, is the user's. -/
theorem local_ownWallet {named : Option Id} {error : Failure} {rest : Wallet → Service α}
    (next : ∀ id wallet, named = some id → s.ownWallet id userId = some wallet →
      (rest wallet).Local (Store.seenBy userId) s) :
    ((do
      let found ← query fun s => named.bind fun id => s.ownWallet id userId
      let wallet ← orThrow found error
      rest wallet) : Service α).Local (Store.seenBy userId) s := by
  cases named with
  -- Without a wallet nothing is found, for the user as in the whole store.
  | none => exact local_query_bind rfl (local_orThrow_bind fun _ absent => by cases absent)
  | some id =>
    exact local_query_bind Store.ownWallet_seenBy
      (local_orThrow_bind fun wallet own => next id wallet rfl own)

theorem local_verifyTarget {input : UpdateTransactionInput} {type : FinancialTxType} {walletId : Option Id}
    (next : (type ≠ .transfer → input.walletId.truthy.isSome →
      ∃ id, walletId = some id ∧ (s.ownWallet id input.userId).isSome) →
      (rest ()).Local (Store.seenBy input.userId) s) :
    (verifyTarget input type walletId >>= rest).Local (Store.seenBy input.userId) s := by
  unfold verifyTarget
  split
  · simp only [bind_bind]
    -- The wallet is read for the user, and its kind is checked after that.
    refine local_ownWallet fun id wallet named own => local_throwIf_bind fun _ =>
      next fun _ _ => ⟨id, named, ?_⟩
    rw [own]
    rfl
  · rename_i unchecked
    exact next fun other sent => absurd ⟨other, .inl sent⟩ unchecked

theorem local_verifyTransfer {input : UpdateTransactionInput} {type : FinancialTxType} {amount : Numeric}
    {walletId toWalletId : Option Id}
    (next : (type = .transfer → (∃ id, walletId = some id ∧ (s.ownWallet id input.userId).isSome) ∧
        ∃ id, toWalletId = some id ∧ (s.ownWallet id input.userId).isSome) →
      (rest ()).Local (Store.seenBy input.userId) s) :
    (verifyTransfer input type amount walletId toWalletId >>= rest).Local (Store.seenBy input.userId) s := by
  unfold verifyTransfer
  split
  · simp only [bind_bind]
    -- Both wallets of a transfer are read for the user.
    refine local_throwIf_bind fun _ => local_throwIf_bind fun _ =>
      local_ownWallet fun id wallet named own => ?_
    refine local_throwIf_bind fun _ => local_throwIf_bind fun _ =>
      local_ownWallet fun other wallet' named' own' => ?_
    exact next fun _ => ⟨⟨id, named, by rw [own]; rfl⟩, other, named', by rw [own']; rfl⟩
  · rename_i other
    exact next fun transfer => absurd transfer other

end Verification

end PocketMint
