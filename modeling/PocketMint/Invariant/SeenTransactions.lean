import PocketMint.Invariant.SeenWrites

/-!
Transactions are created, changed and deleted for a user as they would be where only that user's rows are.
-/

namespace PocketMint

open Prog TransactionService

section Movement

variable {β : Type} {s : Store} {userId walletId : Id} {type : FinancialTxType} {amount : Decimal}
  {toWalletId : Option Id} (source : (s.ownWallet walletId userId).isSome)
  (destination : ∀ id ∈ toWalletId, (s.ownWallet id userId).isSome)

include source destination

/-- A movement between the user's wallets has deltas on those alone. -/
theorem effect_own : ∀ deltas, computeBalanceEffect { type, amount, walletId, toWalletId } = .ok deltas →
    ∀ delta ∈ deltas, (s.ownWallet delta.walletId userId).isSome := by
  intro deltas computed
  obtain ⟨_, rfl⟩ := computeBalanceEffect_ok.mp computed
  exact forall_plainDeltas source source destination

/-- So has its reversal. -/
theorem reversal_own : ∀ deltas, reverseBalanceEffect { type, amount, walletId, toWalletId } = .ok deltas →
    ∀ delta ∈ deltas, (s.ownWallet delta.walletId userId).isSome := by
  intro deltas reversed
  -- Undoing a movement touches the wallets of the movement.
  obtain ⟨_, rfl⟩ := reverseBalanceEffect_ok.mp reversed
  intro delta listed
  obtain ⟨made, among, rfl⟩ := List.mem_map.mp listed
  have own : ∀ delta ∈ plainDeltas type amount walletId toWalletId,
      (s.ownWallet delta.walletId userId).isSome :=
    forall_plainDeltas source source destination
  exact own made among

end Movement

/-- A transaction of the user is inserted and joined with what it names. -/
theorem Tx.local_post {β : Type} {s : Store} {userId : Id} {data : Id → Transaction}
    {rest : Transaction → TransactionWithRelations → Tx β} (numbered : s.Numbered)
    (named : (data s.nextId).id = s.nextId) (user : (data s.nextId).userId = userId)
    (links : s.TransactionLinks (data s.nextId))
    (next : ∀ rows included, s.transactions.insert? (data s.nextId) = some rows →
      Tx.Local userId (rest (data s.nextId) included)
      { s with nextId := s.nextId + 1, transactions := rows }) :
    Tx.Local userId (do
      let created ← Tx.createTransaction data
      let included ← Tx.view fun s => s.includeTransaction created
      rest created included) s := by
  refine Tx.local_bind (Tx.local_createTransaction numbered named user links) fun created s₁ done => ?_
  obtain ⟨rfl, _, rows, inserted, rfl⟩ := Tx.createTransaction_ok.mp done
  -- The insertion leaves alone whatever the new row names.
  refine Tx.local_bind (Tx.local_view (Store.includeTransaction_seenBy links user)) fun included s₂ done => ?_
  obtain ⟨_, rfl⟩ := Tx.view_ok.mp done
  exact next rows included inserted

section Creation

variable {s : Store} {now : Instant} {zone : Zone} {input : CreateTransactionInput}
  {walletId : Id} {date : Instant}
  (sound : s.Intact) (wallet : (s.ownWallet walletId input.userId).isSome)
  (category : ∀ id ∈ input.categoryId.truthy, (s.ownCategory id input.userId).isSome)

include sound wallet category

theorem writeRegular_local {type : FinancialTxType} {amount : Decimal}
    (toWallet : ∀ id ∈ destination input type, (s.ownWallet id input.userId).isSome) :
    Tx.Local input.userId (writeRegular now input type amount walletId date) s := by
  unfold writeRegular
  refine Tx.local_post sound.numbered rfl rfl ⟨wallet, toWallet, category, fun _ named => by cases named⟩
    fun rows included inserted => ?_
  exact Tx.local_movement (effect_own wallet toWallet) fun _ => Tx.local_pure _

theorem writeCredit_local {mode : BillKind} {months : Int} {rate : Decimal} {plan : InstallmentPlan}
    {nextDueDate : Instant} :
    Tx.Local input.userId (writeCredit now input walletId date mode months rate plan nextDueDate) s := by
  unfold writeCredit
  -- The plan is created on the wallet of the purchase.
  refine Tx.local_bind (Tx.local_createInstallment sound.numbered rfl rfl wallet)
    fun installment s₁ done => ?_
  obtain ⟨_, rfl, _, installments, inserted, rfl⟩ := Tx.createInstallment_ok.mp done
  have found : installments.find? s.nextId =
      some (creditInstallment input walletId date mode months rate plan nextDueDate s.nextId) :=
    Table.find?_inserted inserted
  -- The plan is the user's.
  have backing : ((installments.find? s.nextId).filter fun row => row.userId = input.userId).isSome := by
    rw [found]
    simp [creditInstallment]
  have numbered : Store.Numbered { s with nextId := s.nextId + 1, installments } :=
    { sound.numbered.later (Nat.le_succ _) with
      installments := sound.numbered.installments.insert (Nat.lt_succ_self _) (Nat.le_succ _) inserted }
  -- The row names the wallet, the category and the new plan.
  have links : Store.TransactionLinks { s with nextId := s.nextId + 1, installments }
      (creditRow now input walletId date plan s.nextId (s.nextId + 1)) := by
    refine ⟨wallet, ?_, category, ?_⟩
    · intro id named
      cases named
    · intro id named
      obtain rfl : s.nextId = id := Option.some.inj named
      exact backing
  refine Tx.local_post numbered rfl rfl links fun rows included inserted' => ?_
  -- Then the wallet is debited and the plan is marked as deducted.
  refine Tx.local_bind (Tx.local_updateWallet (fun _ => rfl) wallet) fun _ s₃ done => ?_
  obtain ⟨_, rfl⟩ := Tx.incrementBalance_ok done
  refine Tx.local_bind (Tx.local_updateInstallment (fun _ => rfl) backing fun row own => ?_) fun _ _ _ =>
    Tx.local_pure _
  -- The instalment that is found is the one that was inserted, on the wallet of the purchase.
  obtain ⟨found', -⟩ := Store.ownInstallment_eq_some.mp own
  obtain rfl := Option.some.inj (found.symm.trans found')
  exact (Store.Retains.credit _ _).wallets wallet

theorem createCredit_local {target : Wallet} {amount : Numeric} :
    (createCredit zone now input target amount walletId date).Local (Store.seenBy input.userId) s := by
  unfold createCredit
  -- The checks read nothing.
  refine local_orThrow_bind fun _ _ => local_throwIf_bind fun _ => local_throwIf_bind fun _ => ?_
  refine local_throwIf_bind fun _ => local_ofExcept_bind fun _ _ => local_ofExcept_bind fun _ _ => ?_
  refine local_ofExcept_bind fun _ _ => local_throwIf_bind fun _ => local_orThrow_bind fun _ _ => ?_
  refine local_ofExcept_bind fun _ _ => local_orThrow_bind fun _ _ => ?_
  exact Tx.local_commit (writeCredit_local sound wallet category)

end Creation

theorem createTransaction_local {s : Store} {zone : Zone} {now : Instant} {input : CreateTransactionInput}
    (sound : s.Intact) : (createTransaction zone now input).Local (Store.seenBy input.userId) s := by
  unfold createTransaction
  -- The wallet, the destination and the category are read for the user.
  refine local_resolveWalletId fun walletId => local_orThrow_bind fun type _ =>
    local_orThrow_bind fun amount _ => ?_
  refine local_throwIf_bind fun _ => local_throwIf_bind fun _ => local_ofExcept_bind fun date _ => ?_
  refine local_query_bind Store.ownWallet_seenBy (local_orThrow_bind fun wallet own => ?_)
  have source : (s.ownWallet walletId input.userId).isSome := by rw [own]; rfl
  refine local_throwIf_bind fun _ => local_throwIf_bind fun _ => local_verifyDestination fun toWallet => ?_
  refine local_throwIf_bind fun _ => local_throwIf_bind fun _ => local_verifyCategory fun category => ?_
  refine local_throwIf_bind fun _ => local_throwIf_bind fun _ => local_throwIf_bind fun _ => ?_
  split
  · exact createCredit_local sound source category
  · refine local_ofExcept_bind fun _ _ =>
      Tx.local_commit (writeRegular_local sound source category fun id named => ?_)
    -- Only a transfer has a destination, and it was verified.
    unfold destination at named
    split at named
    · rename_i transfer
      exact toWallet transfer id named
    · cases named

section Change

variable {s : Store} {userId : Id} {existing : Transaction}

/-- The wallets of a transaction of the user are the user's. -/
theorem Store.Linked.own (linked : s.Linked) {id : Id} (own : s.ownTransaction id userId = some existing) :
    existing.userId = userId ∧ s.TransactionLinks existing := by
  obtain ⟨found, user⟩ := Store.ownTransaction_eq_some.mp own
  exact ⟨user, linked.transactions existing (Table.mem_of_find? found)⟩

theorem writeUpdate_local {input : UpdateTransactionInput} {type : FinancialTxType} {amount : Numeric}
    {date : Option Instant} (sound : s.Intact) (own : s.ownTransaction input.id input.userId = some existing)
    (wallet : ∀ id ∈ newWalletId input existing, (s.ownWallet id input.userId).isSome)
    (toWallet : ∀ id ∈ newToWalletId input existing type, (s.ownWallet id input.userId).isSome)
    (category : ∀ id ∈ input.categoryId.truthy, (s.ownCategory id input.userId).isSome) :
    Tx.Local input.userId (writeUpdate input existing type amount date) s := by
  obtain ⟨user, links⟩ := sound.linked.own own
  unfold writeUpdate
  -- The old movement was on wallets of the user.
  refine Tx.local_movement (reversal_own (user ▸ links.1) fun id named => user ▸ links.2.1 id named)
    fun deltas => ?_
  -- The reversal changes balances alone, so whatever the user had is still the user's.
  have retains : s.Retains (s.credit deltas) := .credit s deltas
  refine Tx.local_bind (s := s.credit deltas) (by cases columnValue amount <;> rfl) fun value s₁ done => ?_
  obtain rfl : s.credit deltas = s₁ := by
    cases taken : columnValue amount with
    | error error => simp [taken, Except.map] at done
    | ok column => exact (by simpa [taken, Except.map] using done : column = value ∧ _ = s₁).2
  -- The row needs a wallet, and that one is the user's.
  cases moved : newWalletId input existing with
  | none => exact Tx.local_refuse _
  | some walletId =>
    have target : (s.ownWallet walletId input.userId).isSome := wallet walletId moved
    -- The keys of the rewritten row are the user's.
    have later : Store.TransactionLinks (s.credit deltas)
        (updatedRow input type value walletId (newToWalletId input existing type) date existing) := by
      refine retains.transactionLinks
        ⟨?_, fun id named => user ▸ toWallet id named, fun id named => ?_, links.2.2.2⟩
      · show (s.ownWallet (if input.walletId = .omitted then existing.walletId else walletId)
          existing.userId).isSome
        split
        -- A wallet that is not sent is the one that the row has.
        · exact links.1
        · exact user ▸ target
      · -- A category is the one that was verified, or the one the transaction has.
        have named : (if type = .transfer then none
          else input.categoryId.truthy.orElse fun _ => existing.categoryId) = some id := named
        split at named
        · cases named
        · cases sent : input.categoryId.truthy with
          | none =>
            rw [sent] at named
            exact links.2.2.1 id named
          | some other =>
            rw [sent] at named
            obtain rfl : other = id := Option.some.inj named
            exact user ▸ category other sent
    have found : ∀ row, (s.credit deltas).ownTransaction input.id input.userId = some row → existing = row :=
      fun row own' => Option.some.inj (own.symm.trans own')
    refine Tx.local_bind (Tx.local_updateTransaction (fun _ => rfl) (retains.transactions (by rw [own]; rfl))
      fun row own' => found row own' ▸ later) fun updated s₁ done => ?_
    -- The row that is found is the one that was read.
    obtain ⟨row, present, _, rfl, rfl⟩ := Tx.updateTransaction_ok.mp done
    obtain rfl : existing = row :=
      Option.some.inj ((Store.ownTransaction_eq_some.mp own).1.symm.trans present)
    refine Tx.local_bind (Tx.local_view (Store.includeTransaction_seenBy later user))
      fun included s₂ done => ?_
    obtain ⟨_, rfl⟩ := Tx.view_ok.mp done
    -- The new movement is on wallets of the user.
    exact Tx.local_movement (effect_own (retains.wallets target) fun id named =>
      retains.wallets (toWallet id named))
      fun _ => Tx.local_pure _

theorem updateTransaction_local {zone : Zone} {now : Instant} {input : UpdateTransactionInput}
    (sound : s.Intact) :
    (updateTransaction zone now input).Local (Store.seenBy input.userId) s := by
  unfold updateTransaction
  refine local_throwIf_bind fun _ => local_throwIf_bind fun _ => local_ofExcept_bind fun date _ => ?_
  refine local_query_bind Store.ownTransaction_seenBy (local_orThrow_bind fun existing own => ?_)
  refine local_throwIf_bind fun _ => local_throwIf_bind fun _ => local_throwIf_bind fun _ => ?_
  refine local_verifyTarget fun target => local_verifyTransfer fun transfer => ?_
  refine local_throwIf_bind fun _ => local_throwIf_bind fun _ => local_verifyCategory fun category => ?_
  obtain ⟨user, links⟩ := sound.linked.own own
  -- A wallet that is sent was verified, and the wallet that stays is the user's.
  refine Tx.local_commit (writeUpdate_local sound own (fun id named => ?_) (fun id named => ?_) category)
  -- A transfer was verified with both of its wallets.
  · by_cases moved : input.type.truthy.getD existing.type = .transfer
    · obtain ⟨other, same, own⟩ := (transfer moved).1
      obtain rfl : id = other := Option.some.inj (named.symm.trans same)
      exact own
    · cases sent : input.walletId with
      | omitted =>
        simp only [newWalletId, sent, Option.mem_some_iff] at named
        exact named ▸ user ▸ links.1
      | invalid => simp [newWalletId, sent] at named
      | given other =>
        obtain ⟨_, same, own⟩ := target moved (by rw [sent]; rfl)
        obtain rfl := Option.some.inj (named.symm.trans same)
        exact own
  · by_cases moved : input.type.truthy.getD existing.type = .transfer
    · obtain ⟨other, same, own⟩ := (transfer moved).2
      obtain rfl : id = other := Option.some.inj (named.symm.trans same)
      exact own
    -- Another row has no destination.
    · rw [newToWalletId, if_neg moved] at named
      cases named

theorem writeDelete_local {input : DeleteTransactionInput} {grandTotal : Option Decimal} (sound : s.Intact)
    (own : s.ownTransaction input.id input.userId = some existing) :
    Tx.Local input.userId (writeDelete input existing grandTotal) s := by
  obtain ⟨user, links⟩ := sound.linked.own own
  have present : (s.ownTransaction input.id input.userId).isSome := by rw [own]; rfl
  -- The row is deleted from the credited store alike.
  have deleted : ∀ deltas, Tx.Local input.userId (Tx.deleteTransaction input.id) (s.credit deltas) :=
    fun deltas =>
    Tx.local_delete (Store.transaction_seenBy (s := s.credit deltas) present)
      (Store.seenBy_deleteTransaction _)
  unfold writeDelete
  split
  -- The total goes back to the wallet of the row.
  · rw [reverseBalanceEffect_installment]
    refine Tx.local_movement (fun deltas computed => ?_) fun deltas => ?_
    · obtain rfl := Except.ok.inj computed
      rintro _ listed
      obtain rfl := List.mem_singleton.mp listed
      exact user ▸ links.1
    · refine Tx.local_bind (deleted deltas) fun _ s₁ done => ?_
      obtain ⟨_, rfl⟩ := Tx.delete_ok.mp done
      cases backing : existing.installmentId with
      | none => exact Tx.local_pure _
      | some installmentId =>
        -- The instalment that goes along is the user's.
        have mine : (s.ownInstallment installmentId input.userId).isSome := user ▸ links.2.2.2 _ backing
        refine Tx.local_bind (Tx.local_delete ?_ (Store.seenBy_deleteInstallment _)) fun _ _ _ =>
          Tx.local_pure _
        exact Store.installment_seenBy (s := (s.credit deltas).deleteTransaction input.id) mine
  -- Another row takes its plain movement back.
  · refine Tx.local_movement (reversal_own (user ▸ links.1) fun id named => user ▸ links.2.1 id named)
      fun deltas => ?_
    exact Tx.local_bind (deleted deltas) fun _ _ _ => Tx.local_pure _

theorem deleteTransaction_local {input : DeleteTransactionInput} (sound : s.Intact) :
    (deleteTransaction input).Local (Store.seenBy input.userId) s := by
  unfold deleteTransaction
  refine local_query_bind ?_ (local_orThrow_bind fun ⟨existing, grandTotal⟩ found => ?_)
  -- The row is read with the total of its plan, which is the user's.
  · rw [Store.ownTransaction_seenBy]
    cases own : s.ownTransaction input.id input.userId with
    | none => rfl
    | some row =>
      obtain ⟨user, links⟩ := sound.linked.own own
      cases backing : row.installmentId with
      | none => simp [backing]
      | some id =>
        simp [backing, Store.grandTotal, Store.installment_seenBy (user ▸ links.2.2.2 id backing)]
  · refine local_throwIf_bind fun _ => Tx.local_commit ?_
    obtain ⟨row, own, same⟩ := Option.map_eq_some_iff.mp found
    obtain ⟨rfl, rfl⟩ := Prod.mk.inj same
    exact writeDelete_local sound own

end Change

end PocketMint
