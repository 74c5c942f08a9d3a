import PocketMint.Invariant.SeenTransactions

/-!
Payments, templates and confirmations are made for a user as they would be where only that user's rows are.
-/

namespace PocketMint

open Prog

namespace Store

variable {s : Store} {userId : Id}

/-- The wallet a row of the user is on has one reference in both. -/
theorem walletRef_seenBy {id : Id} (own : (s.ownWallet id userId).isSome) :
    ((s.seenBy userId).wallets.find? id).map Wallet.ref = (s.wallets.find? id).map Wallet.ref := by
  rw [wallet_seenBy own]

theorem includeTemplate_seenBy {row : RecurringTransactionTemplate} (links : s.TemplateLinks row)
    (user : row.userId = userId) : (s.seenBy userId).includeTemplate row = s.includeTemplate row := by
  -- The wallet of a template is the user's, and so is the category where there is one.
  subst user
  simp only [includeTemplate, wallet_seenBy links.1, RecurringTransactionWithRelations.mk.injEq, true_and]
  cases named : row.categoryId with
  | none => rfl
  | some id => simp [category_seenBy (links.2 id named)]

theorem includeEvent_seenBy (installments : ∀ row ∈ s.installments.rows, s.InstallmentLinks row)
    {row : RecurringReminderEvent} (template : ∀ id ∈ row.templateId, (s.ownTemplate id row.userId).isSome)
    (installment : ∀ id ∈ row.installmentId, (s.ownInstallment id row.userId).isSome)
    (user : row.userId = userId) :
    (s.seenBy userId).includeEvent row = s.includeEvent row := by
  subst user
  simp only [includeEvent, NotificationWithTemplate.mk.injEq, true_and]
  constructor
  -- The template that the reminder names is the user's.
  · cases named : row.templateId with
    | none => rfl
    | some id => simp [template_seenBy (template id named)]
  · cases named : row.installmentId with
    | none => rfl
    | some id =>
      have own := installment id named
      obtain ⟨backing, owned⟩ := Option.isSome_iff_exists.mp own
      obtain ⟨found, user⟩ := ownInstallment_eq_some.mp owned
      -- The instalment is on a wallet of its own user, who is the reminder's.
      have wallet := installments backing (Table.mem_of_find? found)
      rw [InstallmentLinks, user] at wallet
      simp [installment_seenBy own, found, includeInstallment, wallet_seenBy wallet]

end Store

/-! The payment of a term. -/

section Payments

open InstallmentPaymentService

variable {s : Store} {zone : Zone} {now : Instant} {input : PayInstallmentInput} {installment : Installment}

theorem writePayment_local {sourceWalletId : Id} {walletName : String} {amount : Decimal} {date due : Instant}
    (sound : s.Intact) (own : s.ownInstallment input.installmentId input.userId = some installment)
    (source : (s.ownWallet sourceWalletId input.userId).isSome) :
    Tx.Local input.userId (writePayment now input sourceWalletId installment walletName amount date due)
    s := by
  -- The instalment is the user's, and so is its wallet.
  obtain ⟨found, user⟩ := Store.ownInstallment_eq_some.mp own
  have same : installment.id = input.installmentId := Table.key_of_find? found
  rw [← same] at own found
  have target : (s.ownWallet installment.walletId input.userId).isSome :=
    user ▸ sound.linked.installments installment (Table.mem_of_find? found)
  -- The transfer names the two wallets, and no category or instalment.
  have links : s.TransactionLinks
      (paymentRow now input sourceWalletId installment walletName amount date s.nextId) := by
    refine ⟨source, ?_, ?_, ?_⟩
    · intro id named
      obtain rfl : installment.walletId = id := Option.some.inj named
      exact target
    · intro id named
      cases named
    · intro id named
      cases named
  unfold writePayment
  -- It is booked, and both wallets are read for the answer.
  refine Tx.local_bind (Tx.local_createTransaction sound.numbered rfl rfl links) fun created s₁ done => ?_
  obtain ⟨rfl, _, rows, _, rfl⟩ := Tx.createTransaction_ok.mp done
  refine Tx.local_bind (Tx.local_view (Store.walletRef_seenBy source)) fun wallet s₂ done => ?_
  obtain ⟨rfl, rfl⟩ := Tx.view_ok.mp done
  refine Tx.local_bind (Tx.local_view (Store.walletRef_seenBy target)) fun toWallet s₂ done => ?_
  obtain ⟨rfl, rfl⟩ := Tx.view_ok.mp done
  refine Tx.local_movement (effect_own source fun id named => ?_) fun deltas => ?_
  · obtain rfl : installment.walletId = id := Option.some.inj named
    exact target
  -- The balances have moved, and the instalment and its wallet are still the user's.
  have present : (s.ownInstallment installment.id input.userId).isSome := by rw [own]; rfl
  have retains := Store.Retains.credit { s with nextId := s.nextId + 1, transactions := rows } deltas
  refine Tx.local_bind (Tx.local_updateInstallment (fun _ => rfl) (retains.installments present)
    -- The plan that is found is the one that was read.
    fun row own' => ?_) fun updated s₃ done => ?_
  · obtain rfl : installment = row := Option.some.inj (own.symm.trans own')
    exact retains.wallets target
  · obtain ⟨row, here, _, rfl, rfl⟩ := Tx.updateInstallment_ok.mp done
    obtain rfl : installment = row := Option.some.inj (found.symm.trans here)
    exact Tx.local_bind (Tx.local_view (Store.walletRef_seenBy (retains.wallets target))) fun _ _ _ =>
      Tx.local_pure _

theorem payInstallment_local (sound : s.Intact) :
    (payInstallment zone now input).Local (Store.seenBy input.userId) s := by
  unfold payInstallment
  refine local_ofExcept_bind fun date _ =>
    local_query_bind ?_ (local_orThrow_bind fun ⟨installment, name⟩ found => ?_)
  -- The instalment is read with its wallet, which is the user's.
  · rw [Store.ownInstallment_seenBy]
    cases own : s.ownInstallment input.installmentId input.userId with
    | none => rfl
    | some row =>
      obtain ⟨found, user⟩ := Store.ownInstallment_eq_some.mp own
      have wallet := sound.linked.installments row (Table.mem_of_find? found)
      rw [Store.InstallmentLinks, user] at wallet
      simp [Store.wallet_seenBy wallet]
  · obtain ⟨row, own, same⟩ := Option.map_eq_some_iff.mp found
    obtain ⟨rfl, rfl⟩ := Prod.mk.inj same
    refine local_throwIf_bind fun _ => local_throwIf_bind fun _ => local_ofExcept_bind fun _ _ => ?_
    -- The source wallet is read for the user.
    refine local_ownWallet fun id wallet _ owned => local_throwIf_bind fun _ => local_throwIf_bind fun _ => ?_
    refine local_ofExcept_bind fun _ _ => Tx.local_commit (writePayment_local sound own ?_)
    obtain rfl : wallet.id = id := Table.key_of_find? (Store.ownWallet_eq_some.mp owned).1
    rw [owned]
    rfl

end Payments

/-! Templates. -/

section Templates

open RecurringTransactionService

variable {s : Store} {zone : Zone} {now : Instant} {userId : Id} {α : Type} {rest : Unit → Service α}

theorem local_assertWalletOwnership {walletId : Option Id}
    (next : (∃ id, walletId = some id ∧ (s.ownWallet id userId).isSome) →
      (rest ()).Local (Store.seenBy userId) s) :
    (assertWalletOwnership userId walletId >>= rest).Local (Store.seenBy userId) s := by
  unfold assertWalletOwnership
  -- The wallet is read for the user, if one is named.
  simp only [bind_bind]
  refine local_ownWallet fun id wallet named own => next ⟨id, named, ?_⟩
  rw [own]
  rfl

theorem local_assertCategoryOwnership {categoryId : Option Id}
    (next : (∀ id ∈ categoryId, (s.ownCategory id userId).isSome) → (rest ()).Local (Store.seenBy userId) s) :
    (assertCategoryOwnership userId categoryId >>= rest).Local (Store.seenBy userId) s := by
  unfold assertCategoryOwnership
  simp only [bind_bind]
  -- The category is read for the user, if one is named.
  cases categoryId with
  | none => exact local_query_bind rfl (local_orThrow_bind fun _ absent => by cases absent)
  | some id =>
    refine local_query_bind Store.ownCategory_seenBy
      (local_orThrow_bind fun category own => next fun other named => ?_)
    obtain rfl : id = other := Option.some.inj named
    exact Option.isSome_iff_exists.mpr ⟨category, own⟩

theorem local_assertCategoryGiven {categoryId : Option Id}
    (next : (∀ id ∈ categoryId, (s.ownCategory id userId).isSome) → (rest ()).Local (Store.seenBy userId) s) :
    (assertCategoryGiven userId categoryId >>= rest).Local (Store.seenBy userId) s := by
  cases categoryId with
  | none => exact next fun _ named => by cases named
  | some id => exact local_assertCategoryOwnership next

theorem local_assertWalletSent {walletId : Arg Id}
    (next : (∀ id ∈ walletId.truthy, (s.ownWallet id userId).isSome) →
      (rest ()).Local (Store.seenBy userId) s) :
    (assertWalletSent userId walletId >>= rest).Local (Store.seenBy userId) s := by
  unfold assertWalletSent
  split
  · rename_i omitted
    -- A wallet that is not sent is not read.
    exact next fun id named => by rw [omitted] at named; cases named
  · refine local_assertWalletOwnership fun ⟨id, same, own⟩ => next fun other named => ?_
    obtain rfl : id = other := Option.some.inj (same.symm.trans named)
    exact own

theorem local_assertCategorySent {categoryId : Arg Id}
    (next : (∀ id ∈ categoryId.truthy, (s.ownCategory id userId).isSome) →
      (rest ()).Local (Store.seenBy userId) s) :
    (assertCategorySent userId categoryId >>= rest).Local (Store.seenBy userId) s := by
  unfold assertCategorySent
  split
  · rename_i omitted
    -- A category that is not sent is not read.
    exact next fun id named => by rw [omitted] at named; cases named
  · exact local_assertCategoryOwnership next

theorem createRecurringTransaction_local {input : CreateRecurringTransactionInput} (sound : s.Intact) :
    (createRecurringTransaction zone now input).Local (Store.seenBy input.userId) s := by
  unfold createRecurringTransaction
  -- The input is checked without the store.
  refine local_throwIf_bind fun _ => local_orThrow_bind fun _ _ => local_orThrow_bind fun _ _ => ?_
  refine local_ofExcept_bind fun _ _ => local_orThrow_bind fun _ _ => local_orThrow_bind fun walletId _ => ?_
  refine local_ofExcept_bind fun _ _ => local_ofExcept_bind fun _ _ => local_throwIf_bind fun _ => ?_
  refine local_ofExcept_bind fun _ _ => local_assertWalletOwnership fun ⟨id, named, wallet⟩ => ?_
  obtain rfl : walletId = id := Option.some.inj named
  -- The template names the wallet and the category that were verified.
  refine local_assertCategoryGiven fun category => local_ofExcept_bind fun _ _ => Tx.local_commit ?_
  refine Tx.local_bind (Tx.local_createTemplate sound.numbered rfl rfl ⟨wallet, category⟩)
    fun created s₁ done => ?_
  obtain ⟨rfl, _, rows, _, rfl⟩ := Tx.createTemplate_ok.mp done
  exact Tx.local_view (Store.includeTemplate_seenBy ⟨wallet, category⟩ rfl)

theorem updateRecurringTransaction_local {input : UpdateRecurringTransactionInput} (sound : s.Intact) :
    (updateRecurringTransaction zone now input).Local (Store.seenBy input.userId) s := by
  unfold updateRecurringTransaction
  refine local_query_bind Store.ownTemplate_seenBy (local_orThrow_bind fun existing own => ?_)
  -- The template is read for the user, and the input is checked against it.
  refine local_throwIf_bind fun _ => local_throwIf_bind fun _ => local_throwIf_bind fun _ => ?_
  refine local_throwIf_bind fun _ => local_ofExcept_bind fun amount _ =>
    local_ofExcept_bind fun startDate _ => ?_
  refine local_ofExcept_bind fun endDate _ => local_throwIf_bind fun _ =>
    local_ofExcept_bind fun reminder _ => ?_
  refine local_assertWalletSent fun wallet => local_assertCategorySent fun category => ?_
  refine local_ofExcept_bind fun column _ => Tx.local_commit ?_
  obtain ⟨found, user⟩ := Store.ownTemplate_eq_some.mp own
  have before := sound.linked.templates existing (Table.mem_of_find? found)
  -- A wallet or a category is one that was verified, or the one the template has.
  have links : s.TemplateLinks (editedTemplate input
      (input.amountMode.truthy.getD existing.amountMode) column startDate
      endDate reminder existing) := by
    refine ⟨?_, fun id named => ?_⟩
    · show (s.ownWallet (input.walletId.truthy.getD existing.walletId) existing.userId).isSome
      cases sent : input.walletId.truthy with
      | none => exact before.1
      | some id => exact user ▸ wallet id sent
    · have named : (input.categoryId.truthy.orElse fun _ => existing.categoryId) = some id := named
      cases sent : input.categoryId.truthy with
      | none =>
        rw [sent] at named
        exact before.2 id named
      | some other =>
        rw [sent] at named
        obtain rfl : other = id := Option.some.inj named
        exact user ▸ category other sent
  refine Tx.local_bind (Tx.local_updateTemplate (fun _ => rfl) (by rw [own]; rfl) fun row own' => ?_)
    fun updated s₁ done => ?_
  -- The template that is found is the one that was read.
  · obtain rfl : existing = row := Option.some.inj (own.symm.trans own')
    exact links
  · obtain ⟨row, here, _, rfl, rfl⟩ := Tx.updateTemplate_ok.mp done
    obtain rfl : existing = row := Option.some.inj (found.symm.trans here)
    exact Tx.local_view (Store.includeTemplate_seenBy links user)

end Templates

end PocketMint
