import PocketMint.Proofs.Billing
import PocketMint.Proofs.Reversals

/-! What moving money does to a store once every check is passed but that of the source's balance. -/

namespace PocketMint

open Prog TransactionService InstallmentPaymentService

/-- An identifier that is not drawn yet is free among the transactions. -/
theorem Store.Numbered.freeTransaction {s : Store} (numbered : s.Numbered) (row : Transaction)
    (drawn : row.id = s.nextId) : ∃ rows, s.transactions.insert? row = some rows := by
  -- A row that had it would be below the counter.
  apply Table.exists_insert
  rw [Table.find?_eq_none_iff]
  intro other member same
  -- So it would be smaller than itself.
  have below : other.id < s.nextId := numbered.transactions other member
  have named : other.id = row.id := same
  rw [named, drawn] at below
  exact Nat.lt_irrefl _ below

/-- A sequence commits when its first part does, and the rest from there. -/
theorem Tx.bind_answers {α β : Type} {first : Tx α} {rest : α → Tx β} {s between after : Store} {middle : α}
    (done : first s = .ok (middle, between)) (answers : ∃ value, rest middle between = .ok (value, after)) :
    ∃ value, (first >>= rest) s = .ok (value, after) := by
  rcases answers with ⟨value, further⟩
  exact ⟨value, Tx.bind_ok.mpr ⟨middle, between, done, further⟩⟩

/-- The refusal of a movement that its source cannot afford. -/
def insufficientFunds (message : String) : Failure := .service message 400 "INSUFFICIENT_FUNDS"

section Payment

variable {zone : Zone} {now : Instant} {input : PayInstallmentInput} {installment : Installment}
  {source : Wallet} {amount : Decimal} {date due : Instant} {s : Store}

/-- Every check of a payment but that of its source's balance, passed in a store. -/
structure PaymentChecked (zone : Zone) (now : Instant) (input : PayInstallmentInput)
    (installment : Installment) (source : Wallet) (amount : Decimal) (date due : Instant) (s : Store) :
    Prop where
  dated : businessDate input.date zone now = .ok date
  own : s.ownInstallment input.installmentId input.userId = some installment
  active : installment.status = .active
  unpaid : installment.paidTerms < installment.installmentMonths
  paid : paymentAmount installment input.amount = .ok amount
  named : input.sourceWalletId = .given source.id
  held : s.ownWallet source.id input.userId = some source
  asset : source.type.isAsset
  due : nextDueDate zone now installment = .ok due

/-- The write of a payment between wallets that are there. -/
theorem writePayment_accepts (numbered : s.Numbered) {walletName : String} {sourceWalletId : Id}
    (from_ : (s.wallets.find? sourceWalletId).isSome) (onto : (s.wallets.find? installment.walletId).isSome)
    (found : s.installments.find? installment.id = some installment) :
    ∃ rows, s.transactions.insert?
        (paymentRow now input sourceWalletId installment walletName amount date s.nextId) = some rows ∧
      ∃ value, writePayment now input sourceWalletId installment walletName amount date due s = .ok (value,
        Store.credit
          { s with
            nextId := s.nextId + 1
            transactions := rows
            installments := s.installments.update installment.id (advanced installment due) }
          (plainDeltas .transfer amount sourceWalletId (some installment.walletId))) := by
  -- The transfer is new, and its wallets are there.
  have keys : s.TransactionKeys
      (paymentRow now input sourceWalletId installment walletName amount date s.nextId) := by
    refine ⟨from_, ?_, ?_, ?_⟩
    · intro id named
      cases named
      exact onto
    · intro id named
      cases named
    · intro id named
      cases named
  rcases numbered.freeTransaction
    (paymentRow now input sourceWalletId installment walletName amount date s.nextId) rfl
      with ⟨rows, inserted⟩
  -- The steps of the write succeed one after the other.
  have created := Tx.createTransaction_ok.mpr ⟨rfl, keys, rows, inserted, rfl⟩
  have effect : computeBalanceEffect
      { type := .transfer, amount, walletId := sourceWalletId, toWalletId := some installment.walletId } =
      .ok (plainDeltas .transfer amount sourceWalletId (some installment.walletId)) :=
    computeBalanceEffect_ok.mpr ⟨fun _ => rfl, rfl⟩
  have applied :
      (applyBalanceDeltas (plainDeltas .transfer amount sourceWalletId (some installment.walletId)))
      { s with nextId := s.nextId + 1, transactions := rows } =
      .ok ((), Store.credit { s with nextId := s.nextId + 1, transactions := rows }
        (plainDeltas .transfer amount sourceWalletId (some installment.walletId))) :=
    applyBalanceDeltas_accepts fun _ listed => plainDeltas_present keys.1 keys.2.1 listed
  -- Crediting keeps the wallet that the plan names.
  have bill : (Store.credit { s with nextId := s.nextId + 1, transactions := rows }
      (plainDeltas .transfer amount sourceWalletId (some installment.walletId))).InstallmentKeys
      (advanced installment due installment) := by
    rw [Store.InstallmentKeys, Store.credit_find_isSome]
    exact onto
  -- The steps are put together in their order.
  refine ⟨rows, inserted, ?_⟩
  apply Tx.bind_answers created
  apply Tx.bind_answers (Tx.view_ok.mpr ⟨rfl, rfl⟩)
  apply Tx.bind_answers (Tx.view_ok.mpr ⟨rfl, rfl⟩)
  apply Tx.bind_answers (Tx.lift_ok.mpr ⟨effect, rfl⟩)
  apply Tx.bind_answers applied
  -- The plan is found in the credited store as well.
  have here : (Store.credit { s with nextId := s.nextId + 1, transactions := rows }
      (plainDeltas .transfer amount sourceWalletId (some installment.walletId))).installments.find?
      installment.id = some installment := found
  apply Tx.bind_answers (Tx.updateInstallment_ok.mpr ⟨installment, here, bill, rfl, rfl⟩)
  apply Tx.bind_answers (Tx.view_ok.mpr ⟨rfl, rfl⟩)
  exact ⟨_, rfl⟩

namespace PaymentChecked

variable (checked : PaymentChecked zone now input installment source amount date due s)

include checked

/-- The source of a payment is read as the user's. -/
theorem sourced : (input.sourceWalletId.truthy.bind fun id => s.ownWallet id input.userId) = some source := by
  rw [checked.named]
  exact checked.held

/-- Up to the check of its source's balance a payment runs on. -/
theorem runs : (payInstallment zone now input).run s =
    (throwIf (source.balance < amount) (insufficientFunds "Saldo rekening sumber tidak cukup") >>= fun _ =>
      Prog.ofExcept (nextDueDate zone now installment) >>= fun due =>
        commit id (writePayment now input source.id installment
          (((s.wallets.find? installment.walletId).map Wallet.name).getD "") amount date due)).run s := by
  -- One check after the other lets the payment through.
  have unpaid : ¬installment.installmentMonths ≤ installment.paidTerms := not_le.mpr checked.unpaid
  -- The plan is the user's, and it comes with the name of its wallet.
  have read : ((s.ownInstallment input.installmentId input.userId).map fun row =>
      (row, ((s.wallets.find? row.walletId).map Wallet.name).getD "")) =
      some (installment, ((s.wallets.find? installment.walletId).map Wallet.name).getD "") := by
    rw [checked.own]
    rfl
  rw [payInstallment, run_ofExcept_passes checked.dated, run_query_bind, run_orThrow_passes read]
  dsimp only
  rw [run_throwIf_passes (not_not.mpr checked.active), run_throwIf_passes unpaid,
    run_ofExcept_passes checked.paid, run_query_bind, run_orThrow_passes checked.sourced,
    run_throwIf_passes (not_not.mpr checked.asset)]
  rfl

/-- A payment of more than its source holds is refused for that, and changes nothing. -/
theorem refused (short : source.balance < amount) :
    serve zone s { now, request := .payInstallment input } =
      (.error (insufficientFunds "Saldo rekening sumber tidak cukup"), s) := by
  rw [serve, handle, run_bind, checked.runs, run_throwIf_stops short]

/-- A payment that its source can afford is accepted, and moves the amount. -/
theorem accepted (numbered : s.Numbered) (bill : (s.wallets.find? installment.walletId).isSome)
    (afforded : amount ≤ source.balance) :
    ∃ response walletName rows,
      s.transactions.insert?
        (paymentRow now input source.id installment walletName amount date s.nextId) = some rows ∧
      serve zone s { now, request := .payInstallment input } = (.ok response,
        Store.credit
          { s with
            nextId := s.nextId + 1
            transactions := rows
            installments := s.installments.update installment.id (advanced installment due) }
          (plainDeltas .transfer amount source.id (some installment.walletId))) := by
  -- Every key of the write is there, so the database takes it, and the balance covers the amount.
  have here := (Store.ownInstallment_eq_some.mp checked.own).1
  have key : installment.id = input.installmentId := Table.key_of_find? here
  -- The source wallet is the user's, so it is in the table.
  have from_ : (s.wallets.find? source.id).isSome := by
    rw [(Store.ownWallet_eq_some.mp checked.held).1]
    rfl
  rcases writePayment_accepts numbered from_ bill (key ▸ here) with
    ⟨rows, inserted, value, written⟩
  -- The balance and the next date let the write through.
  refine ⟨.payment value, _, rows, inserted, ?_⟩
  have committed : (commit id _).run s = _ := run_commit_ok written
  rw [serve, handle, run_bind, checked.runs, run_throwIf_passes (not_lt.mpr afforded),
    run_ofExcept_passes checked.due, committed]
  rfl

end PaymentChecked

end Payment

/-- The rows that a linked row names are there. -/
theorem Store.TransactionLinks.keys {s : Store} {row : Transaction} (links : s.TransactionLinks row) :
    s.TransactionKeys row := by
  -- A row that is read as its user's is a row of the table.
  refine ⟨Option.isSome_of_isSome_filter _ _ links.1, ?_, ?_, ?_⟩
  -- The destination, the category and the instalment are links of the same kind.
  · intro id named
    exact Option.isSome_of_isSome_filter _ _ (links.2.1 id named)
  · intro id named
    exact Option.isSome_of_isSome_filter _ _ (links.2.2.1 id named)
  · intro id named
    exact Option.isSome_of_isSome_filter _ _ (links.2.2.2 id named)

section Creation

variable {zone : Zone} {now : Instant} {input : CreateTransactionInput} {amount : Numeric} {source : Wallet}
  {toWalletId : Id} {date : Instant} {s : Store}

/-- Every check of a new transfer but that of its source's balance, passed in a store. -/
structure TransferChecked (zone : Zone) (now : Instant) (input : CreateTransactionInput) (amount : Numeric)
    (source : Wallet) (toWalletId : Id) (date : Instant) (s : Store) : Prop where
  kind : input.type = some .transfer
  given : positiveAmount input.amount = some amount
  target : targetWallet input s = some source.id
  onto : input.toWalletId = .given toWalletId
  apart : toWalletId ≠ source.id
  dated : businessDate input.date zone now = .ok date
  held : s.ownWallet source.id input.userId = some source
  asset : source.type.isAsset
  arrives : (s.ownWallet toWalletId input.userId).isSome
  uncategorized : input.categoryId.truthy = none
  unbilled : input.billingMode = .omitted

/-- A creation finds the wallet that it names, or else the user's first. -/
theorem resolveWalletId_run {walletId : Id} (target : targetWallet input s = some walletId) :
    (resolveWalletId input).run s = (.ok walletId, s) := by
  cases named : input.walletId.truthy with
  | some id =>
    -- A wallet that is named is answered without a read.
    have same : id = walletId := by simpa [targetWallet, named] using target
    simp [resolveWalletId, named, run, same]
  | none =>
    -- Otherwise the first wallet of the user is read.
    rcases (by simpa [targetWallet, named] using target) with ⟨wallet, found, same⟩
    simp [resolveWalletId, named, query, found, orThrow, run, same]

/-- The write of a new row between wallets that are there. -/
theorem writeRegular_accepts (numbered : s.Numbered) {type : FinancialTxType}
    {value : Decimal} {walletId : Id}
    (keys : s.TransactionKeys (regularRow now input type value walletId date s.nextId))
    (complete : type = .transfer → (destination input type).isSome) :
    ∃ rows, s.transactions.insert? (regularRow now input type value walletId date s.nextId) = some rows ∧
      ∃ answer, (writeRegular now input type value walletId date) s = .ok (answer,
        Store.credit { s with nextId := s.nextId + 1, transactions := rows }
          (plainDeltas type value walletId (destination input type))) := by
  rcases numbered.freeTransaction (regularRow now input type value walletId date s.nextId) rfl with
    ⟨rows, inserted⟩
  -- Each step of the write succeeds, since the keys are there and the number is free.
  have created := Tx.createTransaction_ok.mpr ⟨rfl, keys, rows, inserted, rfl⟩
  have effect : computeBalanceEffect
      { type, amount := value, walletId, toWalletId := destination input type } =
      .ok (plainDeltas type value walletId (destination input type)) :=
    computeBalanceEffect_ok.mpr ⟨complete, rfl⟩
  have applied : (applyBalanceDeltas (plainDeltas type value walletId (destination input type)))
      { s with nextId := s.nextId + 1, transactions := rows } =
      .ok ((), Store.credit { s with nextId := s.nextId + 1, transactions := rows }
        (plainDeltas type value walletId (destination input type))) :=
    applyBalanceDeltas_accepts fun _ listed => plainDeltas_present keys.1 keys.2.1 listed
  -- The steps are put together in their order.
  refine ⟨rows, inserted, ?_⟩
  apply Tx.bind_answers created
  apply Tx.bind_answers (Tx.view_ok.mpr ⟨rfl, rfl⟩)
  apply Tx.bind_answers (Tx.lift_ok.mpr ⟨effect, rfl⟩)
  apply Tx.bind_answers applied
  exact ⟨_, rfl⟩

namespace TransferChecked

variable (checked : TransferChecked zone now input amount source toWalletId date s)

include checked

/-- A new transfer is refused for its source's balance, or written. -/
theorem runs : (createTransaction zone now input).run s =
    if amount.IsGreater source.balance then (.error (insufficientFunds "Saldo sumber tidak mencukupi"), s)
    else (Prog.ofExcept (columnValue amount) >>= fun value =>
      commit rethrowCreate (writeRegular now input .transfer value source.id date)).run s := by
  -- What was checked answers each check of the program in turn.
  have onto : input.toWalletId.truthy = some toWalletId := by
    rw [checked.onto]
    rfl
  -- The destination is named, is another wallet, and the source is an asset.
  have unnamed : ¬(FinancialTxType.transfer = .transfer ∧ input.toWalletId.truthy = none) := by
    simp [onto]
  have apart : ¬(FinancialTxType.transfer = .transfer ∧ input.toWalletId.truthy = some source.id) := by
    simp [onto, checked.apart]
  have asset : ¬(FinancialTxType.transfer = .transfer ∧ ¬source.type.isAsset) := by
    simp [checked.asset]
  rw [createTransaction, run_bind_passes (resolveWalletId_run checked.target),
    run_orThrow_passes checked.kind,
    run_orThrow_passes checked.given, run_throwIf_passes unnamed, run_throwIf_passes apart,
    run_ofExcept_passes checked.dated, run_query_bind, run_orThrow_passes checked.held,
      run_throwIf_passes asset]
  by_cases short : amount.IsGreater source.balance
  -- The transfer is refused for its amount.
  · rw [if_pos short, run_throwIf_stops ⟨rfl, short⟩]
    rfl
  · -- Past the balance, the checks are of the destination and of what a transfer must not have.
    rcases Option.isSome_iff_exists.mp checked.arrives with ⟨arrival, arrives⟩
    have verified : (verifyDestination input.userId input.toWalletId.truthy .transfer).run s =
        (.ok (), s) := by
      rw [onto, verifyDestination, run_query_bind, run_orThrow_passes arrives]
      rfl
    -- A transfer has no category to verify.
    have plain : (verifyCategory input.userId input.categoryId.truthy .transfer).run s = (.ok (), s) := by
      rw [checked.uncategorized]
      rfl
    rw [if_neg short, run_throwIf_passes fun both => short both.2, run_bind_passes verified,
      run_throwIf_passes (by simp [checked.uncategorized]), run_throwIf_passes (by simp),
        run_bind_passes plain,
      run_throwIf_passes (by simp), run_throwIf_passes (by simp),
        run_throwIf_passes (by simp [checked.unbilled]),
      if_neg (by simp)]

/-- A new transfer of more than its source holds is refused for that, and changes nothing. -/
theorem refused (short : amount.IsGreater source.balance) :
    serve zone s { now, request := .createTransaction input } =
      (.error (insufficientFunds "Saldo sumber tidak mencukupi"), s) := by
  rw [serve, handle, run_bind, checked.runs, if_pos short]

/-- A new transfer that its source can afford is accepted, and moves the amount. -/
theorem accepted (numbered : s.Numbered) {value : Decimal} (finite : amount = .finite value)
    (afforded : value ≤ source.balance) :
    ∃ response rows,
      s.transactions.insert? (regularRow now input .transfer value source.id date s.nextId) = some rows ∧
      serve zone s { now, request := .createTransaction input } = (.ok response,
        Store.credit { s with nextId := s.nextId + 1, transactions := rows }
          (plainDeltas .transfer value source.id (some toWalletId))) := by
  subst finite
  -- The destination is the one that was sent.
  have onto : destination input .transfer = some toWalletId := by
    rw [destination, checked.onto]
    rfl
  -- The keys of the row are the wallets that were checked, and it has no others.
  have keys : s.TransactionKeys (regularRow now input .transfer value source.id date s.nextId) := by
    refine ⟨?_, ?_, ?_, ?_⟩
    · show (s.wallets.find? source.id).isSome
      rw [(Store.ownWallet_eq_some.mp checked.held).1]
      rfl
    · intro id named
      have same : toWalletId = id := Option.some.inj (onto.symm.trans named)
      exact same ▸ Option.isSome_of_isSome_filter _ _ checked.arrives
    · intro id named
      have none_ : input.categoryId.truthy = some id := named
      rw [checked.uncategorized] at none_
      cases none_
    · intro id named
      cases named
  -- A transfer needs its destination, and it has one.
  have complete : FinancialTxType.transfer = .transfer → (destination input .transfer).isSome := by
    rw [onto]
    exact fun _ => rfl
  rcases writeRegular_accepts numbered keys complete with ⟨rows, inserted, answer, written⟩
  rw [onto] at written
  -- The write commits, and the request answers with its row.
  have committed : (commit rethrowCreate _).run s = _ := run_commit_ok written
  have afforded : ¬(Numeric.finite value).IsGreater source.balance := not_lt.mpr afforded
  refine ⟨.transaction answer, rows, inserted, ?_⟩
  have column : columnValue (.finite value) = .ok value := rfl
  rw [serve, handle, run_bind, checked.runs, if_neg afforded, run_ofExcept_passes column, committed]
  rfl

end TransferChecked

end Creation

section Update

variable {zone : Zone} {now : Instant} {input : UpdateTransactionInput} {existing : Transaction}
  {amount : Numeric} {source : Wallet} {toWalletId : Id} {date : Option Instant} {s : Store}

/-- Every check of an update to a transfer but that of its source's balance, passed in a store. -/
structure RetypeChecked (zone : Zone) (now : Instant) (input : UpdateTransactionInput)
    (existing : Transaction) (amount : Numeric) (source : Wallet) (toWalletId : Id) (s : Store) : Prop where
  valid : input.type ≠ .invalid
  given : input.amount.isSome → (positiveAmount input.amount).isSome
  priced : (positiveAmount input.amount).getD (.finite existing.amount) = amount
  dated : ∀ text ∈ input.date.filter (· ≠ ""), ∃ date, businessDate (some text) zone now = .ok date
  own : s.ownTransaction input.id input.userId = some existing
  regular : existing.isInstallment = false
  unbilled : input.isInstallment = false
  complete : existing.type = .transfer → existing.toWalletId.isSome
  kind : input.type.truthy.getD existing.type = .transfer
  target : newWalletId input existing = some source.id
  onto : newToWalletId input existing .transfer = some toWalletId
  apart : toWalletId ≠ source.id
  held : s.ownWallet source.id input.userId = some source
  asset : source.type.isAsset
  arrives : (s.ownWallet toWalletId input.userId).isSome
  uncategorized : input.categoryId.truthy = none

/-- An update without a date has none to parse, and a date that parses is one. -/
theorem updatedDate_ok {sent : Option String}
    (dated : ∀ text ∈ sent.filter (· ≠ ""), ∃ date, businessDate (some text) zone now = .ok date) :
    ∃ date, (match sent.filter (· ≠ "") with
      | none => Except.ok none
      | some date => (businessDate (some date) zone now).map some) = .ok date := by
  cases given : sent.filter (· ≠ "") with
  | none => exact ⟨none, rfl⟩
  | some text =>
    rcases dated text given with ⟨date, parsed⟩
    exact ⟨some date, by simp only [parsed, Except.map]⟩

/-- The write of an update of a row between wallets that are there. -/
theorem writeUpdate_accepts {type : FinancialTxType} {value : Decimal} {walletId : Id}
    (found : s.transactions.find? input.id = some existing)
    (complete : existing.type = .transfer → existing.toWalletId.isSome) (known : s.TransactionKeys existing)
    (target : newWalletId input existing = some walletId)
    (keys : s.TransactionKeys
      (updatedRow input type value walletId (newToWalletId input existing type) date existing))
    (present : (s.wallets.find? walletId).isSome)
    (arrives : ∀ id ∈ newToWalletId input existing type, (s.wallets.find? id).isSome)
    (moves : type = .transfer → (newToWalletId input existing type).isSome) :
    ∃ answer, (writeUpdate input existing type (.finite value) date) s = .ok (answer,
      Store.credit (Store.credit
        { s with
          transactions := s.transactions.update input.id
            (updatedRow input type value walletId (newToWalletId input existing type) date) }
        (negated (plainDeltas existing.type existing.amount existing.walletId existing.toWalletId)))
        (plainDeltas type value walletId (newToWalletId input existing type))) := by
  -- The old effect can be taken back, and the new one posted, since all their wallets are there.
  have reversal : reverseBalanceEffect
      { type := existing.type
        amount := existing.amount
        walletId := existing.walletId
        toWalletId := existing.toWalletId } =
      .ok (negated (plainDeltas existing.type existing.amount existing.walletId existing.toWalletId)) :=
    reverseBalanceEffect_ok.mpr ⟨complete, rfl⟩
  have reversed : (applyBalanceDeltas
      (negated (plainDeltas existing.type existing.amount existing.walletId existing.toWalletId))) s =
      .ok ((), s.credit
        (negated (plainDeltas existing.type existing.amount existing.walletId existing.toWalletId))) :=
    applyBalanceDeltas_reverses known.1 known.2.1
  have effect : computeBalanceEffect
      { type, amount := value, walletId, toWalletId := newToWalletId input existing type } =
      .ok (plainDeltas type value walletId (newToWalletId input existing type)) :=
    computeBalanceEffect_ok.mpr ⟨moves, rfl⟩
  -- First the old effect is taken back.
  apply Tx.bind_answers (Tx.lift_ok.mpr ⟨reversal, rfl⟩)
  apply Tx.bind_answers reversed
  have column : (fun s => (columnValue (.finite value)).map fun value => (value, s) : Tx Decimal)
      (s.credit (negated (plainDeltas existing.type existing.amount existing.walletId existing.toWalletId))) =
      .ok (value, _) := rfl
  apply Tx.bind_answers column
  simp only [target]
  -- Then the row is found and rewritten.
  have here : (s.credit (negated (plainDeltas existing.type existing.amount existing.walletId
      existing.toWalletId))).transactions.find? input.id = some existing := found
  apply Tx.bind_answers (Tx.updateTransaction_ok.mpr
    ⟨existing, here, (Store.transactionKeys_credit _ _ _).mpr keys, rfl, rfl⟩)
  apply Tx.bind_answers (Tx.view_ok.mpr ⟨rfl, rfl⟩)
  apply Tx.bind_answers (Tx.lift_ok.mpr ⟨effect, rfl⟩)
  -- At last the new effect is posted.
  have applied :
      (applyBalanceDeltas (plainDeltas type value walletId (newToWalletId input existing type)))
      (Store.credit
        { s with
          transactions := s.transactions.update input.id
            (updatedRow input type value walletId (newToWalletId input existing type) date) }
        (negated (plainDeltas existing.type existing.amount existing.walletId existing.toWalletId))) =
      .ok ((), _) :=
    applyBalanceDeltas_accepts fun _ listed =>
      (Store.credit_find_isSome _ _ _).trans (plainDeltas_present present arrives listed)
  apply Tx.bind_answers applied
  exact ⟨_, rfl⟩

namespace RetypeChecked

variable (checked : RetypeChecked zone now input existing amount source toWalletId s)

include checked

/-- An update to a transfer is refused for its source's balance, or written. -/
theorem runs : ∃ date, (updateTransaction zone now input).run s =
    if amount.IsGreater source.balance then (.error (insufficientFunds "Saldo sumber tidak mencukupi"), s)
    else (commit (rethrowMissing input.id) (writeUpdate input existing .transfer amount date)).run s := by
  -- An amount that is sent is positive, and a stored transfer has its destination.
  have given : ¬(input.amount.isSome ∧ positiveAmount input.amount = none) := by
    intro broken
    have present := checked.given broken.1
    simp [broken.2] at present
  have complete : ¬(existing.type = .transfer ∧ existing.toWalletId = none) := by
    intro broken
    have present := checked.complete broken.1
    simp [broken.2] at present
  rcases updatedDate_ok checked.dated with ⟨date, dated⟩
  refine ⟨date, ?_⟩
  -- The row is read after its input is checked.
  rw [updateTransaction, run_throwIf_passes checked.valid, run_throwIf_passes given]
  refine (run_bind_passes (congrArg (fun parsed => (Prog.ofExcept parsed).run s) dated)).trans ?_
  rw [run_query_bind, run_orThrow_passes checked.own,
    run_throwIf_passes (by simp [checked.regular]), run_throwIf_passes (by simp [checked.unbilled]),
    run_throwIf_passes complete]
  simp only [checked.kind, checked.priced, checked.target, checked.onto]
  -- The wallet of a transfer is checked with its destination, not as a target.
  have target : (verifyTarget input .transfer (some source.id)).run s = (.ok (), s) := by
    rw [verifyTarget, if_neg (by simp)]
    rfl
  have plain : (verifyCategory input.userId input.categoryId.truthy .transfer).run s = (.ok (), s) := by
    rw [checked.uncategorized]
    rfl
  -- Both wallets are read for the user.
  have reads : (Option.bind (some source.id) fun id => s.ownWallet id input.userId) = some source :=
    checked.held
  rcases Option.isSome_iff_exists.mp checked.arrives with ⟨arrival, arrives⟩
  have reads' : (Option.bind (some toWalletId) fun id => s.ownWallet id input.userId) =
      some arrival := arrives
  rw [run_bind_passes target]
  by_cases short : amount.IsGreater source.balance
  -- The source is too small, so the request ends there.
  · have verified : (verifyTransfer input .transfer amount (some source.id) (some toWalletId)).run s =
        (.error (insufficientFunds "Saldo sumber tidak mencukupi"), s) := by
      rw [verifyTransfer, if_pos rfl, run_throwIf_passes (by simp),
        run_throwIf_passes (by simp [checked.apart]),
        run_query_bind, run_orThrow_passes reads, run_throwIf_passes (not_not.mpr checked.asset),
        run_throwIf_stops short]
      rfl
    rw [if_pos short, run_bind, verified]
  -- The source has enough, and the destination is read after it.
  · have verified : (verifyTransfer input .transfer amount (some source.id) (some toWalletId)).run s =
        (.ok (), s) := by
      rw [verifyTransfer, if_pos rfl, run_throwIf_passes (by simp),
        run_throwIf_passes (by simp [checked.apart]),
        run_query_bind, run_orThrow_passes reads, run_throwIf_passes (not_not.mpr checked.asset),
        run_throwIf_passes short, run_query_bind, run_orThrow_passes reads']
      rfl
    rw [if_neg short, run_bind_passes verified, run_throwIf_passes (by simp [checked.uncategorized]),
      run_throwIf_passes (by simp), run_bind_passes plain]

/-- An update to a transfer of more than its source holds is refused for that, and changes nothing. -/
theorem refused (short : amount.IsGreater source.balance) :
    serve zone s { now, request := .updateTransaction input } =
      (.error (insufficientFunds "Saldo sumber tidak mencukupi"), s) := by
  rcases checked.runs with ⟨date, ran⟩
  rw [serve, handle, run_bind, ran, if_pos short]

/-- An update to a transfer that its source can afford is accepted: it takes the old row's effect back. -/
theorem accepted (linked : s.Linked) {value : Decimal} (finite : amount = .finite value)
    (afforded : value ≤ source.balance) :
    ∃ response date,
      serve zone s { now, request := .updateTransaction input } = (.ok response,
        Store.credit (Store.credit
          { s with
            transactions := s.transactions.update input.id
              (updatedRow input .transfer value source.id (some toWalletId) date) }
          (negated (plainDeltas existing.type existing.amount existing.walletId existing.toWalletId)))
          (plainDeltas .transfer value source.id (some toWalletId))) := by
  subst finite
  -- The row that was read is stored, and its own keys hold.
  have found := (Store.ownTransaction_eq_some.mp checked.own).1
  have known := (linked.transactions _ (Table.mem_of_find? found)).keys
  have present : (s.wallets.find? source.id).isSome := by
    rw [(Store.ownWallet_eq_some.mp checked.held).1]
    rfl
  -- The destination is the user's, so it is in the table.
  have onto : (s.wallets.find? toWalletId).isSome := Option.isSome_of_isSome_filter _ _ checked.arrives
  have arrives : ∀ id ∈ newToWalletId input existing .transfer, (s.wallets.find? id).isSome := by
    intro id named
    rw [checked.onto] at named
    cases named
    exact onto
  rcases checked.runs with ⟨date, ran⟩
  -- The new row names wallets that were read, no category, and the instalment of the old one.
  have keys : s.TransactionKeys
      (updatedRow input .transfer value source.id
          (newToWalletId input existing .transfer) date existing) := by
    refine ⟨?_, arrives, ?_, known.2.2.2⟩
    · simp only [updatedRow]
      split
      · exact known.1
      · exact present
    · intro id named
      cases named
  -- A transfer has a destination to go to.
  have moves : FinancialTxType.transfer = .transfer → (newToWalletId input existing .transfer).isSome := by
    rw [checked.onto]
    exact fun _ => rfl
  rcases writeUpdate_accepts found checked.complete known checked.target keys present arrives moves with
    ⟨answer, written⟩
  rw [checked.onto] at written
  -- The write commits, and the request answers with the rewritten row.
  have committed : (commit (rethrowMissing input.id) _).run s = _ := run_commit_ok written
  have afforded : ¬(Numeric.finite value).IsGreater source.balance := not_lt.mpr afforded
  refine ⟨.transaction answer, date, ?_⟩
  rw [serve, handle, run_bind, ran, if_neg afforded, committed]
  rfl

end RetypeChecked

end Update

end PocketMint
