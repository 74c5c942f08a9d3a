import PocketMint.Commit.Purchase
import PocketMint.Proofs.Acceptance
import PocketMint.Services.Notification
import PocketMint.Js.Cents

/-! A balance in cents moves by the amount that is stored, except for half cents on the other side of zero. -/

namespace PocketMint

open Prog TransactionService NotificationService

/-- Deltas that name a wallet nowhere do not move it. -/
theorem WalletDelta.on_eq_zero {deltas : List WalletDelta} {walletId : Id}
    (absent : walletId ∉ deltas.map WalletDelta.walletId) : WalletDelta.on deltas walletId = 0 := by
  induction deltas with
  | nil => rfl
  | cons delta rest ih =>
    rw [List.map_cons, List.mem_cons, not_or] at absent
    rw [on_cons, if_neg (Ne.symm absent.1), ih absent.2, add_zero]

/-- What deltas in cents add up to is in cents. -/
theorem WalletDelta.on_inCents {deltas : List WalletDelta} (whole : ∀ delta ∈ deltas, InCents delta.amount)
    (walletId : Id) : InCents (WalletDelta.on deltas walletId) := by
  -- The deltas are added one at a time, and whole cents stay whole under addition.
  induction deltas with
  | nil => exact inCents_zero
  | cons delta rest ih =>
    rw [on_cons]
    have tail := ih fun other listed => whole other (List.mem_cons_of_mem _ listed)
    split
    · exact (whole delta List.mem_cons_self).add tail
    · exact inCents_zero.add tail

/-- Rounding the amount of a movement rounds what it does to each wallet. -/
theorem on_plainDeltas_moneyColumn (type : FinancialTxType) (amount : Decimal) (walletId : Id)
    (toWalletId : Option Id) (other : Id) :
    WalletDelta.on (plainDeltas type (moneyColumn amount) walletId toWalletId) other =
      moneyColumn (WalletDelta.on (plainDeltas type amount walletId toWalletId) other) := by
  have nothing : moneyColumn 0 = 0 := inCents_zero
  -- A wallet gets the amount, loses it, does both, or neither.
  cases type with
  | income => by_cases here : walletId = other <;> simp [plainDeltas, here, nothing]
  | expense => by_cases here : walletId = other <;> simp [plainDeltas, here, nothing, moneyColumn_neg]
  | transfer =>
    cases toWalletId with
    | none => by_cases here : walletId = other <;> simp [plainDeltas, here, nothing, moneyColumn_neg]
    | some destination =>
      by_cases here : walletId = other <;> by_cases there : destination = other <;>
        simp [plainDeltas, here, there, nothing, moneyColumn_neg]

/-- The deltas of a movement are on different wallets when it does not stay on one. -/
theorem plainDeltas_nodup {type : FinancialTxType} {amount : Decimal} {walletId : Id} {toWalletId : Option Id}
    (apart : type = .transfer → toWalletId ≠ some walletId) :
    ((plainDeltas type amount walletId toWalletId).map WalletDelta.walletId).Nodup := by
  -- Only a transfer has two deltas, and its wallets differ.
  cases type with
  | income => simp [plainDeltas]
  | expense => simp [plainDeltas]
  | transfer =>
    cases toWalletId with
    | none => simp [plainDeltas]
    | some destination =>
      have different : walletId ≠ destination := fun same => apart rfl (congrArg some same.symm)
      simp [plainDeltas, different]

/-- The deltas of an amount in cents are in cents. -/
theorem plainDeltas_inCents {amount : Decimal} (whole : InCents amount)
    {type : FinancialTxType} {walletId : Id}
    {toWalletId : Option Id} : ∀ delta ∈ plainDeltas type amount walletId toWalletId, InCents delta.amount :=
  forall_plainDeltas whole whole.neg fun _ _ => whole

theorem negated_inCents {deltas : List WalletDelta} (whole : ∀ delta ∈ deltas, InCents delta.amount) :
    ∀ delta ∈ negated deltas, InCents delta.amount := by
  intro delta listed
  rcases List.mem_map.mp listed with ⟨forward, among, rfl⟩
  exact (whole forward among).neg

/-- Undoing what undoes deltas is applying them. -/
theorem negated_negated (deltas : List WalletDelta) : negated (negated deltas) = deltas := by
  simp [negated, Function.comp_def]

namespace Store

/-- Every balance is in cents, as its column keeps it. -/
def BalancesInCents (s : Store) : Prop := ∀ wallet ∈ s.wallets.rows, PocketMint.InCents wallet.balance

/-- The money columns that posting reads and writes hold values in cents. -/
structure InCents (s : Store) : Prop where
  balances : s.BalancesInCents
  amounts : ∀ row ∈ s.transactions.rows, PocketMint.InCents row.amount

/-- Every wallet takes what deltas do to it as it is rounded. -/
def Settles (s : Store) (deltas : List WalletDelta) : Prop :=
  ∀ wallet ∈ s.wallets.rows, PocketMint.Settles wallet.balance (WalletDelta.on deltas wallet.id)

/-- Add to each balance what the deltas do to it, and let the column take the sum. -/
def creditColumn (s : Store) (deltas : List WalletDelta) : Store :=
  { s with
    wallets := s.wallets.mapRows fun row =>
      { row with balance := moneyColumn (row.balance + WalletDelta.on deltas row.id) } }

/-- Deltas in cents keep balances in cents. -/
theorem BalancesInCents.credit {s : Store} (whole : s.BalancesInCents) {deltas : List WalletDelta}
    (cents : ∀ delta ∈ deltas, PocketMint.InCents delta.amount) : (s.credit deltas).BalancesInCents := by
  intro row among
  rcases List.mem_map.mp among with ⟨wallet, member, rfl⟩
  exact (whole wallet member).add (WalletDelta.on_inCents cents wallet.id)

theorem balancesInCents_creditColumn (s : Store) (deltas : List WalletDelta) :
    (s.creditColumn deltas).BalancesInCents := by
  intro row among
  rcases List.mem_map.mp among with ⟨wallet, _, rfl⟩
  exact inCents_moneyColumn _

/-- Crediting looks at nothing but the wallets. -/
theorem credit_wallets_congr {s other : Store} (same : s.wallets = other.wallets)
    (deltas : List WalletDelta) :
    (s.credit deltas).wallets = (other.credit deltas).wallets := by
  simp [credit, same]

/-- Balances move by the rounded amount exactly where every wallet takes the movement as it is rounded. -/
theorem creditColumn_eq_credit_iff {s : Store} (whole : s.BalancesInCents)
    (type : FinancialTxType) (amount : Decimal)
    (walletId : Id) (toWalletId : Option Id) :
    (s.creditColumn (plainDeltas type amount walletId toWalletId)).wallets =
        (s.credit (plainDeltas type (moneyColumn amount) walletId toWalletId)).wallets ↔
      s.Settles (plainDeltas type amount walletId toWalletId) := by
  -- Wallet by wallet, this is the law of the rounded sum.
  have each : ∀ wallet ∈ s.wallets.rows,
      (({ wallet with
          balance := moneyColumn (wallet.balance +
            WalletDelta.on (plainDeltas type amount walletId toWalletId) wallet.id) } : Wallet) =
        { wallet with
          balance := wallet.balance +
            WalletDelta.on (plainDeltas type (moneyColumn amount) walletId toWalletId) wallet.id }) ↔
      PocketMint.Settles wallet.balance
          (WalletDelta.on (plainDeltas type amount walletId toWalletId) wallet.id) := by
    -- The moved amount is the rounded one, because rounding respects the cases of the movement.
    intro wallet member
    rw [on_plainDeltas_moneyColumn, ← moneyColumn_add_iff (whole wallet member)]
    constructor
    · intro same
      exact congrArg Wallet.balance same
    · intro same
      rw [same]
  -- The two tables agree if each of their wallets does.
  rw [Table.ext_iff]
  simp only [creditColumn, credit, Table.rows_mapRows]
  rw [List.map_inj_left]
  exact forall₂_congr each

end Store

namespace MoneyColumn

/-- An increment that is applied finds its wallet, and lets the column take the sum. -/
theorem incrementBalance_ok {column : Decimal → Decimal} {walletId : Id} {amount : Decimal} {row : Wallet}
    {s after : Store} (done : Tx.incrementBalance walletId amount column s = .ok (row, after)) :
    after = { s with
      wallets := s.wallets.update walletId fun wallet =>
        { wallet with balance := column (wallet.balance + amount) } } := by
  unfold Tx.incrementBalance at done
  rcases Tx.modify_ok.mp done with ⟨_, _, _, _, rfl⟩
  rfl

/-- Deltas on different wallets are each taken with the balance of its wallet. -/
theorem applyBalanceDeltas_ok {deltas : List WalletDelta} {s after : Store} (whole : s.BalancesInCents)
    (apart : (deltas.map WalletDelta.walletId).Nodup)
    (done : applyBalanceDeltas deltas moneyColumn s = .ok ((), after)) : after = s.creditColumn deltas := by
  -- After its own delta a wallet is in cents, and no later delta is on it.
  induction deltas generalizing s with
  | nil =>
    rcases Tx.pure_ok.mp done with ⟨_, rfl⟩
    -- Nothing is added, and the column keeps what is in cents.
    have still : ∀ wallet ∈ s.wallets.rows,
        ({ wallet with balance := moneyColumn (wallet.balance + WalletDelta.on [] wallet.id) } : Wallet) =
          wallet := by
      intro wallet member
      have kept : moneyColumn wallet.balance = wallet.balance := whole wallet member
      rw [WalletDelta.on_nil, add_zero, kept]
    have rows : s.wallets = (s.creditColumn []).wallets := by
      apply Table.ext
      simp only [Store.creditColumn, Table.rows_mapRows]
      rw [List.map_congr_left still, List.map_id']
    show s = { s with wallets := (s.creditColumn []).wallets }
    rw [← rows]
  | cons delta rest ih =>
    rw [List.map_cons, List.nodup_cons] at apart
    -- A delta of nothing is skipped.
    by_cases nothing : delta.amount = 0
    · have skip : applyBalanceDeltas rest moneyColumn s = .ok ((), after) := by
        simpa [applyBalanceDeltas, nothing] using done
      rw [ih whole apart.2 skip]
      simp [Store.creditColumn, nothing]
    · have step : (do
          let _ ← Tx.incrementBalance delta.walletId delta.amount moneyColumn
          applyBalanceDeltas rest moneyColumn) s = .ok ((), after) := by
        simpa [applyBalanceDeltas, nothing] using done
      rcases Tx.bind_ok.mp step with ⟨_, s₁, incremented, later⟩
      obtain rfl := incrementBalance_ok incremented
      -- The wallet is in cents again after the first delta.
      have whole₁ : Store.BalancesInCents { s with
          wallets := s.wallets.update delta.walletId fun wallet =>
            { wallet with balance := moneyColumn (wallet.balance + delta.amount) } } := by
        intro row among
        rcases Table.mem_update (fun _ => by rfl) among with old | ⟨before, _, rfl⟩
        · exact whole row old
        · exact inCents_moneyColumn _
      rw [ih whole₁ apart.2 later]
      -- No later delta is on the wallet of the first one.
      have absent := WalletDelta.on_eq_zero apart.1
      simp only [Store.creditColumn, Store.mk.injEq, true_and, and_true]
      apply Table.ext
      simp only [Table.update, Table.rows_mapRows, List.map_map]
      apply List.map_congr_left
      intro wallet member
      have key : Keyed.key wallet = wallet.id := rfl
      by_cases here : wallet.id = delta.walletId
      -- What the column has taken, it keeps.
      · have taken := inCents_moneyColumn (wallet.balance + delta.amount)
        simp only [Function.comp_apply, key, here, if_true, WalletDelta.on_cons, absent, add_zero]
        rw [taken]
      · simp [key, here, Ne.symm here]

/-- Deltas in cents are applied to balances in cents as they are. -/
theorem applyBalanceDeltas_inCents {deltas : List WalletDelta} {s : Store} (whole : s.BalancesInCents)
    (cents : ∀ delta ∈ deltas, InCents delta.amount) :
    applyBalanceDeltas deltas moneyColumn s = (applyBalanceDeltas deltas) s := by
  induction deltas generalizing s with
  | nil => rfl
  | cons delta rest ih =>
    -- The rest of the deltas are in cents as well.
    have tail : ∀ other ∈ rest, InCents other.amount :=
      fun other listed => cents other (List.mem_cons_of_mem _ listed)
    -- The column keeps the sum that is stored, because both of its parts are in cents.
    have same : Tx.incrementBalance delta.walletId delta.amount moneyColumn s =
        (Tx.incrementBalance delta.walletId delta.amount) s := by
      unfold Tx.incrementBalance Tx.updateWallet Tx.modify
      -- The wallet must be there in either case, and its balance is the same sum.
      cases found : s.wallets.find? delta.walletId with
      | none => simp only [found]
      | some wallet =>
        have rewrites : ∀ row ∈ s.wallets.rows,
            ({ row with balance := moneyColumn (row.balance + delta.amount) } : Wallet) =
              { row with balance := row.balance + delta.amount } := by
          intro row member
          have sum : moneyColumn (row.balance + delta.amount) = row.balance + delta.amount :=
            (whole row member).add (cents delta List.mem_cons_self)
          rw [sum]
        have rows : (s.wallets.update delta.walletId fun row =>
              { row with balance := moneyColumn (row.balance + delta.amount) }) =
            s.wallets.update delta.walletId fun row =>
                { row with balance := row.balance + delta.amount } := by
          apply Table.ext
          simp only [Table.update, Table.rows_mapRows]
          apply List.map_congr_left
          intro row member
          rw [rewrites row member]
        simp only [found, rewrites wallet (Table.mem_of_find? found), rows]
        rfl
    -- The increment leaves whole cents, so the rest of the deltas can rely on them.
    have next : ∀ value after, (Tx.incrementBalance delta.walletId delta.amount) s = .ok (value, after) →
        applyBalanceDeltas rest moneyColumn after = (applyBalanceDeltas rest) after := by
      intro value after done
      rcases Tx.incrementBalance_ok done with ⟨_, rfl⟩
      refine ih (whole.credit fun other listed => ?_) tail
      rw [List.mem_singleton.mp listed]
      exact cents delta List.mem_cons_self
    rw [applyBalanceDeltas, applyBalanceDeltas]
    -- A delta of nothing is skipped on both sides.
    by_cases nothing : delta.amount = 0
    · simpa [nothing] using ih whole tail
    · simp only [ne_eq, nothing, not_false_eq_true, if_true]
      simp only [Bind.bind, StateT.bind, same]
      cases done : (Tx.incrementBalance delta.walletId delta.amount) s with
      | error error => rfl
      | ok result => exact next result.1 result.2 done

/-- A row that is no instalment's is deleted as if its columns held every value. -/
theorem deleteTransaction_inCents {s : Store} {row : Transaction} (whole : s.BalancesInCents)
    (found : s.transactions.find? row.id = some row) (regular : row.isInstallment = false)
    (cents : InCents row.amount) (complete : row.type = .transfer → row.toWalletId.isSome)
    (known : s.TransactionKeys row) :
    (deleteTransaction { userId := row.userId, id := row.id } moneyColumn).run s =
      (.ok row.id, (s.credit
        (negated (plainDeltas row.type row.amount row.walletId row.toWalletId))).deleteTransaction
            row.id) := by
  -- The reversal is in cents as well, so it is applied as it is.
  apply deleteTransaction_accepts found regular complete
  rw [applyBalanceDeltas_inCents whole (negated_inCents (plainDeltas_inCents cents))]
  exact applyBalanceDeltas_reverses known.1 known.2.1

end MoneyColumn

/-- What posting a regular row of some amount does: the row and each balance take the amount as columns do. -/
structure Store.Posted (s : Store) (row : Transaction) (amount : Decimal) (s' : Store) : Prop where
  taken : row.amount = moneyColumn amount
  regular : row.isInstallment = false
  complete : row.type = .transfer → row.toWalletId.isSome
  apart : row.type = .transfer → row.toWalletId ≠ some row.walletId
  known : s.TransactionKeys row
  after : ∃ rows events, s.transactions.insert? row = some rows ∧
    s' = { s.creditColumn (plainDeltas row.type amount row.walletId row.toWalletId) with
      nextId := s.nextId + 1
      transactions := rows
      events := events }

namespace Store.Posted

variable {s s' : Store} {row : Transaction} {amount : Decimal}

theorem found (posted : s.Posted row amount s') : s'.transactions.find? row.id = some row := by
  rcases posted.after with ⟨rows, events, inserted, rfl⟩
  exact Table.find?_inserted inserted

/--
The balances have moved by the stored amount exactly where every wallet takes the movement as it is rounded.
-/
theorem moved_iff (posted : s.Posted row amount s') (cents : s.InCents) :
    s'.wallets = (s.credit (plainDeltas row.type row.amount row.walletId row.toWalletId)).wallets ↔
      s.Settles (plainDeltas row.type amount row.walletId row.toWalletId) := by
  rcases posted.after with ⟨rows, events, _, rfl⟩
  rw [posted.taken]
  exact Store.creditColumn_eq_credit_iff cents.balances row.type amount row.walletId row.toWalletId

/-- The foreign keys of a posted row hold, as its posting leaves what they point to. -/
theorem knownAfter (posted : s.Posted row amount s') : s'.TransactionKeys row := by
  rcases posted.after with ⟨rows, events, _, rfl⟩
  -- Crediting keeps every wallet, so the keys of the row still point to something.
  have wallets : ∀ id, ((s.creditColumn
      (plainDeltas row.type amount row.walletId row.toWalletId)).wallets.find?
      id).isSome = (s.wallets.find? id).isSome := by
    intro id
    simp [Store.creditColumn]
  rcases posted.known with ⟨source, destination, category, installment⟩
  refine ⟨(wallets _).trans source, ?_, category, installment⟩
  intro id named
  exact (wallets id).trans (destination id named)

/--
Deleting what was posted is accepted, and restores the balances where they had moved by the stored amount.
-/
theorem deleted_iff (posted : s.Posted row amount s') (cents : s.InCents) :
    ∃ s'', (PocketMint.deleteTransaction { userId := row.userId, id := row.id } moneyColumn).run s' =
        (.ok row.id, s'') ∧
      (s''.wallets = s.wallets ↔ s.Settles (plainDeltas row.type amount row.walletId row.toWalletId)) := by
  have stored : PocketMint.InCents row.amount := posted.taken ▸ inCents_moneyColumn amount
  -- After the posting all balances are rounded.
  have whole : s'.BalancesInCents := by
    rcases posted.after with ⟨rows, events, _, rfl⟩
    exact s.balancesInCents_creditColumn _
  refine ⟨_, MoneyColumn.deleteTransaction_inCents whole posted.found posted.regular stored posted.complete
    posted.knownAfter, ?_⟩
  rw [← posted.moved_iff cents]
  -- Taking the stored deltas back undoes adding them, in either order.
  constructor
  -- The wallets are as before, so adding the stored deltas gives those after the posting.
  · intro restored
    have again := Store.credit_wallets_congr restored
      (plainDeltas row.type row.amount row.walletId row.toWalletId)
    rw [← again]
    have undone := Store.credit_negated s'
      (negated (plainDeltas row.type row.amount row.walletId row.toWalletId))
    rw [negated_negated] at undone
    exact (congrArg Store.wallets undone).symm
  -- The posting has moved the stored deltas, so taking them back leads to the start.
  · intro moved
    have back := Store.credit_wallets_congr moved
      (negated (plainDeltas row.type row.amount row.walletId row.toWalletId))
    rw [Store.credit_negated] at back
    exact back

end Store.Posted

/-- The movement that a creation asks for. -/
def CreateTransactionInput.movement (input : CreateTransactionInput) (s : Store) : List WalletDelta :=
  match input.type, positiveAmount input.amount, targetWallet input s with
  | some type, some (.finite amount), some walletId =>
    plainDeltas type amount walletId (destination input type)
  | _, _, _ => []

/-- The movement that a confirmation asks for, by its template and the amount it sends. -/
def ConfirmReminderInput.movement (input : ConfirmReminderInput) (s : Store) : List WalletDelta :=
  match (s.ownEvent input.id input.userId).bind fun event => (s.includeEvent event).template with
  | none => []
  | some template =>
    match confirmedAmount template input.amount with
    | .ok (.finite amount) => plainDeltas template.type amount template.walletId none
    | _ => []

/-- The movement that an update asks for in place of the stored one. -/
def UpdateTransactionInput.movement (input : UpdateTransactionInput) (existing : Transaction) :
    List WalletDelta :=
  let newType := input.type.truthy.getD existing.type
  match (positiveAmount input.amount).getD (.finite existing.amount), newWalletId input existing with
  | .finite amount, some walletId =>
    plainDeltas newType amount walletId (newToWalletId input existing newType)
  | _, _ => []

/-- What a stored row has moved. -/
def Transaction.movement (row : Transaction) : List WalletDelta :=
  plainDeltas row.type row.amount row.walletId row.toWalletId

/-- The write of a regular transaction posts its row. -/
theorem MoneyColumn.writeRegular_posted {now : Instant} {input : CreateTransactionInput}
    {type : FinancialTxType}
    {amount : Decimal} {walletId : Id} {date : Instant} {answer : TransactionWithRelations} {s s' : Store}
    (cents : s.InCents) (apart : type = .transfer → destination input type ≠ some walletId)
    (done : writeRegular now input type amount walletId date moneyColumn s = .ok (answer, s')) :
    answer.transaction = regularRow now input type (moneyColumn amount) walletId date s.nextId ∧
    s.Posted answer.transaction amount s' := by
  rcases Tx.bind_ok.mp done with ⟨row, s₁, created, done⟩
  -- The row is inserted with the rounded amount, and the deltas hold the amount as it was sent.
  rcases Tx.createTransaction_ok.mp created with ⟨rfl, keys, rows, inserted, rfl⟩
  rcases Tx.bind_ok.mp done with ⟨included, s₂, viewed, done⟩
  rcases Tx.view_ok.mp viewed with ⟨rfl, rfl⟩
  rcases Tx.bind_ok.mp done with ⟨effect, s₃, lifted, done⟩
  rcases Tx.lift_ok.mp lifted with ⟨computed, rfl⟩
  rcases computeBalanceEffect_ok.mp computed with ⟨complete, rfl⟩
  rcases Tx.bind_ok.mp done with ⟨_, s₄, applied, done⟩
  have whole : Store.BalancesInCents { s with nextId := s.nextId + 1, transactions := rows } := cents.balances
  have credited := applyBalanceDeltas_ok whole (plainDeltas_nodup apart) applied
  rcases Tx.pure_ok.mp done with ⟨rfl, rfl⟩
  refine ⟨rfl, ⟨rfl, rfl, complete, apart, keys, rows, s.events, inserted, ?_⟩⟩
  -- The store of the write is the one with the rounded balances.
  rw [credited]
  rfl

/-- A creation that answers with a regular row has posted it, for the movement it was asked for. -/
theorem MoneyColumn.createTransaction_posted {zone : Zone} {now : Instant} {input : CreateTransactionInput}
    {s s' : Store} {answer : TransactionWithRelations} (cents : s.InCents)
    (ran : (createTransaction zone now input moneyColumn).run s = (.ok answer, s'))
    (regular : answer.transaction.isInstallment = false) :
    ∃ amount, s.Posted answer.transaction amount s' ∧ answer.transaction.userId = input.userId ∧
      input.movement s = plainDeltas answer.transaction.type amount answer.transaction.walletId
        answer.transaction.toWalletId := by
  unfold createTransaction at ran
  -- The checks only read, so the store of the write is the one the request was given.
  rcases (reads_resolveWalletId input).run_bind.mp ran with ⟨walletId, resolved, ran⟩
  rcases run_orThrow_bind.mp ran with ⟨type, typed, ran⟩
  rcases run_orThrow_bind.mp ran with ⟨number, given, ran⟩
  rcases run_throwIf_bind.mp ran with ⟨_, ran⟩
  rcases run_throwIf_bind.mp ran with ⟨distinct, ran⟩
  rcases run_ofExcept_bind.mp ran with ⟨date, _, ran⟩
  rw [run_query_bind] at ran
  rcases run_orThrow_bind.mp ran with ⟨wallet, held, ran⟩
  rcases run_throwIf_bind.mp ran with ⟨_, ran⟩
  rcases run_throwIf_bind.mp ran with ⟨_, ran⟩
  rcases (reads_verifyDestination _ _ _).run_bind.mp ran with ⟨_, _, ran⟩
  rcases run_throwIf_bind.mp ran with ⟨_, ran⟩
  rcases run_throwIf_bind.mp ran with ⟨_, ran⟩
  rcases (reads_verifyCategory _ _ _).run_bind.mp ran with ⟨_, _, ran⟩
  rcases run_throwIf_bind.mp ran with ⟨_, ran⟩
  rcases run_throwIf_bind.mp ran with ⟨_, ran⟩
  rcases run_throwIf_bind.mp ran with ⟨_, ran⟩
  split at ran
  · -- A credit purchase answers with an instalment's row.
    unfold createCredit at ran
    rcases run_orThrow_bind.mp ran with ⟨months, _, ran⟩
    rcases run_throwIf_bind.mp ran with ⟨_, ran⟩
    rcases run_throwIf_bind.mp ran with ⟨_, ran⟩
    rcases run_throwIf_bind.mp ran with ⟨_, ran⟩
    rcases run_ofExcept_bind.mp ran with ⟨_, _, ran⟩
    rcases run_ofExcept_bind.mp ran with ⟨_, _, ran⟩
    rcases run_ofExcept_bind.mp ran with ⟨_, _, ran⟩
    rcases run_throwIf_bind.mp ran with ⟨_, ran⟩
    rcases run_orThrow_bind.mp ran with ⟨mode, _, ran⟩
    rcases run_ofExcept_bind.mp ran with ⟨rate, _, ran⟩
    rcases run_orThrow_bind.mp ran with ⟨plan, _, ran⟩
    rcases writeCredit_ok (run_commit_eq_ok.mp ran) with ⟨_, row, _, _, _, _, shape, _, _, _, _, answered, _⟩
    rw [answered, shape] at regular
    cases regular
  -- A regular row is written with its rounded amount.
  · rcases run_ofExcept_bind.mp ran with ⟨amount, column, ran⟩
    obtain rfl := columnValue_ok.mp column
    -- A transfer to its own source is refused before.
    have apart : type = .transfer → destination input type ≠ some walletId := by
      intro transfer same
      rw [destination, if_pos transfer] at same
      exact distinct ⟨transfer, same⟩
    rcases writeRegular_posted cents apart (run_commit_eq_ok.mp ran) with ⟨shape, posted⟩
    refine ⟨amount, posted, ?_, ?_⟩
    · rw [shape]
      rfl
    -- What was asked for is read off the input and the wallet that was resolved.
    · have target := resolveWalletId_target resolved
      rw [shape]
      simp [CreateTransactionInput.movement, typed, given, target, regularRow]

/-- A confirmation that answers has posted its row, for the movement its template stands for. -/
theorem MoneyColumn.confirmReminder_posted {now : Instant} {input : ConfirmReminderInput} {s s' : Store}
    {answer : ConfirmReminderResult} (cents : s.InCents)
    (ran : (confirmReminder now input moneyColumn).run s = (.ok answer, s')) :
    ∃ amount, s.Posted answer.transaction.transaction amount s' ∧
      answer.transaction.transaction.userId = input.userId ∧
      input.movement s = plainDeltas answer.transaction.transaction.type amount
        answer.transaction.transaction.walletId answer.transaction.transaction.toWalletId := by
  unfold confirmReminder at ran
  -- The reminder is read first, and its template says what is posted.
  rw [run_query_bind] at ran
  rcases run_orThrow_bind.mp ran with ⟨existing, found, ran⟩
  rcases run_throwIf_bind.mp ran with ⟨_, ran⟩
  rcases run_throwIf_bind.mp ran with ⟨_, ran⟩
  rcases run_orThrow_bind.mp ran with ⟨template, recurring, ran⟩
  rcases run_ofExcept_bind.mp ran with ⟨number, confirmed, ran⟩
  rw [run_query_bind] at ran
  rcases run_orThrow_bind.mp ran with ⟨_, _, ran⟩
  rcases run_orThrow_bind.mp ran with ⟨categoryId, _, ran⟩
  rw [run_query_bind] at ran
  rcases run_orThrow_bind.mp ran with ⟨_, _, ran⟩
  rcases run_ofExcept_bind.mp ran with ⟨amount, column, ran⟩
  obtain rfl := columnValue_ok.mp column
  -- The row is inserted with the rounded amount.
  rcases Tx.bind_ok.mp (run_commit_eq_ok.mp ran) with ⟨row, s₁, created, done⟩
  rcases Tx.createTransaction_ok.mp created with ⟨rfl, keys, rows, inserted, rfl⟩
  rcases Tx.bind_ok.mp done with ⟨_, s₂, viewed, done⟩
  rcases Tx.view_ok.mp viewed with ⟨rfl, rfl⟩
  rcases Tx.bind_ok.mp done with ⟨effect, s₃, lifted, done⟩
  rcases Tx.lift_ok.mp lifted with ⟨computed, rfl⟩
  rcases computeBalanceEffect_ok.mp computed with ⟨complete, rfl⟩
  -- A template for a transfer has no effect to compute, so this one is not for one.
  have notTransfer : template.type ≠ .transfer := by
    intro transfer
    have named := complete transfer
    cases named
  rcases Tx.bind_ok.mp done with ⟨_, s₄, applied, done⟩
  -- The balances take the amount as it was confirmed.
  have whole : Store.BalancesInCents { s with nextId := s.nextId + 1, transactions := rows } := cents.balances
  obtain rfl := applyBalanceDeltas_ok whole
    (plainDeltas_nodup fun transfer => absurd transfer notTransfer) applied
  rcases Tx.bind_ok.mp done with ⟨count, s₅, completed, done⟩
  -- A reminder that was completed before takes the posting back.
  rcases completeEvent_ok completed with ⟨rfl, _⟩ | ⟨rfl, _, rfl⟩
  · simp at done
  · simp only [Nat.one_ne_zero, if_false] at done
    rcases Tx.bind_ok.mp done with ⟨again, s₆, reread, done⟩
    rcases Tx.view_ok.mp reread with ⟨_, rfl⟩
    cases again with
    | none => simp at done
    | some notification =>
      rcases Tx.pure_ok.mp done with ⟨rfl, rfl⟩
      refine ⟨amount, ⟨rfl, rfl, fun transfer => absurd transfer notTransfer, fun transfer => absurd transfer
        notTransfer, keys, rows, _, inserted, rfl⟩, rfl, ?_⟩
      -- What was asked for is the movement of the template, with the confirmed amount.
      rcases Option.map_eq_some_iff.mp found with ⟨event, own, rfl⟩
      simp [ConfirmReminderInput.movement, own, recurring, confirmed, confirmedRow, Store.includeTransaction]

theorem reads_verifyTarget (input : UpdateTransactionInput) (newType : FinancialTxType)
    (newWalletId : Option Id) :
    (verifyTarget input newType newWalletId).Reads := by
  unfold verifyTarget
  split
  · exact (reads_query _).bind fun _ => (reads_orThrow _ _).bind fun _ => reads_throwIf _ _
  · exact reads_ret _

theorem reads_verifyTransfer (input : UpdateTransactionInput) (newType : FinancialTxType)
    (newAmount : Numeric)
    (newWalletId newToWalletId : Option Id) :
    (verifyTransfer input newType newAmount newWalletId newToWalletId).Reads := by
  unfold verifyTransfer
  split
  · refine (reads_throwIf _ _).bind fun _ => (reads_throwIf _ _).bind fun _ =>
      (reads_query _).bind fun _ => ?_
    refine (reads_orThrow _ _).bind fun _ => (reads_throwIf _ _).bind fun _ =>
      (reads_throwIf _ _).bind fun _ => ?_
    exact (reads_query _).bind fun _ => (reads_orThrow _ _).bind fun _ => reads_ret _
  · exact reads_ret _

/-- A verified transfer does not stay on its source. -/
theorem verifyTransfer_apart {input : UpdateTransactionInput} {newType : FinancialTxType}
    {newAmount : Numeric}
    {newWalletId newToWalletId : Option Id} {s s' : Store} {answer : Unit}
    (ran : (verifyTransfer input newType newAmount newWalletId newToWalletId).run s = (.ok answer, s'))
    (transfer : newType = .transfer) : newToWalletId ≠ newWalletId := by
  rw [verifyTransfer, if_pos transfer] at ran
  rcases run_throwIf_bind.mp ran with ⟨_, ran⟩
  exact (run_throwIf_bind.mp ran).1

/-- The write of an update moves the balances from the stored effect to that of the new row. -/
theorem MoneyColumn.writeUpdate_moved {input : UpdateTransactionInput} {existing : Transaction}
    {newType : FinancialTxType} {number : Numeric} {date : Option Instant} {answer : TransactionWithRelations}
    {s s' : Store} (cents : s.InCents) (found : s.transactions.find? input.id = some existing)
    (typed : input.type.truthy.getD existing.type = newType)
    (priced : (positiveAmount input.amount).getD (.finite existing.amount) = number)
    (apart : newType = .transfer → newToWalletId input existing newType ≠ newWalletId input existing)
    (done : writeUpdate input existing newType number date moneyColumn s = .ok (answer, s')) :
    s'.transactions.find? input.id = some answer.transaction ∧
    (s'.wallets = ((s.credit (negated existing.movement)).credit answer.transaction.movement).wallets ↔
      (s.credit (negated existing.movement)).Settles (input.movement existing)) := by
  -- The stored amount is in cents, as every amount of a column.
  have stored := cents.amounts existing (Table.mem_of_find? found)
  rcases Tx.bind_ok.mp done with ⟨reversal, s₁, lifted, done⟩
  rcases Tx.lift_ok.mp lifted with ⟨reversed, rfl⟩
  rcases reverseBalanceEffect_ok.mp reversed with ⟨_, rfl⟩
  rcases Tx.bind_ok.mp done with ⟨_, s₂, applied, done⟩
  -- The old effect is taken back exactly, since the stored amount is in cents.
  have back : ∀ delta ∈ negated existing.movement, InCents delta.amount :=
    negated_inCents (plainDeltas_inCents stored)
  rw [← Transaction.movement, applyBalanceDeltas_inCents cents.balances back] at applied
  rcases PocketMint.applyBalanceDeltas_ok.mp applied with ⟨_, rfl⟩
  rcases Tx.bind_ok.mp done with ⟨amount, s₃, column, done⟩
  cases taken : columnValue number with
  | error error => simp [taken, Except.map] at column
  | ok value =>
    rcases (by simpa [taken, Except.map] using column : value = amount ∧ _ = s₃) with ⟨rfl, rfl⟩
    cases source : newWalletId input existing with
    | none => simp [source] at done
    | some walletId =>
      simp only [source] at done
      rcases Tx.bind_ok.mp done with ⟨updated, s₄, rewritten, done⟩
      rcases Tx.updateTransaction_ok.mp rewritten with ⟨row, present, _, rfl, rfl⟩
      rcases Tx.bind_ok.mp done with ⟨_, s₅, viewed, done⟩
      rcases Tx.view_ok.mp viewed with ⟨rfl, rfl⟩
      rcases Tx.bind_ok.mp done with ⟨effect, s₆, computed, done⟩
      rcases Tx.lift_ok.mp computed with ⟨computing, rfl⟩
      rcases computeBalanceEffect_ok.mp computing with ⟨_, rfl⟩
      rcases Tx.bind_ok.mp done with ⟨_, s₇, credited, done⟩
      -- The row that is rewritten is the one that was read.
      have kept : s.transactions.find? input.id = some row := present
      obtain rfl : existing = row := Option.some.inj (found.symm.trans kept)
      -- Balances are still in cents when the new effect is posted.
      have whole : (s.credit (negated existing.movement)).BalancesInCents := cents.balances.credit back
      rw [source] at apart
      obtain rfl := applyBalanceDeltas_ok (by exact whole) (plainDeltas_nodup apart) credited
      rcases Tx.pure_ok.mp done with ⟨rfl, rfl⟩
      obtain rfl := columnValue_ok.mp taken
      constructor
      -- The rewritten row is found under its identifier.
      · have here := Table.find?_update s.transactions input.id
          (updatedRow input newType (moneyColumn value) walletId (newToWalletId input existing newType) date)
          (fun _ => by rfl) input.id
        rw [if_pos rfl, found] at here
        exact here
      · -- The new row is of the movement that was asked for, with the amount that its column takes.
        have rounded : (if input.amount.isSome then moneyColumn value else existing.amount) =
            moneyColumn value := by
          cases sent : input.amount with
          | some number => rfl
          -- An amount that is not sent is the stored one, which the column keeps.
          | none =>
            rw [sent] at priced
            have same : existing.amount = value := Numeric.finite.inj priced
            rw [← same]
            exact stored.symm
        -- A wallet that is not sent is the stored one.
        have named : (if input.walletId = .omitted then existing.walletId else walletId) = walletId := by
          cases sent : input.walletId with
          | omitted =>
            simp only [newWalletId, sent, Option.some.injEq] at source
            simpa using source
          | invalid => simp
          | given id => simp
        have row : Transaction.movement (updatedRow input newType (moneyColumn value) walletId
              (newToWalletId input existing newType) date existing) =
            plainDeltas newType (moneyColumn value) walletId (newToWalletId input existing newType) := by
          simp only [Transaction.movement, updatedRow, typed, rounded, named]
        have asked : input.movement existing =
            plainDeltas newType value walletId (newToWalletId input existing newType) := by
          simp only [UpdateTransactionInput.movement, typed, priced, source]
        -- The deltas are judged like those of any posting.
        have judged := Store.creditColumn_eq_credit_iff whole newType value walletId
          (newToWalletId input existing newType)
        rw [asked, ← judged, ← row]
        rfl

/-- An update that answers moves the balances from the stored effect to that of the new row. -/
theorem MoneyColumn.updateTransaction_moved {zone : Zone} {now : Instant} {input : UpdateTransactionInput}
    {s s' : Store} {answer : TransactionWithRelations} (cents : s.InCents)
    (ran : (updateTransaction zone now input moneyColumn).run s = (.ok answer, s')) :
    ∃ existing, s.ownTransaction input.id input.userId = some existing ∧
      s'.transactions.find? input.id = some answer.transaction ∧
      (s'.wallets = ((s.credit (negated existing.movement)).credit answer.transaction.movement).wallets ↔
        (s.credit (negated existing.movement)).Settles (input.movement existing)) := by
  unfold updateTransaction at ran
  -- The checks only read, so the write starts from the store the request was given.
  rcases run_throwIf_bind.mp ran with ⟨_, ran⟩
  rcases run_throwIf_bind.mp ran with ⟨_, ran⟩
  rcases run_ofExcept_bind.mp ran with ⟨date, _, ran⟩
  rw [run_query_bind] at ran
  rcases run_orThrow_bind.mp ran with ⟨existing, own, ran⟩
  rcases run_throwIf_bind.mp ran with ⟨_, ran⟩
  rcases run_throwIf_bind.mp ran with ⟨_, ran⟩
  rcases run_throwIf_bind.mp ran with ⟨_, ran⟩
  rcases (reads_verifyTarget _ _ _).run_bind.mp ran with ⟨_, _, ran⟩
  rcases (reads_verifyTransfer _ _ _ _ _).run_bind.mp ran with ⟨_, verified, ran⟩
  rcases run_throwIf_bind.mp ran with ⟨_, ran⟩
  rcases run_throwIf_bind.mp ran with ⟨_, ran⟩
  -- The old row and the wallets have been checked, and the write follows.
  rcases (reads_verifyCategory _ _ _).run_bind.mp ran with ⟨_, _, ran⟩
  rcases Store.ownTransaction_eq_some.mp own with ⟨found, _⟩
  exact ⟨existing, own, writeUpdate_moved cents found rfl rfl (verifyTransfer_apart verified)
    (run_commit_eq_ok.mp ran)⟩

/--
A posted row has moved the balances and can be taken back exactly where every wallet takes the movement.
-/
structure Store.PostsExactly (s : Store) (row : Transaction) (s' : Store) (asked : List WalletDelta) :
    Prop where
  found : s'.transactions.find? row.id = some row
  moved : s'.wallets = (s.credit row.movement).wallets ↔ s.Settles asked
  deleted : ∃ s'', (PocketMint.deleteTransaction { userId := row.userId, id := row.id } moneyColumn).run s' =
    (.ok row.id, s'') ∧ (s''.wallets = s.wallets ↔ s.Settles asked)

theorem Store.Posted.exactly {s s' : Store} {row : Transaction} {amount : Decimal} {asked : List WalletDelta}
    (posted : s.Posted row amount s') (cents : s.InCents)
    (same : asked = plainDeltas row.type amount row.walletId row.toWalletId) :
    s.PostsExactly row s' asked := by
  subst same
  exact ⟨posted.found, posted.moved_iff cents, posted.deleted_iff cents⟩

/--
Over money columns that round to cents, a posting moves the balances by the amount that is stored, and
deleting it restores them, exactly where no wallet is left on the other side of zero by a half cent.
-/
theorem postings_exact_iff {s : Store} (cents : s.InCents) :
    (∀ zone now input answer s',
      (createTransaction zone now input moneyColumn).run s = (.ok answer, s') →
      answer.transaction.isInstallment = false →
      answer.transaction.userId = input.userId ∧ s.PostsExactly answer.transaction s' (input.movement s)) ∧
    (∀ now input answer s',
      (confirmReminder now input moneyColumn).run s = (.ok answer, s') →
      answer.transaction.transaction.userId = input.userId ∧
        s.PostsExactly answer.transaction.transaction s' (input.movement s)) ∧
    (∀ zone now input answer s',
      (updateTransaction zone now input moneyColumn).run s = (.ok answer, s') →
      ∃ existing, s.ownTransaction input.id input.userId = some existing ∧
        s'.transactions.find? input.id = some answer.transaction ∧
        (s'.wallets = ((s.credit (negated existing.movement)).credit answer.transaction.movement).wallets ↔
          (s.credit (negated existing.movement)).Settles (input.movement existing))) := by
  -- Each of the three requests posts one row, and the rule about one posting judges it.
  refine ⟨?_, ?_, ?_⟩
  · intro zone now input answer s' ran regular
    rcases MoneyColumn.createTransaction_posted cents ran regular with ⟨amount, posted, user, asked⟩
    exact ⟨user, posted.exactly cents asked⟩
  · intro now input answer s' ran
    rcases MoneyColumn.confirmReminder_posted cents ran with ⟨amount, posted, user, asked⟩
    exact ⟨user, posted.exactly cents asked⟩
  · intro zone now input answer s' ran
    exact MoneyColumn.updateTransaction_moved cents ran

/-- An expense of some amount from the bank account. -/
def coffee (amount : Decimal) : CreateTransactionInput :=
  { userId := 1, type := some .expense, amount := some (.exact amount), walletId := .given 12,
    categoryId := .given 0 }

/-- A coffee of half a cent is not paid as it is stored, and one of two and a half units is. -/
theorem postings_exact_iff_coffee :
    let s := serveAll defaultTimezone.zone .empty (onboarding 1 1000 5000)
    (∃ answer s', (createTransaction defaultTimezone.zone 1 (coffee (1 / 200)) moneyColumn).run s =
      (.ok answer, s') ∧ s'.wallets ≠ (s.credit answer.transaction.movement).wallets) ∧
    (∃ answer s', (createTransaction defaultTimezone.zone 1 (coffee (5 / 2)) moneyColumn).run s =
      (.ok answer, s') ∧ s'.wallets = (s.credit answer.transaction.movement).wallets) := by
  intro s
  -- The onboarding is in cents, which is evaluated on its wallets and rows.
  have balances : ∀ wallet ∈ s.wallets.rows, InCents wallet.balance := by decide +kernel
  have amounts : ∀ row ∈ s.transactions.rows, InCents row.amount := by decide
  -- The theorem turns both cases into a question about the amount alone, which is evaluated.
  have exactly := (postings_exact_iff ⟨balances, amounts⟩).1 defaultTimezone.zone 1
  have half : ¬s.Settles ((coffee (1 / 200)).movement s) := by
    unfold Store.Settles
    decide +kernel
  have whole : s.Settles ((coffee (5 / 2)).movement s) := by
    unfold Store.Settles
    decide +kernel
  -- Both amounts are accepted, as a regular row.
  have accepted : ∀ amount ∈ [(1 / 200 : Decimal), 5 / 2], ∃ answer,
      ((createTransaction defaultTimezone.zone 1 (coffee amount) moneyColumn).run s).1 = .ok answer ∧
          answer.transaction.isInstallment = false := by
    intro amount among
    have answers : ∀ amount ∈ [(1 / 200 : Decimal), 5 / 2],
        ((createTransaction defaultTimezone.zone 1 (coffee amount) moneyColumn).run s).1.toOption.map
            (fun answer =>
          answer.transaction.isInstallment) = some false := by
      decide +kernel
    rcases Option.map_eq_some_iff.mp (answers amount among) with ⟨answer, given, regular⟩
    cases ran : ((createTransaction defaultTimezone.zone 1 (coffee amount) moneyColumn).run s).1 with
    | error error =>
      rw [ran] at given
      cases given
    | ok other =>
      rw [ran] at given
      cases given
      exact ⟨answer, rfl, regular⟩
  constructor
  -- Half a cent is rounded in the row and again in the balance.
  · rcases accepted (1 / 200) (by simp) with ⟨answer, ran, regular⟩
    refine ⟨answer, _, Prod.ext ran rfl, fun moved => half ?_⟩
    exact (exactly _ _ _ (Prod.ext ran rfl) regular).2.moved.mp moved
  -- Whole cents are taken as they are.
  · rcases accepted (5 / 2) (by simp) with ⟨answer, ran, regular⟩
    exact ⟨answer, _, Prod.ext ran rfl, (exactly _ _ _ (Prod.ext ran rfl) regular).2.moved.mpr whole⟩

/--
Half a cent is stored as a cent, takes nothing from the bank account, and gives it a cent when it is deleted.
-/
theorem createTransaction_half_cent :
    let s := serveAll defaultTimezone.zone .empty (onboarding 1 1000 5000)
    let bank := fun (s : Store) => (s.wallets.find? 12).map Wallet.balance
    let posted := (createTransaction defaultTimezone.zone 1 (coffee (1 / 200)) moneyColumn).run s
    let deleted := (deleteTransaction { userId := 1, id := 14 } moneyColumn).run posted.2
    (posted.2.transactions.find? 14).map (fun row => (row.type, row.amount)) = some (.expense, 1 / 100) ∧
    bank s = some 1000 ∧ bank posted.2 = some 1000 ∧
    deleted.1.toOption = some 14 ∧ bank deleted.2 = some (100001 / 100) := by
  decide +kernel

end PocketMint
