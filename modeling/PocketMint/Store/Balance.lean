import PocketMint.Store.ClientLaws
import Mathlib.Tactic.ByContra

/-! Stores whose balances are what their transactions add up to. -/

namespace PocketMint

namespace Store

/-- What a stored transaction does to a wallet, as reconciliation sees it. -/
def effectOn (s : Store) (walletId : Id) (row : Transaction) : Decimal :=
  WalletDelta.on (Reconciliation.rowDeltas s.grandTotal row.ledger) walletId

/-- Every wallet's balance is its initial balance and the effects of all stored transactions. -/
def Balanced (s : Store) : Prop :=
  ∀ wallet ∈ s.wallets.rows,
    wallet.balance = wallet.initialBalance + s.transactions.total (s.effectOn wallet.id)

/-- Every instalment that a transaction names is there. -/
def Backed (s : Store) : Prop :=
  ∀ row ∈ s.transactions.rows, ∀ id ∈ row.installmentId, (s.installments.find? id).isSome

/-- The report of reconciling all of a store's wallets with all of its transactions. -/
def reconciliation (s : Store) : List WalletReconciliation :=
  reconcileWalletBalances (s.wallets.rows.map Wallet.snapshot)
    (s.transactions.rows.map Transaction.ledger) s.grandTotal

/-- Reconciliation reports of each wallet its balance and what the transactions make it. -/
theorem reconciliation_eq (s : Store) :
    s.reconciliation = s.wallets.rows.map fun wallet =>
      let expected := wallet.initialBalance + s.transactions.total (s.effectOn wallet.id)
      { walletId := wallet.id
        stored := wallet.balance
        expected
        drift := wallet.balance - expected } := by
  -- No two wallets have one identifier, so each is reconciled on its own.
  have unique : ((s.wallets.rows.map Wallet.snapshot).map (·.id)).Nodup := by
    rw [List.map_map]
    exact s.wallets.unique
  -- What the reconciliation assigns to a wallet is the sum of the effects on it.
  have assigned : ∀ walletId, Reconciliation.assigned s.grandTotal
      (s.transactions.rows.map Transaction.ledger) walletId =
        s.transactions.total (s.effectOn walletId) := by
    intro walletId
    simp only [Reconciliation.assigned, Table.total, List.map_map]
    rfl
  -- The expected balance is the opening one and what is assigned.
  rw [reconciliation, reconcileWalletBalances_eq unique, List.map_map]
  simp only [assigned]
  rfl

/-- A store is balanced when reconciliation reports no drift. -/
theorem balanced_iff_drift {s : Store} :
    s.Balanced ↔ ∀ report ∈ s.reconciliation, report.drift = 0 := by
  rw [reconciliation_eq]
  simp only [List.forall_mem_map, sub_eq_zero]
  exact Iff.rfl

/-- The effect of a row depends on the store only through the grand total of its instalment. -/
theorem effectOn_congr {s s' : Store} {row : Transaction}
    (grandTotals : ∀ id ∈ row.installmentId, s'.grandTotal id = s.grandTotal id) (walletId : Id) :
    s'.effectOn walletId row = s.effectOn walletId row := by
  -- Of other tables an effect depends on the total of the instalment alone.
  have same : row.installmentId.bind s'.grandTotal = row.installmentId.bind s.grandTotal := by
    -- A row without an instalment reads no total, and any other reads that of its plan.
    cases named : row.installmentId with
    | none => rfl
    | some id => exact grandTotals id named
  simp only [effectOn]
  -- A regular row has its plain deltas, which read no other table.
  cases kind : row.isInstallment with
  | true =>
    rw [rowDeltas_installment kind, rowDeltas_installment kind]
    simp only [Transaction.ledger, same]
  | false => rw [rowDeltas_regular kind, rowDeltas_regular kind]

/-- A row that is no instalment's has the effect of its plain deltas. -/
theorem effectOn_regular {s : Store} {row : Transaction} (regular : row.isInstallment = false)
    (walletId : Id) : s.effectOn walletId row =
      WalletDelta.on (plainDeltas row.type row.amount row.walletId row.toWalletId) walletId := by
  rw [effectOn, rowDeltas_regular regular]
  rfl

/-- An instalment's row debits its wallet by the grand total. -/
theorem effectOn_installment {s : Store} {row : Transaction} (backed : row.isInstallment = true)
    (walletId : Id) : s.effectOn walletId row =
      WalletDelta.on [⟨row.walletId, -((row.installmentId.bind s.grandTotal).getD row.amount)⟩]
        walletId := by
  rw [effectOn, rowDeltas_installment backed]
  rfl

/-- An instalment that no row names can go without changing any effect. -/
theorem total_deleteInstallment {s : Store} {id : Id}
    (apart : ∀ row ∈ s.transactions.rows, row.installmentId ≠ some id) (walletId : Id) :
    (s.deleteInstallment id).transactions.total ((s.deleteInstallment id).effectOn walletId) =
      s.transactions.total (s.effectOn walletId) := by
  -- The rows of the store after it are the old ones with the link dropped.
  simp only [Table.total, deleteInstallment, Table.rows_mapRows, List.map_map]
  refine congrArg List.sum (List.map_congr_left fun row member => ?_)
  -- No row names the instalment, so every row keeps its link and its effect.
  have kept : row.installmentId.filter (· ≠ id) = row.installmentId := by
    cases named : row.installmentId with
    | none => rfl
    | some other =>
      have different : other ≠ id := fun same => apart row member (same ▸ named)
      simp [Option.filter, different]
  simp only [Function.comp_apply, kept]
  refine effectOn_congr (fun other named => ?_) walletId
  have different : other ≠ id := fun same => apart row member (same ▸ named)
  simp [grandTotal, different]

/-- Moving the deltas of what changed among the transactions keeps a store balanced. -/
theorem Balanced.credit {s s' : Store} (balanced : s.Balanced) (wallets : s'.wallets = s.wallets)
    {deltas : List WalletDelta} (moved : ∀ wallet ∈ s.wallets.rows,
      s'.transactions.total (s'.effectOn wallet.id) =
        s.transactions.total (s.effectOn wallet.id) + WalletDelta.on deltas wallet.id) :
    (s'.credit deltas).Balanced := by
  intro row member
  -- The row is one of the old wallets with its deltas added.
  obtain ⟨wallet, among, rfl⟩ := List.mem_map.mp member
  rw [wallets] at among
  have total : (s'.credit deltas).transactions.total ((s'.credit deltas).effectOn wallet.id) =
    s'.transactions.total (s'.effectOn wallet.id) := rfl
  -- The deltas that are added are what the effects have grown by.
  simp only [total, moved wallet among, balanced wallet among, add_assoc]

/-- Inserting a row with the deltas of its effect keeps a store balanced. -/
theorem Balanced.insert {s s' : Store} (balanced : s.Balanced) (wallets : s'.wallets = s.wallets)
    {row : Transaction} (inserted : s.transactions.insert? row = some s'.transactions)
    (grandTotals : ∀ other ∈ s.transactions.rows, ∀ id ∈ other.installmentId,
      s'.grandTotal id = s.grandTotal id) {deltas : List WalletDelta}
    (effect : ∀ walletId, s'.effectOn walletId row = WalletDelta.on deltas walletId) :
    (s'.credit deltas).Balanced := by
  refine balanced.credit wallets fun wallet _ => ?_
  -- The inserted row adds its own effect, which is that of the deltas.
  rw [Table.total_insert _ inserted, effect]
  congr 1
  -- The plans of the old rows keep their totals, so the old effects stay.
  exact Table.total_congr fun other member => effectOn_congr (grandTotals other member) wallet.id

/-- Removing a row with the deltas that undo its effect keeps a store balanced. -/
theorem Balanced.erase {s s' : Store} (balanced : s.Balanced) (wallets : s'.wallets = s.wallets)
    {id : Id} {row : Transaction} (found : s.transactions.find? id = some row)
    (rest : ∀ walletId, s'.transactions.total (s'.effectOn walletId) =
      (s.transactions.erase id).total (s.effectOn walletId)) {deltas : List WalletDelta}
    (effect : ∀ walletId, WalletDelta.on deltas walletId = -s.effectOn walletId row) :
    (s'.credit deltas).Balanced := by
  refine balanced.credit wallets fun wallet _ => ?_
  rw [rest, Table.total_erase _ found, effect, sub_eq_add_neg]

/-- A store whose wallets and effects are those of a balanced store is balanced. -/
theorem Balanced.congr {s s' : Store} (balanced : s.Balanced)
    (wallets : ∀ wallet' ∈ s'.wallets.rows, ∃ wallet ∈ s.wallets.rows, wallet'.id = wallet.id ∧
      wallet'.balance = wallet.balance ∧ wallet'.initialBalance = wallet.initialBalance)
    (effects : ∀ wallet' ∈ s'.wallets.rows, s'.transactions.total (s'.effectOn wallet'.id) =
      s.transactions.total (s.effectOn wallet'.id)) : s'.Balanced := by
  intro wallet' member
  -- Each wallet is an old one as far as the balance equation reads it.
  obtain ⟨wallet, among, same, balance, initial⟩ := wallets wallet' member
  rw [effects wallet' member, balance, initial, same]
  exact balanced wallet among

/-- A row off a deleted wallet keeps its effect on every other wallet. -/
theorem effectOn_deleteWallet {s : Store} {id walletId : Id} {row : Transaction}
    (alone : ∀ other ∈ row.installmentId, s.installmentOn id other = false) (apart : id ≠ walletId) :
    (s.deleteWallet id).effectOn walletId { row with
        toWalletId := row.toWalletId.filter (· ≠ id)
        installmentId := row.installmentId.filter fun other => !s.installmentOn id other } =
      s.effectOn walletId row := by
  -- The wallet holds no plan of the row, so the link of the row stays.
  have kept : row.installmentId.filter (fun other => !s.installmentOn id other) =
      row.installmentId := by
    cases named : row.installmentId with
    | none => rfl
    | some other => simp [Option.filter, alone other named]
  rw [kept]
  -- An instalment has the total of its plan, which stays, and any other row its own deltas.
  cases kind : row.isInstallment with
  | true =>
    have grand : row.installmentId.bind (s.deleteWallet id).grandTotal =
        row.installmentId.bind s.grandTotal := by
      cases named : row.installmentId with
      | none => rfl
      | some other =>
        -- The plan is on another wallet, so it is still there after the deletion.
        have stays := alone other named
        cases found : s.installments.find? other with
        | none => simp [grandTotal, deleteWallet, found]
        | some installment =>
          have off : installment.walletId ≠ id := by simpa [installmentOn, found] using stays
          simp [grandTotal, deleteWallet, found, Option.filter, off]
    rw [effectOn_installment kind, ← grand]
    exact effectOn_installment rfl walletId
  -- A destination that is dropped was the deleted wallet, on which the effect is not counted.
  | false =>
    rw [effectOn_regular kind, ← on_plainDeltas_forget apart]
    exact effectOn_regular rfl walletId

/-- Without transfers out of it, a wallet takes only effects on itself with it. -/
theorem Balanced.deleteWallet {s : Store} (balanced : s.Balanced) {id : Id}
    (noTransfer : ∀ row ∈ s.transactions.rows, row.walletId = id → row.type ≠ .transfer)
    (alone : ∀ row ∈ s.transactions.rows, ∀ other ∈ row.installmentId,
      s.installmentOn id other → row.walletId = id) : (s.deleteWallet id).Balanced := by
  refine balanced.congr (fun wallet member => ?_) fun wallet member => ?_
  · exact ⟨wallet, (List.mem_filter.mp member).1, rfl, rfl, rfl⟩
  -- The wallet that remains is another one.
  · have apart : id ≠ wallet.id := fun same =>
      of_decide_eq_true (List.mem_filter.mp member).2 same.symm
    calc (s.deleteWallet id).transactions.total ((s.deleteWallet id).effectOn wallet.id)
        = (s.transactions.filter fun row => row.walletId ≠ id).total (s.effectOn wallet.id) := by
          -- The rows that remain keep their effects on it.
          simp only [Table.total, Store.deleteWallet, Table.rows_mapRows, List.map_map]
          refine congrArg List.sum (List.map_congr_left fun row stays => ?_)
          obtain ⟨among, off⟩ := List.mem_filter.mp stays
          refine effectOn_deleteWallet (fun other named => ?_) apart
          by_contra on
          exact of_decide_eq_true off (alone row among other named (by simpa using on))
      _ = s.transactions.total (s.effectOn wallet.id) := by
          -- What goes with the wallet moved no other wallet's money.
          refine Table.total_filter _ fun row among gone => ?_
          -- The row was booked on the deleted wallet, and it is no transfer.
          have on : row.walletId = id := by simpa using gone
          cases kind : row.isInstallment with
          | true => simp [effectOn_installment kind, on, apart]
          | false =>
            rw [effectOn_regular kind, on]
            have notTransfer := noTransfer row among on
            cases type : row.type <;> simp_all [plainDeltas]

/-- A wallet that no transaction names starts balanced. -/
theorem Balanced.insertWallet {s : Store} (balanced : s.Balanced) {row : Wallet}
    {rows : Table Wallet} (inserted : s.wallets.insert? row = some rows)
    (seeded : row.initialBalance = row.balance)
    (unnamed : ∀ tx ∈ s.transactions.rows, tx.walletId ≠ row.id ∧ tx.toWalletId ≠ some row.id)
    (next : Id) : { s with nextId := next, wallets := rows }.Balanced := by
  intro wallet member
  obtain old | rfl := (Table.mem_insert inserted).mp member
  -- An old wallet is balanced as it was.
  · exact balanced wallet old
  · -- No row names the new wallet, so nothing has an effect on it.
    have weightless : ∀ tx ∈ s.transactions.rows, s.effectOn wallet.id tx = 0 := by
      intro tx among
      obtain ⟨source, destination⟩ := unnamed tx among
      cases kind : tx.isInstallment with
      | true => simp [effectOn_installment kind, source]
      | false => rw [effectOn_regular kind, on_plainDeltas_other source destination]
    -- The new wallet has its opening balance, and no effect adds to it.
    have nothing : s.transactions.total (s.effectOn wallet.id) = 0 := by
      simp [Table.total, List.map_congr_left weightless]
    have total : ({ s with nextId := next, wallets := rows } : Store).transactions.total
        (({ s with nextId := next, wallets := rows } : Store).effectOn wallet.id) = 0 := nothing
    rw [total, seeded, add_zero]

end Store

end PocketMint
