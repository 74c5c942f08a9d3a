import PocketMint.Domain.TransactionBalance
import Mathlib.Algebra.BigOperators.Group.List.Basic
import Mathlib.Tactic.Abel

/-! What a movement's deltas add up to on each wallet. -/

namespace PocketMint

namespace WalletDelta

/-- The sum of the deltas on one wallet. -/
def on (deltas : List WalletDelta) (walletId : Id) : Decimal :=
  (deltas.map fun delta => if delta.walletId = walletId then delta.amount else 0).sum

@[simp] theorem on_nil (walletId : Id) : on [] walletId = 0 := rfl

@[simp] theorem on_cons (delta : WalletDelta) (rest : List WalletDelta) (walletId : Id) :
    on (delta :: rest) walletId =
      (if delta.walletId = walletId then delta.amount else 0) + on rest walletId := by
  simp [on]

@[simp] theorem on_append (first second : List WalletDelta) (walletId : Id) :
    on (first ++ second) walletId = on first walletId + on second walletId := by
  simp [on]

end WalletDelta

/-- The deltas of a movement that is no instalment's. -/
def plainDeltas (type : FinancialTxType) (amount : Decimal) (walletId : Id) (toWalletId : Option Id) :
    List WalletDelta :=
  match type with
  | .income => [⟨walletId, amount⟩]
  | .expense => [⟨walletId, -amount⟩]
  | .transfer => ⟨walletId, -amount⟩ :: (toWalletId.map fun destination => ⟨destination, amount⟩).toList

/-- What holds of both signs of the amount on the wallet, and of the amount on a destination, holds of
every delta of a movement. -/
theorem forall_plainDeltas {holds : WalletDelta → Prop} {type : FinancialTxType} {amount : Decimal}
    {walletId : Id} {toWalletId : Option Id} (added : holds ⟨walletId, amount⟩)
    (taken : holds ⟨walletId, -amount⟩) (moved : ∀ id ∈ toWalletId, holds ⟨id, amount⟩) :
    ∀ delta ∈ plainDeltas type amount walletId toWalletId, holds delta := by
  intro delta listed
  cases type with
  -- Income adds to its wallet, and expense takes from it.
  | income =>
    rw [plainDeltas, List.mem_singleton] at listed
    exact listed ▸ added
  | expense =>
    rw [plainDeltas, List.mem_singleton] at listed
    exact listed ▸ taken
  | transfer =>
    -- Only a transfer has a second delta, on its destination.
    rw [plainDeltas, List.mem_cons] at listed
    rcases listed with rfl | arrival
    · exact taken
    · simp only [Option.mem_toList, Option.map_eq_some_iff] at arrival
      rcases arrival with ⟨id, given, rfl⟩
      exact moved id given

/-- A movement changes no balance but that of its two wallets. -/
theorem on_plainDeltas_other {type : FinancialTxType} {amount : Decimal} {walletId : Id}
    {toWalletId : Option Id} {other : Id} (source : walletId ≠ other)
    (destination : toWalletId ≠ some other) :
    WalletDelta.on (plainDeltas type amount walletId toWalletId) other = 0 := by
  -- Each delta is on the source or on the destination, and both are other wallets.
  cases type with
  | income => simp [plainDeltas, source]
  | expense => simp [plainDeltas, source]
  | transfer => cases toWalletId <;> simp_all [plainDeltas]

/-- A movement that forgets a destination changes no other wallet's balance. -/
theorem on_plainDeltas_forget {type : FinancialTxType} {amount : Decimal} {walletId : Id}
    {toWalletId : Option Id} {gone other : Id} (apart : gone ≠ other) :
    WalletDelta.on (plainDeltas type amount walletId (toWalletId.filter (· ≠ gone))) other =
      WalletDelta.on (plainDeltas type amount walletId toWalletId) other := by
  -- Only a transfer has a destination, and forgetting it concerns that wallet alone.
  cases type with
  | income => rfl
  | expense => rfl
  | transfer =>
    cases toWalletId with
    | none => rfl
    | some destination =>
      by_cases same : destination = gone
      · simp [plainDeltas, Option.filter, same, apart]
      · simp [plainDeltas, Option.filter, same]

/-- A strict effect is the plain deltas, and only a transfer without a destination has none. -/
theorem computeBalanceEffect_ok {type : FinancialTxType} {amount : Decimal} {walletId : Id}
    {toWalletId : Option Id} {deltas : List WalletDelta} :
    computeBalanceEffect { type, amount, walletId, toWalletId } = .ok deltas ↔
      (type = .transfer → toWalletId.isSome) ∧ deltas = plainDeltas type amount walletId toWalletId := by
  -- Only a transfer without a destination is refused.
  rw [eq_comm (a := deltas)]
  cases type with
  | income => simp [computeBalanceEffect, balanceDeltas, plainDeltas]
  | expense => simp [computeBalanceEffect, balanceDeltas, plainDeltas]
  | transfer => cases toWalletId <;> simp [computeBalanceEffect, balanceDeltas, plainDeltas]

/-- The deltas that undo others. -/
def negated (deltas : List WalletDelta) : List WalletDelta :=
  deltas.map fun delta => { delta with amount := -delta.amount }

/-- Negating every delta negates the sum on each wallet. -/
@[simp] theorem WalletDelta.on_negated (deltas : List WalletDelta) (walletId : Id) :
    on (negated deltas) walletId = -on deltas walletId := by
  -- Negating the amounts negates what they add up to, delta by delta.
  induction deltas with
  | nil => simp [negated]
  | cons delta rest ih =>
    have tail : on (rest.map fun delta => { delta with amount := -delta.amount }) walletId =
        -on rest walletId := ih
    simp only [negated, List.map_cons, on_cons, tail, neg_add]
    split <;> simp

/-- Undoing an instalment credits its wallet with the grand total. -/
theorem reverseBalanceEffect_installment {type : FinancialTxType} {amount grandTotal : Decimal}
    {walletId : Id} :
    reverseBalanceEffect
      { type, amount, walletId, isInstallment := true, installmentGrandTotal := some grandTotal } =
      .ok [⟨walletId, grandTotal⟩] := by
  simp [reverseBalanceEffect, computeBalanceEffect, balanceDeltas, bind, Except.bind, pure, Except.pure]

/-- A strict reversal is the negated plain deltas. -/
theorem reverseBalanceEffect_ok {type : FinancialTxType} {amount : Decimal} {walletId : Id}
    {toWalletId : Option Id} {deltas : List WalletDelta} :
    reverseBalanceEffect { type, amount, walletId, toWalletId } = .ok deltas ↔
      (type = .transfer → toWalletId.isSome) ∧
      deltas = negated (plainDeltas type amount walletId toWalletId) := by
  unfold reverseBalanceEffect
  -- Reversing computes the effect first, and refuses what that refuses.
  cases computed : computeBalanceEffect { type, amount, walletId, toWalletId } with
  | error message =>
    simp only [bind, Except.bind, reduceCtorEq, false_iff]
    rintro ⟨known, -⟩
    rw [computeBalanceEffect_ok.mpr ⟨known, rfl⟩] at computed
    cases computed
  | ok effect =>
    obtain ⟨known, rfl⟩ := computeBalanceEffect_ok.mp computed
    simp only [bind, Except.bind, pure, Except.pure, Except.ok.injEq]
    exact ⟨fun same => ⟨known, same.symm⟩, fun result => result.2.symm⟩

/-- Reconciliation assigns a row that is no instalment's its plain deltas. -/
theorem rowDeltas_regular {grandTotals : Id → Option Decimal} {tx : LedgerTransaction}
    (regular : tx.isInstallment = false) :
    Reconciliation.rowDeltas grandTotals tx =
      plainDeltas tx.type tx.amount tx.walletId tx.toWalletId := by
  -- A row that is no instalment's has the plain deltas of its kind.
  obtain ⟨type, amount, walletId, toWalletId, isInstallment, installmentId⟩ := tx
  subst regular
  cases type with
  | income => simp [Reconciliation.rowDeltas, balanceDeltas, plainDeltas]
  | expense => simp [Reconciliation.rowDeltas, balanceDeltas, plainDeltas]
  | transfer => cases toWalletId <;> simp [Reconciliation.rowDeltas, balanceDeltas, plainDeltas]

/-- Reconciliation debits an instalment's row by its grand total, or by its amount when that is lost. -/
theorem rowDeltas_installment {grandTotals : Id → Option Decimal} {tx : LedgerTransaction}
    (backed : tx.isInstallment = true) :
    Reconciliation.rowDeltas grandTotals tx =
      [⟨tx.walletId, -((tx.installmentId.bind grandTotals).getD tx.amount)⟩] := by
  -- An instalment's row takes its grand total, or else its own amount, off the wallet.
  obtain ⟨type, amount, walletId, toWalletId, isInstallment, installmentId⟩ := tx
  subst backed
  simp only [Reconciliation.rowDeltas, balanceDeltas, if_true]
  cases installmentId.bind grandTotals <;> simp

namespace Reconciliation

/-- Adding deltas to the expected balances adds to each known wallet the deltas on it. -/
theorem foldl_add (deltas : List WalletDelta) (expected : Expected) (walletId : Id) :
    deltas.foldl add expected walletId =
      (expected walletId).map (· + WalletDelta.on deltas walletId) := by
  -- The deltas are added one by one, so that the entry grows by each in turn.
  induction deltas generalizing expected with
  | nil => simp
  | cons delta rest ih =>
    rw [List.foldl_cons, ih, WalletDelta.on_cons]
    -- A delta on an unknown wallet is ignored; any other changes one entry.
    cases known : expected delta.walletId with
    | none =>
      simp only [add, known]
      by_cases here : delta.walletId = walletId
      · simp [← here, known]
      · simp [here]
    | some amount =>
      simp only [add, known, set]
      by_cases here : delta.walletId = walletId
      · subst here
        simp [known, add_assoc]
      · simp [here, Ne.symm here]

/-- The sum of what reconciliation assigns to a wallet over stored rows. -/
def assigned (grandTotals : Id → Option Decimal) (transactions : List LedgerTransaction)
    (walletId : Id) : Decimal :=
  (transactions.map fun tx => WalletDelta.on (rowDeltas grandTotals tx) walletId).sum

/-- The loop over the rows adds to each known wallet what the rows assign to it. -/
theorem foldl_rows (grandTotals : Id → Option Decimal) (transactions : List LedgerTransaction)
    (expected : Expected) (walletId : Id) :
    transactions.foldl (fun expected tx => (rowDeltas grandTotals tx).foldl add expected) expected
      walletId = (expected walletId).map (· + assigned grandTotals transactions walletId) := by
  -- Each row adds its own deltas to what the rows before have added.
  induction transactions generalizing expected with
  | nil => simp [assigned]
  | cons tx rest ih =>
    rw [List.foldl_cons, ih, foldl_add, Option.map_map]
    congr 1
    funext amount
    simp [assigned, add_assoc]

/-- The opening map knows each wallet by its initial balance. -/
theorem foldl_opening {wallets : List WalletSnapshot} (unique : (wallets.map (·.id)).Nodup)
    (expected : Expected) {wallet : WalletSnapshot} (member : wallet ∈ wallets) :
    wallets.foldl (fun expected w => set expected w.id w.initialBalance) expected wallet.id =
      some wallet.initialBalance := by
  -- The entries are set in order, and a wallet's own is the last that is set for it.
  induction wallets generalizing expected with
  | nil => simp at member
  | cons first rest ih =>
    rw [List.map_cons, List.nodup_cons] at unique
    obtain rfl | among := List.mem_cons.mp member
    · -- No later wallet has the same identifier to overwrite the entry.
      have kept : ∀ (later : List WalletSnapshot) (known : Expected),
          wallet.id ∉ later.map (·.id) →
          later.foldl (fun expected w => set expected w.id w.initialBalance) known wallet.id =
            known wallet.id := by
        intro later
        induction later with
        | nil => intro _ _; rfl
        | cons other later ih =>
          intro known apart
          rw [List.map_cons, List.mem_cons, not_or] at apart
          rw [List.foldl_cons, ih _ apart.2, set, if_neg apart.1]
      rw [List.foldl_cons, kept rest _ unique.1, set, if_pos rfl]
    · exact ih unique.2 _ among

end Reconciliation

/-- Reconciliation reports of each wallet its balance and what the rows make it. -/
theorem reconcileWalletBalances_eq {wallets : List WalletSnapshot}
    (unique : (wallets.map (·.id)).Nodup) (transactions : List LedgerTransaction)
    (grandTotals : Id → Option Decimal) :
    reconcileWalletBalances wallets transactions grandTotals = wallets.map fun wallet =>
      let expected := wallet.initialBalance +
        Reconciliation.assigned grandTotals transactions wallet.id
      { walletId := wallet.id
        stored := wallet.balance
        expected
        drift := wallet.balance - expected } := by
  unfold reconcileWalletBalances
  -- The expected balance of a wallet is read after all rows have been added.
  refine List.map_congr_left fun wallet member => ?_
  rw [Reconciliation.foldl_rows, Reconciliation.foldl_opening unique (fun _ => none) member]
  simp

end PocketMint
