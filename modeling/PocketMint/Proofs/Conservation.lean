import PocketMint.Domain.BalanceLaws

/-! Reconciliation conserves money, and depends neither on the order of the rows nor on how they are split. -/

namespace PocketMint

/-- A list without repetitions holds an identifier once, so that one amount is counted. -/
theorem sum_at_one {ids : List Id} (unique : ids.Nodup) {wanted : Id} (listed : wanted ∈ ids)
    (amount : Decimal) :
    (ids.map fun id => if wanted = id then amount else 0).sum = amount := by
  -- Before and after the one occurrence, every summand is zero.
  induction ids with
  | nil => simp at listed
  | cons id rest ih =>
    -- The listed key is either the head or one of the rest, and never both.
    rw [List.nodup_cons] at unique
    rw [List.map_cons, List.sum_cons]
    by_cases here : wanted = id
    · have apart : ∀ other ∈ rest, (if wanted = other then amount else 0) = 0 := by
        intro other among
        have : wanted ≠ other := by
          rintro rfl
          exact unique.1 (here ▸ among)
        rw [if_neg this]
      rw [if_pos here, List.map_congr_left apart]
      simp
    · have among : wanted ∈ rest := (List.mem_cons.mp listed).resolve_left here
      rw [if_neg here, ih unique.2 among, zero_add]

/-- Over the wallets that deltas are on, the sums on each wallet are all of the deltas. -/
theorem WalletDelta.sum_on {ids : List Id} (unique : ids.Nodup) {deltas : List WalletDelta}
    (listed : ∀ delta ∈ deltas, delta.walletId ∈ ids) :
    (ids.map (on deltas)).sum = (deltas.map (·.amount)).sum := by
  -- Each delta is counted at its own wallet and nowhere else.
  induction deltas with
  | nil =>
    have none : ids.map (on []) = ids.map fun _ => 0 := rfl
    simp [none]
  | cons delta rest ih =>
    have own := sum_at_one unique (listed delta List.mem_cons_self) delta.amount
    have later := ih fun other among => listed other (List.mem_cons_of_mem _ among)
    have split : ids.map (on (delta :: rest)) =
        ids.map fun id => (if delta.walletId = id then delta.amount else 0) + on rest id :=
      List.map_congr_left fun id _ => on_cons delta rest id
    rw [split, List.sum_map_add, own, List.map_cons, List.sum_cons]
    exact congrArg _ later

namespace LedgerTransaction

/-- The money a row stands for: an instalment's grand total when it is known, and else the stored amount. -/
def counted (grandTotals : Id → Option Decimal) (tx : LedgerTransaction) : Decimal :=
  if tx.isInstallment then (tx.installmentId.bind grandTotals).getD tx.amount else tx.amount

/-- A row that brings money in. -/
def earns (tx : LedgerTransaction) : Bool := !tx.isInstallment && decide (tx.type = .income)

/-- A row that takes money out: an expense, or an instalment whatever its type. -/
def spends (tx : LedgerTransaction) : Bool := tx.isInstallment || decide (tx.type = .expense)

/-- A row whose wallets are known, with a destination if it is a transfer. -/
structure Placed (ids : List Id) (tx : LedgerTransaction) : Prop where
  source : tx.walletId ∈ ids
  destination : ∀ toWalletId ∈ tx.toWalletId, toWalletId ∈ ids
  complete : tx.type = .transfer → tx.toWalletId.isSome

/-- The deltas of a row are on wallets that are known. -/
theorem Placed.rowDeltas_mem {ids : List Id} {tx : LedgerTransaction} (placed : tx.Placed ids)
    (grandTotals : Id → Option Decimal) :
    ∀ delta ∈ Reconciliation.rowDeltas grandTotals tx, delta.walletId ∈ ids := by
  -- Every delta of a row is on its wallet, or on the destination of its transfer.
  intro delta listed
  cases backed : tx.isInstallment with
  | true =>
    rw [rowDeltas_installment backed, List.mem_singleton] at listed
    exact listed ▸ placed.source
  | false =>
    have among : ∀ delta ∈ plainDeltas tx.type tx.amount tx.walletId tx.toWalletId, delta.walletId ∈ ids :=
      forall_plainDeltas placed.source placed.source placed.destination
    rw [rowDeltas_regular backed] at listed
    exact among delta listed

/-- A row's deltas add up to what it brings in, less what it takes out. -/
theorem Placed.sum_rowDeltas {ids : List Id} {tx : LedgerTransaction} (placed : tx.Placed ids)
    (grandTotals : Id → Option Decimal) :
    ((Reconciliation.rowDeltas grandTotals tx).map (·.amount)).sum =
      (if tx.earns then tx.counted grandTotals else 0)
      - (if tx.spends then tx.counted grandTotals else 0) := by
  cases backed : tx.isInstallment with
  | true =>
    rw [rowDeltas_installment backed]
    simp [earns, spends, counted, backed]
  | false =>
    rw [rowDeltas_regular backed]
    cases kind : tx.type with
    | income => simp [plainDeltas, earns, spends, counted, backed, kind]
    | expense => simp [plainDeltas, earns, spends, counted, backed, kind]
    | transfer =>
      -- What leaves the source reaches the destination, be it the same wallet.
      rcases Option.isSome_iff_exists.mp (placed.complete kind) with ⟨toWalletId, given⟩
      simp [plainDeltas, earns, spends, backed, kind, given]

end LedgerTransaction

namespace Reconciliation

/-- Over the known wallets, the rows assign what they bring in, less what they take out. -/
theorem sum_assigned {ids : List Id} (unique : ids.Nodup) (grandTotals : Id → Option Decimal)
    {transactions : List LedgerTransaction} (placed : ∀ tx ∈ transactions, tx.Placed ids) :
    (ids.map (assigned grandTotals transactions)).sum =
      ((transactions.filter (·.earns)).map (·.counted grandTotals)).sum -
        ((transactions.filter (·.spends)).map (·.counted grandTotals)).sum := by
  -- The head row is counted over all wallets at once, and the rest by induction.
  induction transactions with
  | nil =>
    have none : ids.map (assigned grandTotals []) = ids.map fun _ => 0 := rfl
    simp [none]
  | cons tx rest ih =>
    have own := placed tx List.mem_cons_self
    have later := ih fun other among => placed other (List.mem_cons_of_mem _ among)
    have split : ids.map (assigned grandTotals (tx :: rest)) =
        ids.map fun id => WalletDelta.on (rowDeltas grandTotals tx) id + assigned grandTotals rest id :=
      List.map_congr_left fun id _ => by simp [assigned]
    -- The effect of the head row is what it earns less what it spends.
    have head := WalletDelta.sum_on unique (own.rowDeltas_mem grandTotals)
    rw [own.sum_rowDeltas] at head
    rw [split, List.sum_map_add, List.filter_cons, List.filter_cons]
    refine (congrArg₂ (· + ·) head later).trans ?_
    cases tx.earns <;> cases tx.spends <;> simp <;> ring

/-- What the rows assign to a wallet does not depend on their order. -/
theorem assigned_perm {transactions other : List LedgerTransaction} (reordered : transactions.Perm other)
    (grandTotals : Id → Option Decimal) (walletId : Id) :
    assigned grandTotals transactions walletId = assigned grandTotals other walletId :=
  (reordered.map _).sum_eq

/-- Two lists of rows assign to a wallet what each of them does. -/
theorem assigned_append (first second : List LedgerTransaction) (grandTotals : Id → Option Decimal)
    (walletId : Id) :
    assigned grandTotals (first ++ second) walletId =
      assigned grandTotals first walletId + assigned grandTotals second walletId := by
  simp [assigned]

/-- The wallets with what was expected of them as their opening balances. -/
def carriedOver (wallets : List WalletSnapshot) (reports : List WalletReconciliation) : List WalletSnapshot :=
  List.zipWith (fun wallet report => { wallet with initialBalance := report.expected }) wallets reports

/-- What was expected of the wallets beyond their opening balances, over all of them. -/
def gained (wallets : List WalletSnapshot) (reports : List WalletReconciliation) : Decimal :=
  (List.zipWith (fun wallet report => report.expected - wallet.initialBalance) wallets reports).sum

end Reconciliation

open Reconciliation

/-- Reconciliation gains what rows bring in less what they take out, in any order and by any parts. -/
theorem reconcileWalletBalances_conserves {wallets : List WalletSnapshot}
    (unique : (wallets.map (·.id)).Nodup) {transactions : List LedgerTransaction}
    (placed : ∀ tx ∈ transactions, tx.Placed (wallets.map (·.id))) (grandTotals : Id → Option Decimal) :
    gained wallets (reconcileWalletBalances wallets transactions grandTotals) =
        ((transactions.filter (·.earns)).map (·.counted grandTotals)).sum -
          ((transactions.filter (·.spends)).map (·.counted grandTotals)).sum ∧
      (∀ other, transactions.Perm other →
        reconcileWalletBalances wallets other grandTotals =
          reconcileWalletBalances wallets transactions grandTotals) ∧
      ∀ first second, transactions = first ++ second →
        reconcileWalletBalances
            (carriedOver wallets (reconcileWalletBalances wallets first grandTotals)) second grandTotals =
          reconcileWalletBalances wallets transactions grandTotals := by
  refine ⟨?_, ?_, ?_⟩
  · -- Each wallet's gain is what the rows assign to it.
    rw [← sum_assigned unique grandTotals placed, reconcileWalletBalances_eq unique, gained,
      List.zipWith_map_right, List.zipWith_self, List.map_map]
    simp [Function.comp_def]
  -- The reconciliation adds what is assigned, which does not depend on the order of the rows.
  · intro other reordered
    rw [reconcileWalletBalances_eq unique, reconcileWalletBalances_eq unique]
    simp only [assigned_perm reordered]
  · intro first second split
    -- Carrying over changes opening balances only, so that the wallets stay distinct.
    have carried : carriedOver wallets (reconcileWalletBalances wallets first grandTotals) =
        wallets.map fun wallet =>
          { wallet with initialBalance := wallet.initialBalance + assigned grandTotals first wallet.id } := by
      rw [reconcileWalletBalances_eq unique, carriedOver, List.zipWith_map_right, List.zipWith_self]
    have distinct : ((carriedOver wallets (reconcileWalletBalances wallets first grandTotals)).map
        (·.id)).Nodup := by
      rw [carried, List.map_map]
      exact unique
    -- What the first part assigns is added to the opening balance, and the second part on top of it.
    rw [reconcileWalletBalances_eq distinct, carried, List.map_map, reconcileWalletBalances_eq unique, split]
    refine List.map_congr_left fun wallet _ => ?_
    simp only [Function.comp_apply, assigned_append, add_assoc]

/-- A transfer within a wallet, an expense, and an instalment of 300 with interest of 60, in two wallets. -/
theorem reconcileWalletBalances_conserves_expense :
    let wallets : List WalletSnapshot := [⟨0, 100, 60⟩, ⟨1, 50, 50⟩]
    let grandTotals : Id → Option Decimal := fun id => if id = 7 then some 360 else none
    let rows : List LedgerTransaction :=
      [⟨.transfer, 30, 1, some 1, false, none⟩, ⟨.expense, 40, 0, none, false, none⟩,
        ⟨.expense, 300, 1, none, true, some 7⟩]
    gained wallets (reconcileWalletBalances wallets rows grandTotals) = -400 ∧
      reconcileWalletBalances wallets rows.reverse grandTotals =
        reconcileWalletBalances wallets rows grandTotals := by
  intro wallets grandTotals rows
  -- All rows are of the given wallets, so the theorem applies to them.
  have placed : ∀ tx ∈ rows, tx.Placed (wallets.map (·.id)) := by
    intro tx listed
    simp only [rows, List.mem_cons, List.not_mem_nil, or_false] at listed
    rcases listed with rfl | rfl | rfl
    · exact ⟨by decide, by simp [wallets], by simp⟩
    · exact ⟨by decide, by simp, by simp⟩
    · exact ⟨by decide, by simp, by simp⟩
  have unique : (wallets.map (·.id)).Nodup := by decide
  rcases reconcileWalletBalances_conserves unique placed grandTotals with ⟨gain, reordered, _⟩
  exact ⟨gain.trans (by decide +kernel), reordered _ (List.reverse_perm rows).symm⟩

/-- An instalment's row is debited even where its type is that of an income. -/
theorem reconcileWalletBalances_debits_income :
    ¬ ∀ (wallets : List WalletSnapshot) (transactions : List LedgerTransaction)
      (grandTotals : Id → Option Decimal), (wallets.map (·.id)).Nodup →
      (∀ tx ∈ transactions, tx.Placed (wallets.map (·.id))) →
      gained wallets (reconcileWalletBalances wallets transactions grandTotals) =
        ((transactions.filter fun tx => decide (tx.type = .income)).map (·.counted grandTotals)).sum -
          ((transactions.filter fun tx => decide (tx.type = .expense)).map (·.counted grandTotals)).sum := by
  intro claimed
  have gain := claimed [⟨0, 0, 0⟩] [⟨.income, 50, 0, none, true, some 7⟩] (fun _ => some 600) (by decide) (by
    intro tx listed
    rcases List.mem_singleton.mp listed with rfl
    exact ⟨by decide, by simp, by simp⟩)
  exact absurd gain (by decide +kernel)

end PocketMint
