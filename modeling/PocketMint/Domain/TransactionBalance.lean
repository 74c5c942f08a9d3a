import PocketMint.Js.Number

/-! How a transaction moves money between wallets. -/

namespace PocketMint

/-- The identifier of a row or of a user. -/
abbrev Id := Nat

/-- The kinds of transaction that move money. -/
inductive FinancialTxType where
  | income
  | expense
  | transfer
  deriving DecidableEq

/-- A signed balance change of one wallet. -/
structure WalletDelta where
  walletId : Id
  amount : Decimal
  deriving DecidableEq

/-- A transaction's money movement, apart from how it is stored. -/
structure BalanceEffectInput where
  type : FinancialTxType
  amount : Decimal
  walletId : Id
  toWalletId : Option Id := none
  isInstallment : Bool := false
  installmentGrandTotal : Option Decimal := none

/-- The deltas of a movement. A strict caller refuses what has no complete effect. -/
def balanceDeltas (input : BalanceEffectInput) (strict : Bool) : Except String (List WalletDelta) :=
  -- An instalment debits the full grand total, whatever the type and the stored amount.
  if input.isInstallment then
    match input.installmentGrandTotal with
    | none =>
      if strict then .error "installment balance effect requires installmentGrandTotal"
      else .ok [⟨input.walletId, -input.amount⟩]
    | some grand => .ok [⟨input.walletId, -grand⟩]
  else
    match input.type with
    | .income => .ok [⟨input.walletId, input.amount⟩]
    | .expense => .ok [⟨input.walletId, -input.amount⟩]
    | .transfer =>
      match input.toWalletId with
      | some toWalletId => .ok [⟨input.walletId, -input.amount⟩, ⟨toWalletId, input.amount⟩]
      | none =>
        if strict then .error "TRANSFER balance effect requires toWalletId"
        else .ok [⟨input.walletId, -input.amount⟩]

/-- Deltas to apply when a transaction is created. -/
def computeBalanceEffect (input : BalanceEffectInput) : Except String (List WalletDelta) :=
  balanceDeltas input true

/-- Deltas that undo a stored transaction's effect. -/
def reverseBalanceEffect (input : BalanceEffectInput) : Except String (List WalletDelta) := do
  -- The reversal is computed from the same deltas, so the two can only differ in their sign.
  let deltas ← computeBalanceEffect input
  return deltas.map fun delta => { delta with amount := -delta.amount }

/-- A stored row, as reconciliation reads it. -/
structure LedgerTransaction where
  type : FinancialTxType
  amount : Decimal
  walletId : Id
  toWalletId : Option Id
  isInstallment : Bool
  installmentId : Option Id
  deriving DecidableEq

/-- A wallet, as reconciliation reads it. -/
structure WalletSnapshot where
  id : Id
  initialBalance : Decimal
  balance : Decimal

/-- What reconciliation reports of one wallet. -/
structure WalletReconciliation where
  walletId : Id
  stored : Decimal
  expected : Decimal
  drift : Decimal
  deriving DecidableEq

namespace Reconciliation

/-- The expected balances so far, of the wallets that are known. -/
abbrev Expected := Id → Option Decimal

/-- `Map.set`. -/
def set (expected : Expected) (walletId : Id) (amount : Decimal) : Expected :=
  fun other => if other = walletId then some amount else expected other

/-- Add a delta, ignoring the effects on unknown wallets. -/
def add (expected : Expected) (delta : WalletDelta) : Expected :=
  match expected delta.walletId with
  | none => expected
  -- A known wallet adds the delta to what it has so far.
  | some amount => set expected delta.walletId (amount + delta.amount)

/-- The deltas reconciliation assigns to a stored row; it is never strict, so none are refused. -/
def rowDeltas (grandTotalByInstallment : Id → Option Decimal) (tx : LedgerTransaction) :
    List WalletDelta :=
  -- The grand total is looked up among the instalments that the caller has loaded.
  let grand := if tx.isInstallment then tx.installmentId.bind grandTotalByInstallment else none
  match balanceDeltas { tx with installmentGrandTotal := grand } false with
  | .ok deltas => deltas
  | .error _ => []

end Reconciliation

open Reconciliation

/-- Each wallet's balance recomputed from its opening balance and every stored transaction. -/
def reconcileWalletBalances (wallets : List WalletSnapshot) (transactions : List LedgerTransaction)
    (grandTotalByInstallment : Id → Option Decimal) : List WalletReconciliation :=
  -- The accumulator starts with the opening balances, and each row adds its deltas in turn.
  let opening : Expected :=
    wallets.foldl (fun expected w => set expected w.id w.initialBalance) fun _ => none
  let expected := transactions.foldl
    (fun expected tx => (rowDeltas grandTotalByInstallment tx).foldl add expected) opening
  wallets.map fun w =>
    let exp := (expected w.id).getD 0
    { walletId := w.id, stored := w.balance, expected := exp, drift := w.balance - exp }

end PocketMint
