import PocketMint.Domain.TransactionBalance

/-! The effect of a stored transaction on one wallet, as history reports it. -/

namespace PocketMint

/-- A stored row joined with its instalment's grand total, as reports read it. -/
structure ReportingTransaction where
  type : FinancialTxType
  amount : Decimal
  walletId : Id
  toWalletId : Option Id
  isInstallment : Bool
  /-- The `grandTotal` of the joined instalment. -/
  installment : Option Decimal

/-- The amount by which a row changed its wallet. -/
def persistedWalletAmount (transaction : ReportingTransaction) : Decimal :=
  match transaction.type, transaction.isInstallment, transaction.installment with
  | .expense, true, some grandTotal => grandTotal
  | _, _, _ => transaction.amount

/-- The signed effect of a row on a wallet. -/
def getWalletReportingEffect (transaction : ReportingTransaction) (walletId : Id) : Decimal :=
  let amount := persistedWalletAmount transaction
  match transaction.type with
  | .income => if transaction.walletId = walletId then amount else 0
  | .expense => if transaction.walletId = walletId then -amount else 0
  | .transfer =>
    if transaction.walletId = walletId then -amount
    else if transaction.toWalletId = some walletId then amount
    else 0

end PocketMint
