import PocketMint.Js.Number

/-! Net worth, and what a wallet owes, over a snapshot of wallets. -/

namespace PocketMint

/-- The kinds of wallet. -/
inductive WalletType where
  | cash
  | bank
  | eWallet
  | creditCard
  | paylater
  | loan
  deriving DecidableEq

/-- The side of the balance sheet a wallet is on. -/
inductive WalletClass where
  | asset
  | debt
  deriving DecidableEq

/-- The side of the balance sheet of each kind of wallet. -/
def classifyWalletForNetWorth : WalletType → WalletClass
  | .cash | .bank | .eWallet => .asset
  | .creditCard | .paylater | .loan => .debt

/-- The kinds of wallet with a credit limit and a billing cycle. -/
def WalletType.isCredit : WalletType → Bool
  | creditCard | paylater => true
  | _ => false

/-- The kinds of wallet that money is held in: transfers and payments may leave only these. -/
def WalletType.isAsset : WalletType → Bool
  | cash | bank | eWallet => true
  | _ => false

/-- The kinds of wallet that money is owed on. -/
def WalletType.isLiability : WalletType → Bool
  | creditCard | paylater | loan => true
  | _ => false

/-- A wallet, as the net worth is computed from it. -/
structure WalletInput where
  type : WalletType
  balance : Decimal

/-- The totals of a snapshot. -/
structure WalletTotals where
  totalAset : Decimal
  totalUtang : Decimal
  netWorth : Decimal
  deriving DecidableEq

namespace NetWorth

/-- The assets and debts accumulated so far. -/
structure Sums where
  totalAset : Decimal := 0
  totalUtang : Decimal := 0

/-- One round of the loop over the wallets. -/
def Sums.add (sums : Sums) (w : WalletInput) : Sums :=
  match classifyWalletForNetWorth w.type with
  | .asset => { sums with totalAset := sums.totalAset + w.balance }
  | .debt => { sums with totalUtang := sums.totalUtang + |w.balance| }

end NetWorth

/-- Total assets, total debt and their difference. -/
def calculateNetWorth (wallets : List WalletInput) : WalletTotals :=
  let sums := wallets.foldl NetWorth.Sums.add {}
  { totalAset := sums.totalAset
    totalUtang := sums.totalUtang
    netWorth := sums.totalAset - sums.totalUtang }

/-- The fields a wallet's response computes from its balance. -/
structure WalletFigures where
  outstanding : Option Decimal
  remainingCredit : Option Decimal
  deriving DecidableEq

/-- The computed fields of `serializeWallet`. -/
def serializeWallet (type : WalletType) (balance creditLimit : Decimal) : WalletFigures :=
  { outstanding := if type.isLiability then some |min balance 0| else none
    remainingCredit :=
      if type.isCredit then some (max (creditLimit - |min balance 0|) 0) else none }

end PocketMint
