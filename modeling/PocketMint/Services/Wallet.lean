import PocketMint.Store.Client

/-! The wallet service: creation, metadata updates, and deletion behind its integrity gates. -/

namespace PocketMint

open Prog (query throwIf orThrow ofExcept)

/-- The value a numeric column takes; the database client refuses what is not a finite number. -/
def columnValue : Numeric → Except Failure Decimal
  | .finite value => .ok value
  | _ => .error .validation

namespace WalletService

/-- Refuse a billing day that no month can have. -/
def assertBillingDay (name : String) : Field Numeric → Except Failure Unit
  | .given value =>
    match value.toInteger with
    | some day =>
      if day < 1 ∨ 31 < day then .error (.service (name ++ " must be between 1 and 31") 400 "BAD_REQUEST")
      else .ok ()
    | none => .error (.service (name ++ " must be between 1 and 31") 400 "BAD_REQUEST")
  | _ => .ok ()

/-- The whole number a billing day column takes. -/
def billingDay : Field Numeric → Field Int
  | .omitted => .omitted
  | .null => .null
  | .given value => (value.toInteger.map Field.given).getD .null

/-- `Number(balance)`, or nothing owed and nothing owned when it is omitted. -/
def toOpeningBalance : Option DecimalInput → Except Failure Numeric
  | none => .ok (.finite 0)
  | some value =>
    if value.number = .nan then .error (.service "balance must be a valid number" 400 "INVALID_AMOUNT")
    else .ok value.number

/-- `Number(value)` of an optional field whose default is zero. -/
def numberOrZero (value : Option DecimalInput) : Numeric :=
  (value.map DecimalInput.number).getD (.finite 0)

/-- A missing user is the caller's mistake. -/
def rethrowCreate : Failure → Failure
  | .prisma "P2003" => .service "Invalid userId (user not found)" 400 "BAD_REQUEST"
  | error => error

/-- A wallet that is gone by the time of its write is not found. -/
def rethrowMissing (walletId : Id) : Failure → Failure
  | .prisma "P2025" =>
    .service ("Wallet with id " ++ toString walletId ++ " not found") 404 "NOT_FOUND"
  | error => error

end WalletService

open WalletService

/-- What a client sends to create a wallet. -/
structure CreateWalletInput where
  userId : Id
  name : String
  type : Arg WalletType := .omitted
  balance : Option DecimalInput := none
  principal : Option DecimalInput := none
  creditLimit : Option DecimalInput := none
  cutoffDay : Field Numeric := .omitted
  paymentDueDay : Field Numeric := .omitted
  interestRate : Option DecimalInput := none
  adminFee : Option DecimalInput := none
  adminFeeType : Option AdminFeeType := none
  icon : Field String := .omitted
  color : Field String := .omitted

/-- The opening value that seeds both balances of a new wallet. -/
def openingBalance (type : WalletType) (balance : Numeric) (principal : Option DecimalInput) :
    Numeric :=
  match type with
  | .loan =>
    -- A loan owes its principal from the start, and a credit wallet starts with nothing spent.
    match numberOrZero principal with
    | .finite amount => .finite (-|amount|)
    | other => other
  | .creditCard | .paylater => .finite 0
  | _ => balance

/-- The row of a new wallet, whose balances are both its opening value. -/
def newWallet (now : Instant) (input : CreateWalletInput) (type : WalletType)
    (opening creditLimit interestRate adminFee : Decimal) (id : Id) : Wallet :=
  { id
    userId := input.userId
    name := input.name
    type
    balance := opening
    initialBalance := opening
    creditLimit
    -- Billing days are kept of credit wallets only.
    cutoffDay := if type.isCredit then (billingDay input.cutoffDay).resolve none else none
    paymentDueDay := if type.isCredit then (billingDay input.paymentDueDay).resolve none else none
    interestRate
    adminFee
    adminFeeType := input.adminFeeType.getD .flat
    icon := input.icon.resolve none
    color := input.color.resolve none
    isArchived := false
    createdAt := now }

def createWallet (now : Instant) (input : CreateWalletInput) : Service Wallet := do
  throwIf (input.name = "") (.service "name is required and must be a string" 400 "BAD_REQUEST")
  throwIf (input.type = .invalid)
    (.service "type must be one of: CASH, BANK, E_WALLET, CREDIT_CARD, PAYLATER, LOAN" 400 "BAD_REQUEST")
  let resolvedType := input.type.truthy.getD .cash
  -- A credit wallet is nothing without its limit, which the other kinds may leave out.
  throwIf (resolvedType.isCredit ∧ ¬∃ limit ∈ input.creditLimit, limit.number.IsFinitePositive)
    (.service "creditLimit must be greater than zero for CREDIT_CARD and PAYLATER" 400 "BAD_REQUEST")
  ofExcept (assertBillingDay "cutoffDay" input.cutoffDay)
  ofExcept (assertBillingDay "paymentDueDay" input.paymentDueDay)
  let given ← ofExcept (toOpeningBalance input.balance)
  throwIf (resolvedType.isAsset ∧ given.IsLess 0)
    (.service "Asset opening balance cannot be negative" 400 "BAD_REQUEST")
  throwIf (resolvedType = .loan ∧ ¬∃ amount ∈ input.principal, amount.number.IsFinitePositive)
    (.service "principal must be greater than zero for LOAN" 400 "BAD_REQUEST")
  -- A loan has no billing cycle, so that its fields are refused and not ignored.
  throwIf (resolvedType = .loan ∧
      (input.creditLimit.isSome ∨ input.cutoffDay ≠ .omitted ∨ input.paymentDueDay ≠ .omitted))
    (.service "LOAN only accepts principal, not credit billing fields" 400 "BAD_REQUEST")
  throwIf (resolvedType ≠ .loan ∧ input.principal.isSome)
    (.service "principal is only valid for LOAN" 400 "BAD_REQUEST")
  -- Both balances are seeded from one value, against which the ledger is reconciled.
  let opening ← ofExcept (columnValue (openingBalance resolvedType given input.principal))
  let creditLimit ← ofExcept (columnValue
    (if resolvedType.isCredit then numberOrZero input.creditLimit else .finite 0))
  let interestRate ← ofExcept (columnValue (numberOrZero input.interestRate))
  let adminFee ← ofExcept (columnValue (numberOrZero input.adminFee))
  commit rethrowCreate (Tx.createWallet
    (newWallet now input resolvedType opening creditLimit interestRate adminFee))

/-- What a client sends to update a wallet; omitted fields are left as they are. -/
structure UpdateWalletInput where
  userId : Id
  walletId : Id
  name : Option String := none
  type : Arg WalletType := .omitted
  balance : Option DecimalInput := none
  creditLimit : Field DecimalInput := .omitted
  cutoffDay : Field Numeric := .omitted
  paymentDueDay : Field Numeric := .omitted
  interestRate : Option DecimalInput := none
  adminFee : Option DecimalInput := none
  adminFeeType : Option AdminFeeType := none
  icon : Field String := .omitted
  color : Field String := .omitted
  isArchived : Option Bool := none

/-- Refuse a credit limit that is sent and is not a positive number. -/
def assertCreditLimit : Field DecimalInput → Except Failure (Option Decimal)
  | .omitted => .ok none
  | .given value =>
    match value.number with
    | .finite limit =>
      if 0 < limit then .ok (some limit)
      else .error (.service "creditLimit must be greater than zero" 400 "BAD_REQUEST")
    | _ => .error (.service "creditLimit must be greater than zero" 400 "BAD_REQUEST")
  | .null => .error (.service "creditLimit must be greater than zero" 400 "BAD_REQUEST")

/-- Refuse any balance other than an echo of the stored one. -/
def assertBalanceEcho (stored : Decimal) : Option DecimalInput → Except Failure Unit
  | none => .ok ()
  | some value =>
    match value.decimal with
    | none => .error (.service "balance must be a valid number" 400 "INVALID_AMOUNT")
    | some requested =>
      if requested = .finite stored then .ok ()
      else .error (.service ("Wallet balance cannot be changed here. Record an income, expense, " ++
        "or transfer to adjust it through the ledger.") 400 "BALANCE_UPDATE_NOT_ALLOWED")

/-- The value of an optional numeric column, checked when it is sent. -/
def optionalColumn : Option DecimalInput → Except Failure (Option Decimal)
  | none => .ok none
  | some value => (columnValue value.number).map some

/-- The new value of a wallet row; neither balance is among the fields it writes. -/
def editedWallet (input : UpdateWalletInput) (creditLimit interestRate adminFee : Option Decimal)
    (row : Wallet) : Wallet :=
  { row with
    name := input.name.getD row.name
    type := input.type.truthy.getD row.type
    creditLimit := creditLimit.getD row.creditLimit
    cutoffDay := (billingDay input.cutoffDay).resolve row.cutoffDay
    paymentDueDay := (billingDay input.paymentDueDay).resolve row.paymentDueDay
    interestRate := interestRate.getD row.interestRate
    adminFee := adminFee.getD row.adminFee
    adminFeeType := input.adminFeeType.getD row.adminFeeType
    icon := input.icon.resolve row.icon
    color := input.color.resolve row.color
    isArchived := input.isArchived.getD row.isArchived }

def updateWallet (input : UpdateWalletInput) : Service Wallet := do
  throwIf (input.type = .invalid)
    (.service "type must be one of: CASH, BANK, E_WALLET, CREDIT_CARD, PAYLATER, LOAN" 400 "BAD_REQUEST")
  ofExcept (assertBillingDay "cutoffDay" input.cutoffDay)
  ofExcept (assertBillingDay "paymentDueDay" input.paymentDueDay)
  let found ← query fun s => s.ownWallet input.walletId input.userId
  let owned ← orThrow found
    (.service ("Wallet with id " ++ toString input.walletId ++ " not found") 404 "NOT_FOUND")
  -- What matters is the stored type, not the one the update sends.
  throwIf ((input.creditLimit ≠ .omitted ∨ input.cutoffDay ≠ .omitted ∨ input.paymentDueDay ≠ .omitted) ∧
      ¬owned.type.isCredit)
    (.service "Credit billing fields are only valid for CREDIT_CARD and PAYLATER" 400 "BAD_REQUEST")
  let creditLimit ← ofExcept (assertCreditLimit input.creditLimit)
  -- The balance may be sent back as it is, and any other value is refused.
  ofExcept (assertBalanceEcho owned.balance input.balance)
  let interestRate ← ofExcept (optionalColumn input.interestRate)
  let adminFee ← ofExcept (optionalColumn input.adminFee)
  -- The update names the fields it writes, and neither balance is one of them.
  commit (rethrowMissing input.walletId)
    (Tx.updateWallet input.walletId (editedWallet input creditLimit interestRate adminFee))

/-- What a client sends to delete a wallet. -/
structure DeleteWalletInput where
  userId : Id
  walletId : Id
  force : Bool := false

/-- How many transfers of a user have a wallet on either side. -/
def Store.transferCount (s : Store) (userId walletId : Id) : Nat :=
  s.transactions.rows.countP fun row =>
    row.userId = userId ∧ row.type = .transfer ∧
      (row.walletId = walletId ∨ row.toWalletId = some walletId)

/-- How many transactions of a user are on a wallet. -/
def Store.transactionCount (s : Store) (userId walletId : Id) : Nat :=
  s.transactions.rows.countP fun row => row.walletId = walletId ∧ row.userId = userId

def deleteWallet (input : DeleteWalletInput) : Service Id := do
  let found ← query fun s => s.ownWallet input.walletId input.userId
  let _owned ← orThrow found
    (.service ("Wallet with id " ++ toString input.walletId ++ " not found") 404 "NOT_FOUND")
  -- Transfers are counted on both sides, since they move another wallet's balance.
  let transferCount ← query fun s => s.transferCount input.userId input.walletId
  throwIf (0 < transferCount)
    (.service ("Wallet is referenced by " ++ toString transferCount ++
      " transfer(s). Delete those transfers first to keep balances consistent.") 409 "CONFLICT")
  let txCount ← query fun s => s.transactionCount input.userId input.walletId
  -- Other transactions go with the wallet, if the client insists.
  throwIf (0 < txCount ∧ ¬input.force)
    (.service ("Wallet has " ++ toString txCount ++
      " transactions. Pass ?force=true to delete anyway.") 409 "CONFLICT")
  commit (rethrowMissing input.walletId) (do
    Tx.deleteWallet input.walletId
    return input.walletId)

end PocketMint
