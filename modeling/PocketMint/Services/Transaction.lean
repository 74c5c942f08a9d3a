import PocketMint.Domain.BillingCycle
import PocketMint.Domain.Installment
import PocketMint.Domain.ReportingTime
import PocketMint.Services.Wallet

/-! The transaction service: regular and credit transactions, reverse-then-apply updates, deletion. -/

namespace PocketMint

open Prog (query throwIf orThrow ofExcept)

namespace TransactionService

/-- A missing related record is the caller's mistake. -/
def rethrowCreate : Failure → Failure
  | .prisma "P2003" => .service
    "Invalid userId, walletId, toWalletId, or categoryId (related record not found)" 400 "BAD_REQUEST"
  | error => error

/-- A transaction that is gone by the time of its write is not found. -/
def rethrowMissing (id : Id) : Failure → Failure
  | .prisma "P2025" => .service ("Transaction with id " ++ toString id ++ " not found") 404
    "TRANSACTION_NOT_FOUND"
  | error => error

/-- A date that cannot be parsed is the caller's mistake. -/
def businessDate (value : Option String) (zone : Zone) (now : Instant) : Except Failure Instant :=
  (parseBusinessDate value zone now).mapError fun message => .service message 400 "BAD_REQUEST"

/-- The number an amount stands for, when it is given and positive. -/
def positiveAmount (amount : Option DecimalInput) : Option Numeric :=
  (amount.map DecimalInput.number).filter fun number => number.IsPositive

end TransactionService

open TransactionService

/-- What a client sends to create a transaction. -/
structure CreateTransactionInput where
  userId : Id
  /-- Absent when the type is missing or unknown. -/
  type : Option FinancialTxType
  amount : Option DecimalInput
  walletId : Arg Id := .omitted
  toWalletId : Arg Id := .omitted
  categoryId : Arg Id := .omitted
  description : Option String := none
  date : Option String := none
  isInstallment : Bool := false
  billingMode : Arg BillKind := .omitted
  installmentMonths : Option Numeric := none
  interestRate : Option Numeric := none
  firstDueDate : Option String := none

namespace TransactionService

/-- The wallet that is named, or else the user's first. -/
def resolveWalletId (input : CreateTransactionInput) : Service Id :=
  match input.walletId.truthy with
  | some walletId => return walletId
  | none => do
    -- The default is the first wallet of the user.
    let found ← query fun s => s.wallets.rows.find? fun row => row.userId = input.userId
    let defaultWallet ← orThrow found
      (.service "No wallet found for this user. Create a wallet first." 400 "BAD_REQUEST")
    return defaultWallet.id

/-- A category that is named must be the user's and of the transaction's type. -/
def verifyCategory (userId : Id) (categoryId : Option Id) (type : FinancialTxType) : Service Unit :=
  match categoryId with
  | none => return ()
  | some id => do
    let found ← query fun s => s.ownCategory id userId
    let category ← orThrow found (.service "Kategori tidak ditemukan" 404 "NOT_FOUND")
    -- A category has the type of the transactions it sorts.
    throwIf (category.type.transactionType ≠ type)
      (.service "Tipe kategori tidak sesuai dengan tipe transaksi" 400 "BAD_REQUEST")

/-- The destination of a transfer must be the user's. -/
def verifyDestination (userId : Id) (toWalletId : Option Id) (type : FinancialTxType) :
    Service Unit :=
  match type, toWalletId with
  | .transfer, some id => do
    let found ← query fun s => s.ownWallet id userId
    let _toWallet ← orThrow found (.service "Wallet tujuan tidak ditemukan" 404 "NOT_FOUND")
    return ()
  | _, _ => return ()

/-- The destination of a new transaction: only transfers have one. -/
def destination (input : CreateTransactionInput) (type : FinancialTxType) : Option Id :=
  if type = .transfer then input.toWalletId.truthy else none

/-- The row of a new regular transaction. -/
def regularRow (now : Instant) (input : CreateTransactionInput) (type : FinancialTxType)
    (amount : Decimal) (walletId : Id) (date : Instant) (id : Id) : Transaction :=
  { id
    userId := input.userId
    walletId
    toWalletId := destination input type
    categoryId := input.categoryId.truthy
    type
    amount
    description := input.description
    date
    isInstallment := false
    installmentId := none
    createdAt := now }

/-- The atomic write of a regular transaction: its row, then its balance effect. -/
def writeRegular (now : Instant) (input : CreateTransactionInput) (type : FinancialTxType)
    (amount : Decimal) (walletId : Id) (date : Instant) (column : Decimal → Decimal := id) :
    Tx TransactionWithRelations := do
  let toWalletId := destination input type
  -- The row takes the amount as its column holds it, and the balances the deltas of the amount itself.
  let created ← Tx.createTransaction (regularRow now input type (column amount) walletId date)
  let included ← Tx.view fun s => s.includeTransaction created
  let effect ← Tx.lift (computeBalanceEffect { type, amount, walletId, toWalletId })
  applyBalanceDeltas effect column
  return included

/-- The billing mode of a credit purchase, absent when it is an unknown word. -/
def resolveBillingMode (input : CreateTransactionInput) : Option BillKind :=
  match input.billingMode with
  | .given mode => some mode
  | .omitted => some (if input.isInstallment then .installment else .full)
  | .invalid => none

/-- The term of a credit purchase, when it is a whole number of months from 1 to 120. -/
def resolveMonths (input : CreateTransactionInput) : Option Int :=
  if resolveBillingMode input = some .full then some 1
  -- Zero, a fraction and what is no number are all refused.
  else ((input.installmentMonths.bind Numeric.toInteger)).filter fun months =>
    1 ≤ months ∧ months ≤ 120

/-- The interest rate of a credit purchase. -/
def resolveInterestRate (input : CreateTransactionInput) : Numeric :=
  if resolveBillingMode input = some .installment then input.interestRate.getD (.finite 0)
  else .finite 0

/-- The plan of a credit purchase, absent when it has amounts that are not finite numbers. -/
def creditPlan (amount rate : Numeric) (months : Int) : Except Failure (Option InstallmentPlan) :=
  match amount, rate with
  | .finite principal, .finite interestRatePctPerMonth =>
    match computeInstallmentPlan { principal, interestRatePctPerMonth, months } with
    | .ok plan => .ok (some plan)
    | .error message => .error (.thrown message)
  | _, _ => .ok none

/-- Whether the grand total is more than the credit that remains. -/
def exceedsCredit (amount rate : Numeric) (plan : Option InstallmentPlan) (remaining : Decimal) :
    Bool :=
  match plan with
  | some plan => remaining < plan.grandTotal
  -- An infinite principal makes the grand total infinite, or no number at an interest of zero.
  | none => amount = .infinity ∧ rate.IsPositive

/-- The credit that remains on a wallet. -/
def remainingCredit (wallet : Wallet) : Decimal :=
  -- Only a negative balance is debt that uses up the limit.
  let outstanding := if wallet.balance < 0 then |wallet.balance| else 0
  max (wallet.creditLimit - outstanding) 0

/-- The first due date, from the wallet's billing cycle or else from the client. -/
def resolveFirstDueDate (zone : Zone) (input : CreateTransactionInput) (wallet : Wallet)
    (date : Instant) : Except Failure String :=
  -- A wallet without a full billing cycle takes the date that the client sends.
  match wallet.cutoffDay.filter (· ≠ 0), wallet.paymentDueDay.filter (· ≠ 0) with
  | some cutoffDay, some paymentDueDay =>
    (calculateFirstDueDate
      { transactionDate := formatReportingDate date zone
        cutoffDay
        paymentDueDay
        timeZone := "Asia/Jakarta" }).mapError Failure.thrown
  | _, _ =>
    match input.firstDueDate.filter (· ≠ "") with
    | some firstDueDate => .ok firstDueDate
    | none => .error (.service
      "firstDueDate wajib diisi jika cutoff atau tanggal jatuh tempo belum diatur" 400 "BAD_REQUEST")

/-- The row of a new instalment. -/
def creditInstallment (input : CreateTransactionInput) (walletId : Id) (date : Instant)
    (mode : BillKind) (months : Int) (rate : Decimal) (plan : InstallmentPlan)
    (nextDueDate : Instant) (id : Id) : Installment :=
  { id
    userId := input.userId
    walletId
    totalAmount := plan.totalAmount
    interestRate := rate
    totalInterest := plan.totalInterest
    grandTotal := plan.grandTotal
    installmentMonths := months
    currentTerm := 1
    monthlyAmount := plan.monthlyAmount
    kind := mode
    paidTerms := 0
    nextDueDate
    status := .active
    startDate := date
    description := input.description
    balanceDeducted := false }

/-- The row of a new credit purchase, which stores the monthly portion. -/
def creditRow (now : Instant) (input : CreateTransactionInput) (walletId : Id) (date : Instant)
    (plan : InstallmentPlan) (installmentId id : Id) : Transaction :=
  { id
    userId := input.userId
    walletId
    toWalletId := none
    categoryId := input.categoryId.truthy
    type := .expense
    amount := plan.monthlyAmount
    description := input.description
    date
    isInstallment := true
    installmentId := some installmentId
    createdAt := now }

/-- The atomic write of a credit purchase: its instalment, its row, and the full debt on the wallet. -/
def writeCredit (now : Instant) (input : CreateTransactionInput) (walletId : Id) (date : Instant)
    (mode : BillKind) (months : Int) (rate : Decimal) (plan : InstallmentPlan)
    (nextDueDate : Instant) : Tx TransactionWithRelations := do
  let installment ← Tx.createInstallment
    (creditInstallment input walletId date mode months rate plan nextDueDate)
  let created ← Tx.createTransaction (creditRow now input walletId date plan installment.id)
  let included ← Tx.view fun s => s.includeTransaction created
  -- The full debt is locked on the wallet at once.
  let _ ← Tx.incrementBalance walletId (-plan.grandTotal)
  let _ ← Tx.updateInstallment installment.id fun row => { row with balanceDeducted := true }
  return included

/-- The credit branch of a purchase, from its billing mode to its write. -/
def createCredit (zone : Zone) (now : Instant) (input : CreateTransactionInput) (wallet : Wallet)
    (amount : Numeric) (walletId : Id) (date : Instant) : Service TransactionWithRelations := do
  -- The term is checked before the rate, and the rate before the date and the limit.
  let months ← orThrow (resolveMonths input) (.service "Tenor tagihan tidak valid" 400 "BAD_REQUEST")
  throwIf (resolveBillingMode input = some .installment ∧ months < 2)
    (.service "Cicilan harus memiliki minimal 2 termin" 400 "BAD_REQUEST")
  let rate := resolveInterestRate input
  throwIf (rate.IsLess 0) (.service "Bunga tidak boleh negatif" 400 "BAD_REQUEST")
  throwIf (rate.IsGreater 100) (.service "Bunga tidak valid" 400 "BAD_REQUEST")
  let plan ← ofExcept (creditPlan amount rate months)
  let firstDueDate ← ofExcept (resolveFirstDueDate zone input wallet date)
  let nextDueDate ← ofExcept (businessDate (some firstDueDate) zone now)
  -- The limit is compared with what was read of the wallet, outside the write.
  throwIf (exceedsCredit amount rate plan (remainingCredit wallet))
    (.service "Limit kredit tidak mencukupi" 400 "INSUFFICIENT_CREDIT")
  -- A mode, a rate or a plan the columns cannot hold is refused by the database client.
  let mode ← orThrow (resolveBillingMode input) .validation
  let interestRate ← ofExcept (columnValue rate)
  let plan ← orThrow plan .validation
  commit rethrowCreate
    (writeCredit now input walletId date mode months interestRate plan nextDueDate)

end TransactionService

/--
The amounts of a credit purchase are in cents by the time they are written, so its write takes no column.
-/
def createTransaction (zone : Zone) (now : Instant) (input : CreateTransactionInput)
    (column : Decimal → Decimal := id) : Service TransactionWithRelations := do
  -- The wallet is resolved before the type and the amount are looked at.
  let walletId ← resolveWalletId input
  let type ← orThrow input.type
    (.service "type is required and must be one of: INCOME, EXPENSE, TRANSFER" 400 "BAD_REQUEST")
  let amount ← orThrow (positiveAmount input.amount)
    (.service "amount is required and must be a positive number" 400 "BAD_REQUEST")
  throwIf (type = .transfer ∧ input.toWalletId.truthy = none)
    (.service "toWalletId is required for TRANSFER transactions" 400 "BAD_REQUEST")
  throwIf (type = .transfer ∧ input.toWalletId.truthy = some walletId)
    (.service "Wallet asal dan tujuan tidak boleh sama" 400 "INVALID_TRANSFER")
  let parsedDate ← ofExcept (businessDate input.date zone now)
  -- From here on the checks depend on the wallet, on what is read of it.
  let found ← query fun s => s.ownWallet walletId input.userId
  let wallet ← orThrow found (.service "Wallet tidak ditemukan" 404 "NOT_FOUND")
  throwIf (type = .transfer ∧ ¬wallet.type.isAsset)
    (.service "Sumber transfer harus Kas, Bank, atau E-Wallet" 400 "INVALID_TRANSFER")
  -- The balance is the one that was read, and it is not looked at again in the write.
  throwIf (type = .transfer ∧ amount.IsGreater wallet.balance)
    (.service "Saldo sumber tidak mencukupi" 400 "INSUFFICIENT_FUNDS")
  verifyDestination input.userId input.toWalletId.truthy type
  throwIf (type = .transfer ∧ input.categoryId.truthy.isSome)
    (.service "Transfer tidak menggunakan kategori" 400 "BAD_REQUEST")
  throwIf (type ≠ .transfer ∧ input.categoryId.truthy = none)
    (.service "categoryId wajib diisi untuk pemasukan dan pengeluaran" 400 "BAD_REQUEST")
  verifyCategory input.userId input.categoryId.truthy type
  -- Wallets of the kinds that owe money take no income, and a loan takes no expense.
  throwIf (type = .expense ∧ wallet.type = .loan)
    (.service "Pinjaman tidak dapat digunakan sebagai sumber pengeluaran" 400 "BAD_REQUEST")
  throwIf (type = .income ∧ classifyWalletForNetWorth wallet.type = .debt)
    (.service ("Pemasukan tidak bisa dicatat ke wallet utang (kartu kredit, paylater, " ++
      "atau pinjaman)") 400 "BAD_REQUEST")
  throwIf (input.billingMode ≠ .omitted ∧ ¬(type = .expense ∧ wallet.type.isCredit))
    (.service "Mode tagihan hanya tersedia untuk kartu kredit dan paylater" 400 "BAD_REQUEST")
  -- Expenses of credit wallets become instalments, all others are posted as they are.
  if type = .expense ∧ wallet.type.isCredit then
    createCredit zone now input wallet amount walletId parsedDate
  else do
    let amountDecimal ← ofExcept (columnValue amount)
    commit rethrowCreate (writeRegular now input type amountDecimal walletId parsedDate column)

/-- What a client sends to update a transaction; omitted fields keep their stored values. -/
structure UpdateTransactionInput where
  userId : Id
  id : Id
  type : Arg FinancialTxType := .omitted
  amount : Option DecimalInput := none
  description : Option String := none
  date : Option String := none
  categoryId : Arg Id := .omitted
  walletId : Arg Id := .omitted
  toWalletId : Arg Id := .omitted
  isInstallment : Bool := false

namespace TransactionService

/-- `walletId ?? existing.walletId`; an empty string names no wallet. -/
def newWalletId (input : UpdateTransactionInput) (existing : Transaction) : Option Id :=
  match input.walletId with
  | .omitted => some existing.walletId
  | .invalid => none
  | .given id => some id

/-- The destination after an update: only transfers have one. -/
def newToWalletId (input : UpdateTransactionInput) (existing : Transaction)
    (newType : FinancialTxType) : Option Id :=
  if newType = .transfer then
    match input.toWalletId with
    | .omitted => existing.toWalletId
    | .invalid => none
    | .given id => some id
  else none

/-- The wallet of an income or an expense must be the user's, and an income's must be an asset. -/
def verifyTarget (input : UpdateTransactionInput) (newType : FinancialTxType)
    (newWalletId : Option Id) : Service Unit :=
  -- An expense whose wallet is not sent keeps the wallet it has, unchecked.
  if newType ≠ .transfer ∧ (input.walletId.truthy.isSome ∨ newType = .income) then do
    let found ← query fun s => newWalletId.bind fun id => s.ownWallet id input.userId
    let targetWallet ← orThrow found (.service "Wallet tidak ditemukan" 404 "WALLET_NOT_FOUND")
    throwIf (newType = .income ∧ classifyWalletForNetWorth targetWallet.type = .debt)
      (.service ("Pemasukan tidak bisa dicatat ke wallet utang (kartu kredit, paylater, " ++
        "atau pinjaman)") 400 "BAD_REQUEST")
  else return ()

/-- Both wallets of a transfer must be the user's, and its source must hold the amount. -/
def verifyTransfer (input : UpdateTransactionInput) (newType : FinancialTxType)
    (newAmount : Numeric) (newWalletId newToWalletId : Option Id) : Service Unit :=
  if newType = .transfer then do
    throwIf (newToWalletId = none)
      (.service "toWalletId is required for TRANSFER transactions" 400 "INVALID_TRANSFER")
    throwIf (newToWalletId = newWalletId)
      (.service "Wallet asal dan tujuan tidak boleh sama" 400 "INVALID_TRANSFER")
    let foundSource ← query fun s => newWalletId.bind fun id => s.ownWallet id input.userId
    let sourceWallet ← orThrow foundSource
      (.service "Wallet tidak ditemukan" 404 "WALLET_NOT_FOUND")
    throwIf (¬sourceWallet.type.isAsset)
      (.service "Sumber transfer harus Kas, Bank, atau E-Wallet" 400 "INVALID_TRANSFER")
    -- The balance that was read still holds the old effect of the transaction.
    throwIf (newAmount.IsGreater sourceWallet.balance)
      (.service "Saldo sumber tidak mencukupi" 400 "INSUFFICIENT_FUNDS")
    let foundDest ← query fun s => newToWalletId.bind fun id => s.ownWallet id input.userId
    let _destWallet ← orThrow foundDest
      (.service "Wallet tujuan tidak ditemukan" 404 "WALLET_NOT_FOUND")
    return ()
  else return ()

/-- The new value of a transaction row, from the row as it is when it is written. -/
def updatedRow (input : UpdateTransactionInput) (newType : FinancialTxType) (newAmount : Decimal)
    (newWalletId : Id) (newToWalletId : Option Id) (date : Option Instant) (row : Transaction) :
    Transaction :=
  { row with
    type := input.type.truthy.getD row.type
    amount := if input.amount.isSome then newAmount else row.amount
    description := input.description.orElse fun _ => row.description
    date := date.getD row.date
    -- A transfer loses its category, and any other row keeps its own unless one is sent.
    categoryId := if newType = .transfer then none
      else (input.categoryId.truthy.orElse fun _ => row.categoryId)
    walletId := if input.walletId = .omitted then row.walletId else newWalletId
    toWalletId := newToWalletId }

/-- The atomic write of an update: reverse what was read, update the row, apply the new effect. -/
def writeUpdate (input : UpdateTransactionInput) (existing : Transaction) (newType : FinancialTxType)
    (newAmount : Numeric) (date : Option Instant) (column : Decimal → Decimal := id) :
    Tx TransactionWithRelations := do
  -- The reversal is computed from the row that was read before the write.
  let reversal ← Tx.lift (reverseBalanceEffect
    { type := existing.type
      amount := existing.amount
      walletId := existing.walletId
      toWalletId := existing.toWalletId })
  applyBalanceDeltas reversal column
  let amount ← fun s => (columnValue newAmount).map fun value => (value, s)
  let toWalletId := newToWalletId input existing newType
  -- An empty string names no wallet, which the foreign key refuses.
  match newWalletId input existing with
  | none => Tx.refuse (.prisma "P2003")
  | some walletId =>
    let updated ← Tx.updateTransaction input.id
      (updatedRow input newType (column amount) walletId toWalletId date)
    let included ← Tx.view fun s => s.includeTransaction updated
    let effect ← Tx.lift (computeBalanceEffect { type := newType, amount, walletId, toWalletId })
    applyBalanceDeltas effect column
    return included

end TransactionService

def updateTransaction (zone : Zone) (now : Instant) (input : UpdateTransactionInput)
    (column : Decimal → Decimal := id) : Service TransactionWithRelations := do
  throwIf (input.type = .invalid)
    (.service "Invalid type. Allowed: INCOME, EXPENSE, TRANSFER" 400 "BAD_REQUEST")
  throwIf (input.amount.isSome ∧ positiveAmount input.amount = none)
    (.service "amount must be a positive number" 400 "INVALID_AMOUNT")
  -- An empty date counts as one that is not sent.
  let parsedDate ← ofExcept (match input.date.filter (· ≠ "") with
    | none => .ok none
    | some date => (businessDate (some date) zone now).map some)
  let found ← query fun s => s.ownTransaction input.id input.userId
  let existing ← orThrow found (.service
    ("Transaction with id " ++ toString input.id ++ " not found") 404 "TRANSACTION_NOT_FOUND")
  throwIf existing.isInstallment
    (.service "Transaksi cicilan tidak bisa diubah langsung" 409 "CONFLICT")
  throwIf input.isInstallment
    (.service "Tidak bisa mengubah transaksi biasa menjadi cicilan" 400 "BAD_REQUEST")
  -- Transfers of old without a destination have no complete effect to reverse.
  throwIf (existing.type = .transfer ∧ existing.toWalletId = none)
    (.service "Transfer lama tidak bisa diubah; hapus lalu buat ulang" 409 "CONFLICT")
  let newType := input.type.truthy.getD existing.type
  let newAmount := (positiveAmount input.amount).getD (.finite existing.amount)
  let newWalletId := newWalletId input existing
  let newToWalletId := newToWalletId input existing newType
  verifyTarget input newType newWalletId
  verifyTransfer input newType newAmount newWalletId newToWalletId
  throwIf (newType = .transfer ∧ input.categoryId.truthy.isSome)
    (.service "Transfer tidak menggunakan kategori" 400 "BAD_REQUEST")
  throwIf (newType ≠ .transfer ∧ input.categoryId = .invalid)
    (.service "categoryId wajib diisi untuk pemasukan dan pengeluaran" 400 "BAD_REQUEST")
  -- Only a category that is sent is checked against the new type.
  verifyCategory input.userId input.categoryId.truthy newType
  commit (rethrowMissing input.id) (writeUpdate input existing newType newAmount parsedDate column)

/-- What a client sends to delete a transaction. -/
structure DeleteTransactionInput where
  userId : Id
  id : Id

namespace TransactionService

/-- The atomic write of a deletion: reverse what was read, then delete the row and its instalment. -/
def writeDelete (input : DeleteTransactionInput) (existing : Transaction)
    (grandTotal : Option Decimal) (column : Decimal → Decimal := id) : Tx Id := do
  if existing.isInstallment then
    -- An instalment that is gone leaves the stored amount as the best that is known.
    let reversal ← Tx.lift (reverseBalanceEffect
      { type := .expense
        amount := existing.amount
        walletId := existing.walletId
        isInstallment := true
        installmentGrandTotal := some (grandTotal.getD existing.amount) })
    applyBalanceDeltas reversal column
    Tx.deleteTransaction input.id
    match existing.installmentId with
    | some installmentId => Tx.deleteInstallment installmentId
    | none => pure ()
  else
    let reversal ← Tx.lift (reverseBalanceEffect
      { type := existing.type
        amount := existing.amount
        walletId := existing.walletId
        toWalletId := existing.toWalletId })
    applyBalanceDeltas reversal column
    Tx.deleteTransaction input.id
  return input.id

end TransactionService

def deleteTransaction (input : DeleteTransactionInput) (column : Decimal → Decimal := id) : Service Id := do
  let found ← query fun s => (s.ownTransaction input.id input.userId).map fun row =>
    (row, row.installmentId.bind s.grandTotal)
  let (existing, grandTotal) ← orThrow found (.service
    ("Transaction with id " ++ toString input.id ++ " not found") 404 "TRANSACTION_NOT_FOUND")
  throwIf (existing.type = .transfer ∧ existing.toWalletId = none)
    (.service "Transfer lama tidak bisa dihapus otomatis; sesuaikan saldo manual" 409 "CONFLICT")
  commit (rethrowMissing input.id) (writeDelete input existing grandTotal column)

end PocketMint
