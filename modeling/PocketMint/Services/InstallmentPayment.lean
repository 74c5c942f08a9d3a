import PocketMint.Services.Transaction

/-! The instalment payment service: one term of a bill, paid from a cash, bank or e-wallet account. -/

namespace PocketMint

open Prog (query throwIf orThrow ofExcept)

open TransactionService (businessDate)

/-- What a client sends to pay the next term of an instalment. -/
structure PayInstallmentInput where
  userId : Id
  installmentId : Id
  sourceWalletId : Arg Id
  amount : Option DecimalInput := none
  date : Option String := none

/-- A payment, with the relations its response includes. -/
structure PayInstallmentResult where
  transaction : Transaction
  wallet : Option WalletRef
  toWallet : Option WalletRef
  installment : Installment
  installmentWallet : Option WalletRef
  deriving DecidableEq

namespace InstallmentPaymentService

/-- Whether the next payment is the last one. -/
def isFinalTerm (installment : Installment) : Bool :=
  installment.installmentMonths ≤ installment.paidTerms + 1

/-- The amount of the next term; the last one absorbs the rounding remainder. -/
def expectedAmount (installment : Installment) : Decimal :=
  if isFinalTerm installment then
    computeFinalMonthlyAmount installment.grandTotal installment.monthlyAmount
      installment.installmentMonths
  else installment.monthlyAmount

/-- The amount to pay: the term's own, or one sent that must equal it. -/
def paymentAmount (installment : Installment) (amount : Option DecimalInput) :
    Except Failure Decimal :=
  let expected := expectedAmount installment
  let invalid : Failure :=
    .service "amount is required and must be a positive number" 400 "INVALID_AMOUNT"
  match amount with
  -- A client that names no amount pays what is due.
  | none => if expected ≤ 0 then .error invalid else .ok expected
  | some sent =>
    match sent.decimal with
    | none => .error invalid
    | some .negInfinity => .error invalid
    | some (.finite value) =>
      if value ≤ 0 then .error invalid
      else if value = expected then .ok value
      else .error (.service "Jumlah pembayaran harus sama dengan nominal termin" 400 "INVALID_AMOUNT")
    -- Neither an infinity nor `NaN` is at most zero, and neither equals a term's amount.
    | some _ =>
      .error (.service "Jumlah pembayaran harus sama dengan nominal termin" 400 "INVALID_AMOUNT")

/-- The due date after a payment; a settled instalment keeps its last one. -/
def nextDueDate (zone : Zone) (now : Instant) (installment : Installment) : Except Failure Instant :=
  if isFinalTerm installment then .ok installment.nextDueDate
  else
    let next := do
      -- The text of the day is moved by a month, and read back as a midnight of the zone.
      let due ← addBillingMonth (formatReportingDate installment.nextDueDate zone) 1
      parseBusinessDate (some due) zone now
    next.mapError Failure.thrown

/-- The instalment after its next term is paid, from the row the request has read. -/
def advanced (installment : Installment) (due : Instant) (row : Installment) : Installment :=
  { row with
    -- The progress is computed from the row that was read, and then written whole.
    currentTerm := min (installment.paidTerms + 2) installment.installmentMonths
    paidTerms := installment.paidTerms + 1
    nextDueDate := due
    status := if isFinalTerm installment then .settled else .active }

/-- The row of a payment. -/
def paymentRow (now : Instant) (input : PayInstallmentInput) (sourceWalletId : Id)
    (installment : Installment) (walletName : String) (amount : Decimal) (date : Instant) (id : Id) :
    Transaction :=
  let described := installment.description.filter (· ≠ "")
  { id
    userId := input.userId
    walletId := sourceWalletId
    toWalletId := some installment.walletId
    categoryId := none
    type := .transfer
    amount
    description := some ("Pembayaran tagihan — " ++ described.getD walletName)
    date
    isInstallment := false
    installmentId := none
    createdAt := now }

/-- The atomic write of a payment: its transfer, both balances, and the instalment's progress. -/
def writePayment (now : Instant) (input : PayInstallmentInput) (sourceWalletId : Id)
    (installment : Installment) (walletName : String) (amount : Decimal) (date due : Instant) :
    Tx PayInstallmentResult := do
  -- A payment is a transfer onto the wallet that owes.
  let transaction ← Tx.createTransaction
    (paymentRow now input sourceWalletId installment walletName amount date)
  let wallet ← Tx.view fun s => (s.wallets.find? sourceWalletId).map Wallet.ref
  let toWallet ← Tx.view fun s => (s.wallets.find? installment.walletId).map Wallet.ref
  let effect ← Tx.lift (computeBalanceEffect
    { type := .transfer
      amount
      walletId := sourceWalletId
      toWalletId := some installment.walletId })
  applyBalanceDeltas effect
  -- The instalment takes its progress in the same transaction as the balances.
  let updated ← Tx.updateInstallment installment.id (advanced installment due)
  let installmentWallet ← Tx.view fun s => (s.wallets.find? updated.walletId).map Wallet.ref
  return { transaction, wallet, toWallet, installment := updated, installmentWallet }

end InstallmentPaymentService

open InstallmentPaymentService

def payInstallment (zone : Zone) (now : Instant) (input : PayInstallmentInput) :
    Service PayInstallmentResult := do
  let parsedDate ← ofExcept (businessDate input.date zone now)
  let found ← query fun s => (s.ownInstallment input.installmentId input.userId).map fun row =>
    (row, ((s.wallets.find? row.walletId).map Wallet.name).getD "")
  let (installment, walletName) ← orThrow found (.service "Cicilan tidak ditemukan" 404 "NOT_FOUND")
  -- Neither a settled instalment nor one without terms left is paid.
  throwIf (installment.status ≠ .active) (.service "Cicilan tidak aktif" 409 "CONFLICT")
  throwIf (installment.installmentMonths ≤ installment.paidTerms)
    (.service "Tagihan sudah lunas" 409 "CONFLICT")
  let amount ← ofExcept (paymentAmount installment input.amount)
  -- The source is looked up under the user, so that no one pays from another's wallet.
  let foundSource ← query fun s =>
    input.sourceWalletId.truthy.bind fun id => s.ownWallet id input.userId
  let sourceWallet ← orThrow foundSource
    (.service "Rekening sumber tidak ditemukan" 404 "NOT_FOUND")
  throwIf (¬sourceWallet.type.isAsset)
    (.service "Pembayaran tagihan hanya bisa dari kas, bank, atau e-wallet" 400 "BAD_REQUEST")
  throwIf (sourceWallet.balance < amount)
    (.service "Saldo rekening sumber tidak cukup" 400 "INSUFFICIENT_FUNDS")
  -- The next due date is computed before the write, and a failure leaves everything as it was.
  let due ← ofExcept (nextDueDate zone now installment)
  commit id (writePayment now input sourceWallet.id installment walletName amount parsedDate due)

end PocketMint
