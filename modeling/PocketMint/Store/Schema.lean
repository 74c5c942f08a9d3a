import PocketMint.Relational.Table
import PocketMint.Js.Date
import PocketMint.Domain.TransactionBalance
import PocketMint.Domain.Financial

/-! The database schema: rows, tables, and the views of them the services read. -/

namespace PocketMint

inductive CategoryType where
  | income
  | expense
  deriving DecidableEq

/-- The kind of transaction a kind of category is for. -/
def CategoryType.transactionType : CategoryType → FinancialTxType
  | income => .income
  | expense => .expense

inductive AdminFeeType where
  | flat
  | percent
  deriving DecidableEq

inductive InstallmentStatus where
  | active
  | settled
  | cancelled
  deriving DecidableEq

inductive BillKind where
  | full
  | installment
  deriving DecidableEq

inductive RecurrenceFrequency where
  | daily
  | weekly
  | monthly
  | yearly
  deriving DecidableEq

inductive RecurringAmountMode where
  | fixed
  | flexible
  deriving DecidableEq

structure Category where
  id : Id
  userId : Id
  name : String
  type : CategoryType
  deriving DecidableEq

structure Wallet where
  id : Id
  userId : Id
  name : String
  type : WalletType
  balance : Decimal
  creditLimit : Decimal
  initialBalance : Decimal
  icon : Option String
  color : Option String
  interestRate : Decimal
  isArchived : Bool
  adminFee : Decimal
  adminFeeType : AdminFeeType
  cutoffDay : Option Int
  paymentDueDay : Option Int
  createdAt : Instant
  deriving DecidableEq

structure Transaction where
  id : Id
  userId : Id
  walletId : Id
  /-- The destination of a transfer; a legacy transfer has none. -/
  toWalletId : Option Id
  categoryId : Option Id
  type : FinancialTxType
  amount : Decimal
  description : Option String
  isInstallment : Bool
  installmentId : Option Id
  date : Instant
  createdAt : Instant
  deriving DecidableEq

structure Installment where
  id : Id
  userId : Id
  walletId : Id
  totalAmount : Decimal
  interestRate : Decimal
  totalInterest : Decimal
  grandTotal : Decimal
  installmentMonths : Int
  currentTerm : Int
  monthlyAmount : Decimal
  kind : BillKind
  paidTerms : Int
  nextDueDate : Instant
  status : InstallmentStatus
  startDate : Instant
  description : Option String
  balanceDeducted : Bool
  deriving DecidableEq

/-- Whether the amounts of an instalment are within the range of their `Decimal(15, 2)` columns. -/
def Installment.Fits (row : Installment) : Prop :=
  ∀ amount ∈ [row.totalAmount, row.totalInterest, row.grandTotal, row.monthlyAmount],
    |amount| < 10 ^ 13

instance : DecidablePred Installment.Fits := fun _ => by
  unfold Installment.Fits; infer_instance

structure RecurringTransactionTemplate where
  id : Id
  userId : Id
  walletId : Id
  categoryId : Option Id
  name : String
  type : FinancialTxType
  amountMode : RecurringAmountMode
  amount : Option Decimal
  description : Option String
  frequency : RecurrenceFrequency
  startDate : Instant
  endDate : Option Instant
  isActive : Bool
  reminderEnabled : Bool
  reminderOffsetDays : Option Int
  deriving DecidableEq

/-- One reminder, of a template's occurrence or of an instalment's due date. -/
structure RecurringReminderEvent where
  id : Id
  templateId : Option Id
  installmentId : Option Id
  userId : Id
  occurrenceDate : Instant
  offsetDays : Int
  reminderDate : Instant
  readAt : Option Instant
  /-- Absent while the reminder waits, and set when a transaction was made from it. -/
  completedAt : Option Instant
  generatedTransactionId : Option Id
  deriving DecidableEq

instance : Keyed Category := ⟨Category.id⟩
instance : Keyed Wallet := ⟨Wallet.id⟩
instance : Keyed Transaction := ⟨Transaction.id⟩
instance : Keyed Installment := ⟨Installment.id⟩
instance : Keyed RecurringTransactionTemplate := ⟨RecurringTransactionTemplate.id⟩
instance : Keyed RecurringReminderEvent := ⟨RecurringReminderEvent.id⟩

/-- The database. Row identifiers are drawn from one counter, so none is ever used twice. -/
@[ext] structure Store where
  nextId : Id
  categories : Table Category
  wallets : Table Wallet
  transactions : Table Transaction
  installments : Table Installment
  templates : Table RecurringTransactionTemplate
  events : Table RecurringReminderEvent

/-- The database before the first request. -/
def Store.empty : Store :=
  { nextId := 0
    categories := .empty
    wallets := .empty
    transactions := .empty
    installments := .empty
    templates := .empty
    events := .empty }

namespace Store

variable (s : Store)

/-! Reads scoped to a user: `findFirst({ where: { id, userId } })`. -/

def ownWallet (id userId : Id) : Option Wallet :=
  (s.wallets.find? id).filter fun row => row.userId = userId

def ownCategory (id userId : Id) : Option Category :=
  (s.categories.find? id).filter fun row => row.userId = userId

def ownTransaction (id userId : Id) : Option Transaction :=
  (s.transactions.find? id).filter fun row => row.userId = userId

def ownInstallment (id userId : Id) : Option Installment :=
  (s.installments.find? id).filter fun row => row.userId = userId

def ownTemplate (id userId : Id) : Option RecurringTransactionTemplate :=
  (s.templates.find? id).filter fun row => row.userId = userId

def ownEvent (id userId : Id) : Option RecurringReminderEvent :=
  (s.events.find? id).filter fun row => row.userId = userId

/-- The grand total of an instalment, as reconciliation and reports look it up. -/
def grandTotal (installmentId : Id) : Option Decimal :=
  (s.installments.find? installmentId).map Installment.grandTotal

end Store

/-! The parts of related rows that a response includes. -/

/-- `wallet: { select: { id, name, type } }`. -/
structure WalletRef where
  id : Id
  name : String
  type : WalletType
  deriving DecidableEq

/-- `category: { select: { id, name, type } }`. -/
structure CategoryRef where
  id : Id
  name : String
  type : CategoryType
  deriving DecidableEq

def Wallet.ref (row : Wallet) : WalletRef := ⟨row.id, row.name, row.type⟩

def Category.ref (row : Category) : CategoryRef := ⟨row.id, row.name, row.type⟩

/-- A transaction with the relations every response of it includes. -/
structure TransactionWithRelations where
  transaction : Transaction
  wallet : Option WalletRef
  category : Option CategoryRef
  deriving DecidableEq

/-- Join a transaction with its wallet and category. -/
def Store.includeTransaction (s : Store) (row : Transaction) : TransactionWithRelations :=
  { transaction := row
    wallet := (s.wallets.find? row.walletId).map Wallet.ref
    category := row.categoryId.bind fun id => (s.categories.find? id).map Category.ref }

/-- The row as reconciliation reads it. -/
def Transaction.ledger (row : Transaction) : LedgerTransaction :=
  { row with }

/-- The wallet as reconciliation reads it. -/
def Wallet.snapshot (row : Wallet) : WalletSnapshot :=
  { row with }

end PocketMint
