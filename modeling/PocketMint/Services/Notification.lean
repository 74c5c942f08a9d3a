import Mathlib.Data.List.Sort
import PocketMint.Relational.Pages
import PocketMint.Services.ReminderEngine

/-! The notification service: listing reminders, reading one, and confirming it into a transaction. -/

namespace PocketMint

open Prog (query throwIf orThrow ofExcept)

open TransactionService (positiveAmount)

/-- The parts of a template that a notification includes. -/
structure TemplateRef where
  id : Id
  name : String
  type : FinancialTxType
  amountMode : RecurringAmountMode
  amount : Option Decimal
  walletId : Id
  categoryId : Option Id
  deriving DecidableEq

def RecurringTransactionTemplate.ref (row : RecurringTransactionTemplate) : TemplateRef :=
  { row with }

/-- The parts of an instalment that a notification includes. -/
structure InstallmentRef where
  id : Id
  description : Option String
  monthlyAmount : Decimal
  nextDueDate : Instant
  status : InstallmentStatus
  walletName : Option String
  deriving DecidableEq

/-- A reminder with the relations every response of it includes. -/
structure NotificationWithTemplate where
  event : RecurringReminderEvent
  template : Option TemplateRef
  installment : Option InstallmentRef
  deriving DecidableEq

/-- Join an instalment with its wallet's name. -/
def Store.includeInstallment (s : Store) (row : Installment) : InstallmentRef :=
  { row with walletName := (s.wallets.find? row.walletId).map Wallet.name }

/-- Join a reminder with its template and instalment. -/
def Store.includeEvent (s : Store) (row : RecurringReminderEvent) : NotificationWithTemplate :=
  { event := row
    template := row.templateId.bind fun id =>
      (s.templates.find? id).map RecurringTransactionTemplate.ref
    installment := row.installmentId.bind fun id =>
      (s.installments.find? id).map s.includeInstallment }

/-- The reminders that a list is about. -/
inductive NotificationFilter where
  | all
  | unread
  deriving DecidableEq

structure ListNotificationsInput where
  userId : Id
  page : Option Numeric := none
  limit : Option Numeric := none
  filter : Option NotificationFilter := none

structure PaginationMeta where
  page : Nat
  limit : Nat
  total : Nat
  totalPages : Nat
  hasMore : Bool
  deriving DecidableEq

structure ListNotificationsResult where
  items : List NotificationWithTemplate
  pagination : PaginationMeta
  deriving DecidableEq

namespace NotificationService

def defaultPage : Nat := 1

def defaultLimit : Nat := 10

def maxLimit : Nat := 100

/-- `Number.isInteger(value) && value > 0`, with the number. -/
def positiveInteger (value : Option Numeric) : Option Nat :=
  ((value.bind Numeric.toInteger).filter fun number => 0 < number).map Int.toNat

/-- The page and the limit that a list goes by; what is no positive integer counts as left out. -/
def resolvePagination (page limit : Option Numeric) : Nat × Nat :=
  ((positiveInteger page).getD defaultPage,
    ((positiveInteger limit).map fun number => min number maxLimit).getD defaultLimit)

/-- `where: { userId, ...(filter === 'unread' && { readAt: null }) }`. -/
def Listed (userId : Id) (filter : Option NotificationFilter) (row : RecurringReminderEvent) : Prop :=
  row.userId = userId ∧ (filter = some .unread → row.readAt = none)

instance (userId : Id) (filter : Option NotificationFilter) : DecidablePred (Listed userId filter) :=
  fun row => inferInstanceAs
    (Decidable (row.userId = userId ∧ (filter = some .unread → row.readAt = none)))

/-- `orderBy: [{ reminderDate: 'desc' }, { id: 'desc' }]`. -/
def NotBefore (row other : RecurringReminderEvent) : Prop :=
  other.reminderDate < row.reminderDate ∨ other.reminderDate = row.reminderDate ∧ other.id ≤ row.id

instance : DecidableRel NotBefore := fun row other =>
  inferInstanceAs (Decidable
    (other.reminderDate < row.reminderDate ∨ other.reminderDate = row.reminderDate ∧ other.id ≤ row.id))

end NotificationService

namespace Store

open NotificationService

/-- The rows of `findMany({ where, orderBy })`. -/
def listedEvents (s : Store) (userId : Id) (filter : Option NotificationFilter) :
    List RecurringReminderEvent :=
  (s.events.rows.filter fun row => Listed userId filter row).insertionSort NotBefore

end Store

open NotificationService in
def listNotifications (input : ListNotificationsInput) : Service ListNotificationsResult := do
  let (page, limit) := resolvePagination input.page input.limit
  let items ← query fun s =>
    -- Pages are counted from one, and items are skipped in the order of the list.
    (pageAt limit (s.listedEvents input.userId input.filter) (page - 1)).map s.includeEvent
  let total ← query fun s => s.events.rows.countP fun row => Listed input.userId input.filter row
  -- An empty list has one page.
  let totalPages := max 1 ⌈(total : ℚ) / limit⌉₊
  return { items, pagination := { page, limit, total, totalPages, hasMore := page < totalPages } }

/-- What a client sends to mark a reminder as read. -/
structure MarkNotificationReadInput where
  userId : Id
  id : Id

def markNotificationRead (now : Instant) (input : MarkNotificationReadInput) :
    Service NotificationWithTemplate := do
  let found ← query fun s => s.ownEvent input.id input.userId
  let existing ← orThrow found (.service "Notifikasi tidak ditemukan" 404 "NOT_FOUND")
  -- What was read before keeps its time.
  if existing.readAt.isSome then do
    let again ← query fun s => (s.events.find? input.id).map s.includeEvent
    orThrow again (.prisma "P2025")
  else
    commit id (do
      let updated ← Tx.updateEvent input.id fun row => { row with readAt := some now }
      Tx.view fun s => s.includeEvent updated)

/-- Mark every unread reminder of a user as read, and count them. -/
def markAllNotificationsRead (now : Instant) (userId : Id) : Service Nat :=
  commit id fun s =>
    .ok (s.events.rows.countP fun row => row.userId = userId && row.readAt.isNone,
      { s with
        events := s.events.mapRows fun row =>
          { row with readAt := if row.userId = userId && row.readAt.isNone then some now else row.readAt } })

/-- Evaluate the user's reminders for today, and list the first page. -/
def refreshNotifications (zone : Zone) (now : Instant) (userId : Id) : Service ListNotificationsResult := do
  let today := formatReportingDate now zone
  -- What the evaluation records is there when the page is read.
  let _events ← evaluateReminders zone now today (some userId)
  listNotifications { userId }

/-- What a client sends to confirm a reminder. -/
structure ConfirmReminderInput where
  userId : Id
  id : Id
  amount : Option DecimalInput := none

/-- A confirmed reminder and the transaction made from it. -/
structure ConfirmReminderResult where
  notification : NotificationWithTemplate
  transaction : TransactionWithRelations
  deriving DecidableEq

namespace NotificationService

def alreadyProcessed : Failure :=
  .service "Pengingat ini sudah diproses" 409 "ALREADY_PROCESSED"

/-- The amount of a confirmed reminder: the template's own, or the one that is sent. -/
def confirmedAmount (template : TemplateRef) (amount : Option DecimalInput) :
    Except Failure Numeric :=
  match template.amountMode with
  -- A fixed amount is never asked for.
  | .fixed => .ok (.finite (template.amount.getD 0))
  | .flexible =>
    match positiveAmount amount with
    | some number => .ok number
    | none => .error
      (.service "amount is required and must be a positive number" 400 "INVALID_AMOUNT")

/-- Complete a reminder that still waits, and count how many rows that affected. -/
def completeEvent (now : Instant) (input : ConfirmReminderInput) (transactionId : Id) : Tx Nat :=
  fun s =>
    -- The guard and the write are one statement, so that only one of two confirmations finds the row.
    match (s.ownEvent input.id input.userId).filter fun row => row.completedAt = none with
    | none => .ok (0, s)
    | some _ => .ok (1, { s with
        events := s.events.update input.id fun row =>
          { row with completedAt := some now, generatedTransactionId := some transactionId } })

/-- The row of a confirmed reminder. -/
def confirmedRow (now : Instant) (input : ConfirmReminderInput) (template : TemplateRef)
    (categoryId : Id) (amount : Decimal) (id : Id) : Transaction :=
  { id
    userId := input.userId
    walletId := template.walletId
    toWalletId := none
    categoryId := some categoryId
    type := template.type
    amount
    description := some template.name
    date := now
    isInstallment := false
    installmentId := none
    createdAt := now }

/-- The atomic write of a confirmation: the transaction, its effect, and the guarded completion. -/
def writeConfirm (now : Instant) (input : ConfirmReminderInput) (template : TemplateRef)
    (categoryId : Id) (amount : Decimal) (column : Decimal → Decimal := id) : Tx ConfirmReminderResult := do
  let created ← Tx.createTransaction (confirmedRow now input template categoryId (column amount))
  let transaction ← Tx.view fun s => s.includeTransaction created
  let effect ← Tx.lift (computeBalanceEffect
    { type := template.type, amount, walletId := template.walletId })
  applyBalanceDeltas effect column
  -- A concurrent confirmation that came first leaves no row to complete, and everything is undone.
  let count ← completeEvent now input created.id
  if count = 0 then Tx.refuse alreadyProcessed
  else
    let event ← Tx.view fun s => (s.events.find? input.id).map s.includeEvent
    match event with
    | none => Tx.refuse (.prisma "P2025")
    | some notification => return { notification, transaction }

end NotificationService

open NotificationService

def confirmReminder (now : Instant) (input : ConfirmReminderInput) (column : Decimal → Decimal := id) :
    Service ConfirmReminderResult := do
  let found ← query fun s => (s.ownEvent input.id input.userId).map s.includeEvent
  let existing ← orThrow found (.service "Notifikasi tidak ditemukan" 404 "NOT_FOUND")
  throwIf existing.event.completedAt.isSome alreadyProcessed
  throwIf existing.event.installmentId.isSome
    (.service "Gunakan pembayaran cicilan di halaman Tagihan" 400 "USE_INSTALLMENT_PAYMENT")
  let template ← orThrow existing.template
    (.service "Transaksi rutin tidak ditemukan" 404 "TEMPLATE_NOT_FOUND")
  let number ← ofExcept (confirmedAmount template input.amount)
  let foundWallet ← query fun s => s.ownWallet template.walletId input.userId
  let _wallet ← orThrow foundWallet (.service "Wallet tidak ditemukan" 404 "WALLET_NOT_FOUND")
  let categoryId ← orThrow template.categoryId
    (.service "Kategori wajib diisi untuk transaksi ini" 400 "CATEGORY_REQUIRED")
  let foundCategory ← query fun s => s.ownCategory categoryId input.userId
  let _category ← orThrow foundCategory
    (.service "Kategori tidak ditemukan" 404 "CATEGORY_NOT_FOUND")
  let amount ← ofExcept (columnValue number)
  commit id (writeConfirm now input template categoryId amount column)

end PocketMint
