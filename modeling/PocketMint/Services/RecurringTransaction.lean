import PocketMint.Services.Transaction

/-! The recurring transaction service: templates of transactions that repeat. -/

namespace PocketMint

open Prog (query throwIf orThrow ofExcept)

/-- The kinds of transaction a template may stand for. -/
inductive RecurringTransactionType where
  | income
  | expense
  deriving DecidableEq

/-- The kind of transaction a template's kind is stored as. -/
def RecurringTransactionType.transactionType : RecurringTransactionType → FinancialTxType
  | income => .income
  | expense => .expense

/-- A template with the relations every response of it includes. -/
structure RecurringTransactionWithRelations where
  template : RecurringTransactionTemplate
  wallet : Option WalletRef
  category : Option CategoryRef
  deriving DecidableEq

/-- Join a template with its wallet and category. -/
def Store.includeTemplate (s : Store) (row : RecurringTransactionTemplate) :
    RecurringTransactionWithRelations :=
  { template := row
    wallet := (s.wallets.find? row.walletId).map Wallet.ref
    category := row.categoryId.bind fun id => (s.categories.find? id).map Category.ref }

/-- What a client sends to create a template. -/
structure CreateRecurringTransactionInput where
  userId : Id
  name : String
  walletId : Arg Id
  categoryId : Arg Id := .omitted
  /-- Absent when the type is missing or unknown. -/
  type : Option RecurringTransactionType
  amountMode : Option RecurringAmountMode
  amount : Option DecimalInput := none
  description : Option String := none
  frequency : Option RecurrenceFrequency
  startDate : Option String
  endDate : Option String := none
  reminderEnabled : Option Bool := none
  reminderOffsetDays : Field Numeric := .omitted

/-- What a client sends to update a template; omitted fields keep their stored values. -/
structure UpdateRecurringTransactionInput where
  userId : Id
  id : Id
  name : Option String := none
  walletId : Arg Id := .omitted
  categoryId : Arg Id := .omitted
  type : Arg RecurringTransactionType := .omitted
  amountMode : Arg RecurringAmountMode := .omitted
  amount : Option DecimalInput := none
  description : Option String := none
  frequency : Arg RecurrenceFrequency := .omitted
  startDate : Option String := none
  endDate : Option String := none
  isActive : Option Bool := none
  reminderEnabled : Option Bool := none
  reminderOffsetDays : Field Numeric := .omitted

namespace RecurringTransactionService

/-- The lead times a reminder may have, in days. -/
def validReminderOffsetDays : List Int := [0, 1, 3, 7]

/-- The stored reminder: none without a lead time, or one of the lead times when it is enabled. -/
def resolveReminder (reminderEnabled : Bool) (reminderOffsetDays : Option Numeric) :
    Except Failure (Bool × Option Int) :=
  -- A lead time without a reminder is refused, and so is a reminder without one.
  if !reminderEnabled then
    if reminderOffsetDays.isSome then
      .error (.service "reminderOffsetDays must be null when reminderEnabled is false" 400 "BAD_REQUEST")
    else .ok (false, none)
  else
    match (reminderOffsetDays.bind Numeric.toInteger).filter (· ∈ validReminderOffsetDays) with
    | some days => .ok (true, some days)
    | none => .error (.service "reminderOffsetDays is required and must be one of: 0, 1, 3, 7" 400
      "BAD_REQUEST")

/-- The stored amount: none in flexible mode, and a positive number in fixed mode. -/
def resolveAmount (amountMode : RecurringAmountMode) (amount : Option Numeric) :
    Except Failure (Option Numeric) :=
  match amountMode with
  -- In flexible mode an amount that is sent is dropped without a word.
  | .flexible => .ok none
  | .fixed =>
    match amount.filter fun number => number.IsPositive with
    | some number => .ok (some number)
    | none => .error (.service
      "amount is required and must be a positive number when amountMode is FIXED" 400 "BAD_REQUEST")

/-- Parse a date, naming its field in the refusal. -/
def parseDate (value : Option String) (field : String) (zone : Zone) (now : Instant) :
    Except Failure Instant :=
  (parseBusinessDate value zone now).mapError fun message =>
    .service (field ++ ": " ++ message) 400 "BAD_REQUEST"

/-- The value of an optional amount column. -/
def amountColumn : Option Numeric → Except Failure (Option Decimal)
  | none => .ok none
  | some number => (columnValue number).map some

def assertWalletOwnership (userId : Id) (walletId : Option Id) : Service Unit := do
  let found ← query fun s => walletId.bind fun id => s.ownWallet id userId
  let _wallet ← orThrow found (.service "Wallet tidak ditemukan" 404 "NOT_FOUND")
  return ()

def assertCategoryOwnership (userId : Id) (categoryId : Option Id) : Service Unit := do
  let found ← query fun s => categoryId.bind fun id => s.ownCategory id userId
  let _category ← orThrow found (.service "Kategori tidak ditemukan" 404 "NOT_FOUND")
  return ()

/-- A creation checks the category it names. -/
def assertCategoryGiven (userId : Id) (categoryId : Option Id) : Service Unit :=
  match categoryId with
  | some id => assertCategoryOwnership userId (some id)
  | none => return ()

/-- An update checks the wallet it sends, an empty string included. -/
def assertWalletSent (userId : Id) (walletId : Arg Id) : Service Unit :=
  if walletId = .omitted then return () else assertWalletOwnership userId walletId.truthy

/-- An update checks the category it sends, an empty string included. -/
def assertCategorySent (userId : Id) (categoryId : Arg Id) : Service Unit :=
  if categoryId = .omitted then return () else assertCategoryOwnership userId categoryId.truthy

/-- The characters `String.trim` removes. -/
def isWhiteSpace (char : Char) : Bool :=
  Js.isLineBreak char || char ∈ [' ', '\t', '\u000b', '\u000c', '\u00a0', '\u1680', '\u202f', '\u205f',
    '\u3000', '\ufeff'] || ('\u2000' ≤ char && char ≤ '\u200a')

/-- `String.trim`. -/
def trim (text : String) : String :=
  String.ofList ((text.toList.dropWhile isWhiteSpace).reverse.dropWhile isWhiteSpace).reverse

/-- The row of a new template. -/
def newTemplate (input : CreateRecurringTransactionInput) (walletId : Id)
    (type : RecurringTransactionType) (amountMode : RecurringAmountMode) (amount : Option Decimal)
    (frequency : RecurrenceFrequency) (startDate : Instant) (endDate : Option Instant)
    (reminder : Bool × Option Int) (id : Id) : RecurringTransactionTemplate :=
  { id
    userId := input.userId
    name := trim input.name
    walletId
    categoryId := input.categoryId.truthy
    type := type.transactionType
    amountMode
    amount
    description := input.description
    frequency
    startDate
    endDate
    isActive := true
    reminderEnabled := reminder.1
    reminderOffsetDays := reminder.2 }

/-- The new value of a template row, of which mode, amount and reminder are always written. -/
def editedTemplate (input : UpdateRecurringTransactionInput) (amountMode : RecurringAmountMode)
    (amount : Option Decimal) (startDate : Instant) (endDate : Option Instant)
    (reminder : Bool × Option Int) (row : RecurringTransactionTemplate) :
    RecurringTransactionTemplate :=
  { row with
    name := (input.name.map trim).getD row.name
    walletId := input.walletId.truthy.getD row.walletId
    -- What is not sent keeps its stored value.
    categoryId := input.categoryId.truthy.orElse fun _ => row.categoryId
    type := (input.type.truthy.map RecurringTransactionType.transactionType).getD row.type
    amountMode
    amount
    description := input.description.orElse fun _ => row.description
    frequency := input.frequency.truthy.getD row.frequency
    startDate := if input.startDate.isSome then startDate else row.startDate
    endDate := if input.endDate.isSome then endDate else row.endDate
    isActive := input.isActive.getD row.isActive
    reminderEnabled := reminder.1
    reminderOffsetDays := reminder.2 }

end RecurringTransactionService

open RecurringTransactionService

def createRecurringTransaction (zone : Zone) (now : Instant)
    (input : CreateRecurringTransactionInput) : Service RecurringTransactionWithRelations := do
  throwIf (trim input.name = "") (.service "name is required" 400 "BAD_REQUEST")
  let type ← orThrow input.type
    (.service "type is required and must be one of: INCOME, EXPENSE" 400 "BAD_REQUEST")
  let amountMode ← orThrow input.amountMode
    (.service "amountMode is required and must be one of: FIXED, FLEXIBLE" 400 "BAD_REQUEST")
  -- What the client sent is checked before anything is read of the database.
  let amount ← ofExcept (resolveAmount amountMode (input.amount.map DecimalInput.number))
  let frequency ← orThrow input.frequency (.service
    "frequency is required and must be one of: DAILY, WEEKLY, MONTHLY, YEARLY" 400 "BAD_REQUEST")
  let walletId ← orThrow input.walletId.truthy (.service "walletId is required" 400 "BAD_REQUEST")
  let startDate ← ofExcept (parseDate input.startDate "startDate" zone now)
  let endDate ← ofExcept (match input.endDate.filter (· ≠ "") with
    | none => .ok none
    | some text => (parseDate (some text) "endDate" zone now).map some)
  -- Both dates are midnights, so that they compare as days do.
  throwIf (∃ last ∈ endDate, last < startDate)
    (.service "endDate must be on or after startDate" 400 "BAD_REQUEST")
  let reminder ← ofExcept (resolveReminder (input.reminderEnabled.getD false)
    (input.reminderOffsetDays.resolve none))
  -- Wallet and category are looked up last, and only for their owner.
  assertWalletOwnership input.userId (some walletId)
  assertCategoryGiven input.userId input.categoryId.truthy
  let amount ← ofExcept (amountColumn amount)
  commit id (do
    let created ← Tx.createTemplate
      (newTemplate input walletId type amountMode amount frequency startDate endDate reminder)
    Tx.view fun s => s.includeTemplate created)

def updateRecurringTransaction (zone : Zone) (now : Instant)
    (input : UpdateRecurringTransactionInput) : Service RecurringTransactionWithRelations := do
  let found ← query fun s => s.ownTemplate input.id input.userId
  let existing ← orThrow found
    (.service "Template transaksi rutin tidak ditemukan" 404 "NOT_FOUND")
  throwIf (∃ name ∈ input.name, trim name = "") (.service "name cannot be empty" 400 "BAD_REQUEST")
  throwIf (input.type = .invalid) (.service "type must be one of: INCOME, EXPENSE" 400 "BAD_REQUEST")
  throwIf (input.amountMode = .invalid)
    (.service "amountMode must be one of: FIXED, FLEXIBLE" 400 "BAD_REQUEST")
  throwIf (input.frequency = .invalid)
    (.service "frequency must be one of: DAILY, WEEKLY, MONTHLY, YEARLY" 400 "BAD_REQUEST")
  -- The merged state is validated, not only the fields that were sent.
  let finalAmountMode := input.amountMode.truthy.getD existing.amountMode
  -- An amount that is not sent is the stored one, which the merged mode may still refuse.
  let amountSource :=
    if input.amount.isSome then input.amount.map DecimalInput.number
    else existing.amount.map Numeric.finite
  let amount ← ofExcept (resolveAmount finalAmountMode amountSource)
  let startDate ← ofExcept (match input.startDate with
    | none => .ok existing.startDate
    | some text => parseDate (some text) "startDate" zone now)
  let endDate ← ofExcept (match input.endDate with
    | none => .ok existing.endDate
    | some text => (parseDate (some text) "endDate" zone now).map some)
  throwIf (∃ last ∈ endDate, last < startDate)
    (.service "endDate must be on or after startDate" 400 "BAD_REQUEST")
  let reminder ← ofExcept (resolveReminder (input.reminderEnabled.getD existing.reminderEnabled)
    (input.reminderOffsetDays.resolve
      (existing.reminderOffsetDays.map fun (days : Int) => Numeric.finite days)))
  -- A wallet or a category that is not sent was checked when it was stored.
  assertWalletSent input.userId input.walletId
  assertCategorySent input.userId input.categoryId
  let amount ← ofExcept (amountColumn amount)
  commit id (do
    let updated ← Tx.updateTemplate input.id
      (editedTemplate input finalAmountMode amount startDate endDate reminder)
    Tx.view fun s => s.includeTemplate updated)

/-- What a client sends to delete a template. -/
structure DeleteRecurringTransactionInput where
  userId : Id
  id : Id

def deleteRecurringTransaction (input : DeleteRecurringTransactionInput) : Service Id := do
  let found ← query fun s => s.ownTemplate input.id input.userId
  let _existing ← orThrow found
    (.service "Template transaksi rutin tidak ditemukan" 404 "NOT_FOUND")
  commit id (do
    Tx.deleteTemplate input.id
    return input.id)

end PocketMint
