import PocketMint.Services.Notification

/-! The notification controller: the shape that a reminder is answered in. -/

namespace PocketMint

/-- A reminder as a response shows it; its amounts stay decimals here. -/
structure SerializedNotification where
  id : Id
  templateId : Option Id
  templateName : Option String
  templateType : Option FinancialTxType
  templateAmountMode : Option RecurringAmountMode
  templateAmount : Option Decimal
  installmentId : Option Id
  installmentDescription : Option String
  installmentWalletName : Option String
  installmentAmount : Option Decimal
  occurrenceDate : Instant
  offsetDays : Int
  reminderDate : Instant
  readAt : Option Instant
  completed : Bool
  completedAt : Option Instant
  generatedTransactionId : Option Id
  deriving DecidableEq

namespace NotificationController

/-- Whether a reminder is shown as done: an instalment's is derived from where its due date has moved. -/
def isCompleted (notification : NotificationWithTemplate) : Bool :=
  match notification.installment with
  | some installment =>
    installment.status = .settled || notification.event.occurrenceDate < installment.nextDueDate
  | none => notification.event.completedAt.isSome

def serialize (notification : NotificationWithTemplate) : SerializedNotification :=
  { id := notification.event.id
    templateId := notification.event.templateId
    templateName := notification.template.map TemplateRef.name
    templateType := notification.template.map TemplateRef.type
    templateAmountMode := notification.template.map TemplateRef.amountMode
    templateAmount := notification.template.bind TemplateRef.amount
    installmentId := notification.event.installmentId
    installmentDescription := notification.installment.bind InstallmentRef.description
    installmentWalletName := notification.installment.bind InstallmentRef.walletName
    installmentAmount := notification.installment.map InstallmentRef.monthlyAmount
    occurrenceDate := notification.event.occurrenceDate
    offsetDays := notification.event.offsetDays
    reminderDate := notification.event.reminderDate
    readAt := notification.event.readAt
    completed := isCompleted notification
    completedAt := notification.event.completedAt
    generatedTransactionId := notification.event.generatedTransactionId }

/-- A reminder whose instalment is there is done when the instalment is settled, or due later. -/
theorem serialize_completed {s : Store} {event : RecurringReminderEvent} {id : Id} {row : Installment}
    (named : event.installmentId = some id) (found : s.installments.find? id = some row) :
    (serialize (s.includeEvent event)).completed = true ↔
      row.status = .settled ∨ event.occurrenceDate < row.nextDueDate := by
  -- The instalment that the reminder includes is the row that it names.
  have included : (s.includeEvent event).installment = some (s.includeInstallment row) := by
    simp only [Store.includeEvent, named, Option.bind_some, found, Option.map_some]
  have shown : (serialize (s.includeEvent event)).completed =
      (decide (row.status = .settled) || decide (event.occurrenceDate < row.nextDueDate)) := by
    simp only [serialize, isCompleted, included]
    rfl
  rw [shown, Bool.or_eq_true, decide_eq_true_eq, decide_eq_true_eq]

end NotificationController

end PocketMint
