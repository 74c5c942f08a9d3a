import PocketMint.Services.Transaction

/-! The recurring reminder engine: one reminder for each occurrence that falls due on a date. -/

namespace PocketMint

open Prog (query ofExcept)

/-- The lead time of instalment reminders, in days. -/
def installmentReminderOffsetDays : Int := 3

namespace ReminderEngine

/-- The numbers of `dateStr.split('-')`; a piece that is no number makes the date no date. -/
def splitDate (dateStr : String) : Option (Int × Int × Int) := do
  let afterDash := fun (text : List Char) => (text.dropWhile (· ≠ '-')).drop 1
  let piece := fun (text : List Char) => Js.digitsValue (text.takeWhile (· ≠ '-'))
  let text := dateStr.toList
  let year ← piece text
  let month ← piece (afterDash text)
  let day ← piece (afterDash (afterDash text))
  return (year, month, day)

/-- The date some days before another. -/
def subtractDays (dateStr : String) (days : Int) : String :=
  match splitDate dateStr with
  | some (year, month, day) => formatCalendarDate (Js.utcDate (Js.dateUTC year (month - 1) (day - days)))
  | none => "NaN-NaN-NaN"

/-- Create a reminder unless one with its unique key exists, and leave that one as it is. -/
def upsert (key : RecurringReminderEvent → Bool) (data : Id → RecurringReminderEvent) :
    Service RecurringReminderEvent :=
  commit id fun s =>
    match s.events.rows.find? key with
    -- The update of the upsert is empty, so the row that exists is not touched.
    | some event => .ok (event, s)
    | none => Tx.createEvent data s

/-- The day an occurrence's reminder is due, when the occurrence's reminder falls on the date. -/
def dueReminder (evaluationDate occurrenceDate : String) (offsetDays : Int) : Option String :=
  let reminderDate := subtractDays occurrenceDate offsetDays
  if reminderDate = evaluationDate then some reminderDate else none

/-- The occurrence of a template to remind of on a date, as its instants, if there is one. -/
def templateReminder (zone : Zone) (now : Instant) (evaluationDate : String)
    (template : RecurringTransactionTemplate) : Except String (Option (Int × Instant × Instant)) :=
  match template.reminderOffsetDays with
  | none => .ok none
  | some offsetDays => do
    let next ← nextMonthlyOccurrence (formatReportingDate template.startDate zone)
      -- The dates are those of the reporting zone.
      (template.endDate.map fun last => formatReportingDate last zone) evaluationDate
    match next with
    | none => return none
    | some occurrenceDate =>
      -- Of all occurrences only the next one is considered, so each reminder has one day on which it is due.
      match dueReminder evaluationDate occurrenceDate offsetDays with
      | none => return none
      | some reminderDate =>
        -- The texts are turned back into the instants of their midnights.
        let occurrence ← parseBusinessDate (some occurrenceDate) zone now
        let reminder ← parseBusinessDate (some reminderDate) zone now
        return some (offsetDays, occurrence, reminder)

/-- The due date of an instalment to remind of on a date, as its instants, if there is one. -/
def installmentReminder (zone : Zone) (now : Instant) (evaluationDate : String)
    (installment : Installment) : Except String (Option (Instant × Instant)) :=
  let dueDate := formatReportingDate installment.nextDueDate zone
  match dueReminder evaluationDate dueDate installmentReminderOffsetDays with
  | none => .ok none
  | some reminderDate => do
    let occurrence ← parseBusinessDate (some dueDate) zone now
    let reminder ← parseBusinessDate (some reminderDate) zone now
    return some (occurrence, reminder)

/-- A new reminder of a template's occurrence. -/
def templateEvent (template : RecurringTransactionTemplate) (offsetDays : Int)
    (occurrenceDate reminderDate : Instant) (id : Id) : RecurringReminderEvent :=
  { id
    templateId := some template.id
    installmentId := none
    userId := template.userId
    occurrenceDate
    offsetDays
    reminderDate
    readAt := none
    completedAt := none
    generatedTransactionId := none }

/-- A new reminder of an instalment's due date. -/
def installmentEvent (installment : Installment) (occurrenceDate reminderDate : Instant) (id : Id) :
    RecurringReminderEvent :=
  { id
    templateId := none
    installmentId := some installment.id
    userId := installment.userId
    occurrenceDate
    offsetDays := installmentReminderOffsetDays
    reminderDate
    readAt := none
    completedAt := none
    generatedTransactionId := none }

/-- The round of the first loop for one template. -/
def remindTemplate (zone : Zone) (now : Instant) (evaluationDate : String)
    (template : RecurringTransactionTemplate) : Service (Option RecurringReminderEvent) := do
  let due ← ofExcept ((templateReminder zone now evaluationDate template).mapError Failure.thrown)
  match due with
  | none => return none
  | some (offsetDays, occurrence, reminder) =>
    let event ← upsert
      (fun row => row.templateId = some template.id && row.occurrenceDate = occurrence &&
        row.offsetDays = offsetDays)
      (templateEvent template offsetDays occurrence reminder)
    return some event

/-- The round of the second loop for one instalment. -/
def remindInstallment (zone : Zone) (now : Instant) (evaluationDate : String)
    (installment : Installment) : Service (Option RecurringReminderEvent) := do
  let due ← ofExcept ((installmentReminder zone now evaluationDate installment).mapError Failure.thrown)
  match due with
  | none => return none
  | some (occurrence, reminder) =>
    let event ← upsert
      (fun row => row.installmentId = some installment.id && row.occurrenceDate = occurrence &&
        row.offsetDays = installmentReminderOffsetDays)
      (installmentEvent installment occurrence reminder)
    return some event

/-- A loop over rows, each round of which may record one reminder. -/
def remindEach {α : Type} (round : α → Service (Option RecurringReminderEvent)) :
    List α → Service (List RecurringReminderEvent)
  | [] => return []
  | row :: rest => do
    let event ← round row
    let events ← remindEach round rest
    return event.toList ++ events

end ReminderEngine

open ReminderEngine

/-- The templates the engine reads: active monthly ones with reminders, of one user or of all. -/
def Store.remindedTemplates (s : Store) (userId : Option Id) : List RecurringTransactionTemplate :=
  s.templates.rows.filter fun row =>
    row.isActive && row.reminderEnabled && row.frequency = .monthly &&
      userId.all fun owner => row.userId = owner

/-- The instalments the engine reads: active ones, of one user or of all. -/
def Store.remindedInstallments (s : Store) (userId : Option Id) : List Installment :=
  s.installments.rows.filter fun row =>
    row.status = .active && userId.all fun owner => row.userId = owner

def evaluateReminders (zone : Zone) (now : Instant) (evaluationDate : String)
    (userId : Option Id) : Service (List RecurringReminderEvent) := do
  -- The templates come first, and what they recorded is there when the instalments are read.
  let templates ← query fun s => s.remindedTemplates userId
  let events ← remindEach (remindTemplate zone now evaluationDate) templates
  let installments ← query fun s => s.remindedInstallments userId
  let further ← remindEach (remindInstallment zone now evaluationDate) installments
  return events ++ further

end PocketMint
