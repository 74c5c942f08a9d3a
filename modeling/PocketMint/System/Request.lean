import PocketMint.Program.Pool
import PocketMint.Services.Category
import PocketMint.Services.InstallmentPayment
import PocketMint.Services.Notification
import PocketMint.Services.RecurringTransaction
import PocketMint.Services.TransactionQuery

/-! The requests of the interface, executed one at a time or interleaved. -/

namespace PocketMint

/-- A request of one user, or of the scheduler that evaluates reminders. -/
inductive Request where
  | createWallet (input : CreateWalletInput)
  | updateWallet (input : UpdateWalletInput)
  | deleteWallet (input : DeleteWalletInput)
  | createTransaction (input : CreateTransactionInput)
  | updateTransaction (input : UpdateTransactionInput)
  | deleteTransaction (input : DeleteTransactionInput)
  | payInstallment (input : PayInstallmentInput)
  | createRecurringTransaction (input : CreateRecurringTransactionInput)
  | updateRecurringTransaction (input : UpdateRecurringTransactionInput)
  | evaluateReminders (evaluationDate : String) (userId : Option Id)
  | markNotificationRead (input : MarkNotificationReadInput)
  | confirmReminder (input : ConfirmReminderInput)
  | ensureDefaultCategories (userId : Id)
  | getNetWorth (userId : Id)
  | getWalletSparkline (input : GetWalletSparklineInput)
  | listTransactions (input : ListTransactionsInput)

/-- What a request answers when it succeeds. -/
inductive Response where
  | wallet (wallet : Wallet)
  | deleted (id : Id)
  | transaction (transaction : TransactionWithRelations)
  | payment (payment : PayInstallmentResult)
  | template (template : RecurringTransactionWithRelations)
  | events (events : List RecurringReminderEvent)
  | notification (notification : NotificationWithTemplate)
  | confirmation (confirmation : ConfirmReminderResult)
  | done
  | totals (totals : WalletTotals)
  | sparkline (points : List WalletSparklinePoint)
  | transactions (transactions : List TransactionWithRelations)
  deriving DecidableEq

/-- A request, with the time its clock reads. -/
structure Call where
  now : Instant
  request : Request

/-- The service a call runs, in a reporting zone. -/
def handle (zone : Zone) (call : Call) : Service Response :=
  match call.request with
  | .createWallet input => return .wallet (← PocketMint.createWallet call.now input)
  | .updateWallet input => return .wallet (← PocketMint.updateWallet input)
  | .deleteWallet input => return .deleted (← PocketMint.deleteWallet input)
  | .createTransaction input =>
    return .transaction (← PocketMint.createTransaction zone call.now input)
  | .updateTransaction input =>
    return .transaction (← PocketMint.updateTransaction zone call.now input)
  | .deleteTransaction input => return .deleted (← PocketMint.deleteTransaction input)
  | .payInstallment input => return .payment (← PocketMint.payInstallment zone call.now input)
  | .createRecurringTransaction input =>
    return .template (← PocketMint.createRecurringTransaction zone call.now input)
  | .updateRecurringTransaction input =>
    return .template (← PocketMint.updateRecurringTransaction zone call.now input)
  | .evaluateReminders evaluationDate userId =>
    return .events (← PocketMint.evaluateReminders zone call.now evaluationDate userId)
  | .markNotificationRead input =>
    return .notification (← PocketMint.markNotificationRead call.now input)
  | .confirmReminder input => return .confirmation (← PocketMint.confirmReminder call.now input)
  | .ensureDefaultCategories userId => do
    PocketMint.ensureDefaultCategories userId
    return .done
  | .getNetWorth userId => return .totals (← PocketMint.getNetWorth userId)
  | .getWalletSparkline input =>
    return .sparkline (← PocketMint.getWalletSparkline zone call.now input)
  | .listTransactions input =>
    return .transactions (← PocketMint.listTransactions zone call.now input)

/-- The answer of a call executed alone, and the store it leaves. -/
def serve (zone : Zone) (s : Store) (call : Call) : Except Failure Response × Store :=
  (handle zone call).run s

/-- The store after calls executed one after the other. -/
def serveAll (zone : Zone) (s : Store) (calls : List Call) : Store :=
  calls.foldl (fun s call => (serve zone s call).2) s

/-- A user's first calls: the default categories, a bank account with money, and a credit card. -/
def onboarding (userId : Id) (opening creditLimit : Decimal) : List Call :=
  [{ now := 0, request := .ensureDefaultCategories userId },
    { now := 0, request := .createWallet
        { userId, name := "Bank", type := .given .bank, balance := some (.exact opening) } },
    { now := 0, request := .createWallet
        { userId, name := "Card", type := .given .creditCard, creditLimit := some (.exact creditLimit) } }]

/-- The stores that some run of calls, accepted or refused, reaches from an empty database. -/
def Reachable (zone : Zone) (s : Store) : Prop :=
  ∃ calls, s = serveAll zone .empty calls

/-- What survives every call survives every run. -/
theorem serveAll_preserves {zone : Zone} {holds : Store → Prop}
    (step : ∀ s call, holds s → holds (serve zone s call).2) {s : Store} (start : holds s)
    (calls : List Call) : holds (serveAll zone s calls) := by
  induction calls generalizing s with
  | nil => exact start
  | cons call calls ih => exact ih (step s call start)

/-- A call leads from a reachable store to a reachable one. -/
theorem Reachable.step {zone : Zone} {s : Store} (reached : Reachable zone s) (call : Call) :
    Reachable zone (serve zone s call).2 := by
  obtain ⟨calls, rfl⟩ := reached
  exact ⟨calls ++ [call], by simp [serveAll]⟩

/-- What holds of the empty database and survives every call holds of every reachable store. -/
theorem Reachable.induct {zone : Zone} {holds : Store → Prop} (empty : holds .empty)
    (step : ∀ s call, holds s → holds (serve zone s call).2) {s : Store} (reached : Reachable zone s) :
    holds s := by
  obtain ⟨calls, rfl⟩ := reached
  exact serveAll_preserves step empty calls

end PocketMint
