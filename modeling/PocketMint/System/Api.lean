import PocketMint.Controllers.ExportHandler
import PocketMint.Program.Zoom
import PocketMint.Services.BudgetCommand
import PocketMint.Services.SavingGoal
import PocketMint.System.Request

/-! The interface as a whole: a request is authenticated, and its route serves the user who was verified. -/

namespace PocketMint

open Prog (query throwIf orThrow ofExcept transact)
open RecurringTransactionService (trim)

structure User where
  id : Id
  email : String
  name : String
  avatarUrl : Option String
  createdAt : Instant
  updatedAt : Instant
  deriving DecidableEq

instance : Keyed User := ⟨User.id⟩

/-- The whole database, in which no two users have one email address. -/
structure ApiStore where
  users : Table User
  records : BudgetStore
  goals : SavingGoalStore
  uniqueEmails : (users.rows.map User.email).Nodup

namespace ApiStore

def empty : ApiStore where
  users := .empty
  records := .empty
  goals := .empty
  uniqueEmails := List.nodup_nil

/-- The tables that the budget services work on. -/
def recordsPart : Part ApiStore BudgetStore where
  get t := t.records
  put t records := { t with records }
  get_put _ _ := rfl

/-- The tables that all other services work on. -/
def corePart : Part ApiStore Store :=
  recordsPart.trans
    { get := BudgetStore.toStore
      put := fun records core => { records with toStore := core }
      get_put := fun _ _ => rfl }

def goalsPart : Part ApiStore SavingGoalStore where
  get t := t.goals
  put t goals := { t with goals }
  get_put _ _ := rfl

/-- The store with one more user, of an email address that is free. -/
def withUser (t : ApiStore) (row : User) (users : Table User) (inserted : t.users.insert? row = some users)
    (free : row.email ∉ t.users.rows.map User.email) : ApiStore :=
  { t with
    users
    uniqueEmails := by
      rw [(Table.insert?_eq_some_iff.mp inserted).2, List.map_append, List.map_singleton]
      refine List.nodup_append.mpr ⟨t.uniqueEmails, List.nodup_singleton _, fun email among other here => ?_⟩
      rintro rfl
      exact free (List.mem_singleton.mp here ▸ among) }

/-- Insert a user, unless the identifier or the email address is taken. -/
def createUser? (t : ApiStore) (row : User) : Option ApiStore :=
  if free : row.email ∉ t.users.rows.map User.email then
    match inserted : t.users.insert? row with
    | none => none
    | some users => some (t.withUser row users inserted free)
  else none

end ApiStore

/-! Authentication: who sends a request is what a verified token says. -/

/-- The claims of a verified token that are read; an empty subject counts as none. -/
structure JwtPayload where
  sub : Option Id
  email : Option String

structure VerifiedIdentity where
  sub : Id
  email : Option String
  deriving DecidableEq

/-- The token of an `Authorization` header. -/
def bearerToken (header : Option String) : Option String :=
  match (header.getD "").toList.splitOn ' ' with
  | scheme :: value :: _ =>
    if (String.ofList scheme).toLower = "bearer" ∧ value ≠ [] then some (trim (String.ofList value)) else none
  | _ => none

/-- The routes of a known user, each with what its request carries. A user named in a body is not read. -/
inductive Endpoint where
  | getAllWallets
  | createWallet (body : CreateWalletInput)
  | updateWallet (id : Id) (body : UpdateWalletInput)
  | deleteWallet (id : Id) (force : Bool)
  | getWalletSparkline (id : Id)
  | getTransactions (query : ListTransactionsInput)
  | getAllTransactions (query : ListTransactionsInput)
  | getTransactionSummary (month year : Option Int)
  | exportTransactions (period anchor : Option String)
  | createTransaction (body : CreateTransactionInput)
  | updateTransaction (id : Id) (body : UpdateTransactionInput)
  | deleteTransaction (id : Id)
  | payInstallment (id : Id) (body : PayInstallmentInput)
  | getCategories
  | getDashboardSummary
  | createRecurringTransaction (body : CreateRecurringTransactionInput)
  | updateRecurringTransaction (id : Id) (body : UpdateRecurringTransactionInput)
  | deleteRecurringTransaction (id : Id)
  | getNotifications (query : ListNotificationsInput)
  | refreshNotifications
  | markNotificationRead (id : Id)
  | markAllNotificationsRead
  | confirmReminder (id : Id) (amount : Option DecimalInput)
  | getSavingGoal (id : Id)
  | createSavingGoal (body : CreateSavingGoalInput)
  | updateSavingGoal (id : Id) (body : UpdateSavingGoalInput)
  | updateSavingGoalProgress (id : Id) (currentAmount : Option DecimalInput)
  | archiveSavingGoal (id : Id)
  | getBudgets (status : Option String)
  | getBudget (id : Id)
  | createBudget (body : CreateBudgetInput)
  | updateBudget (id : Id) (categoryIdSent : Bool) (amount : Option DecimalInput)
  | archiveBudget (id : Id)
  | restoreBudget (id : Id)

/-- The routes: the one that makes a user known, and those of a known user. -/
inductive Target where
  | syncUser (email name : Option String)
  | endpoint (endpoint : Endpoint)

/-- A request, with the time its clock reads. -/
structure HttpRequest where
  now : Instant
  authorization : Option String
  target : Target

/-- What a route answers when it succeeds. -/
inductive Answer where
  | user (user : User) (created : Bool)
  | wallets (wallets : List Wallet)
  | wallet (wallet : Wallet) (netWorth : WalletTotals)
  | walletDeleted (id : Id) (netWorth : WalletTotals)
  | sparkline (points : List WalletSparklinePoint)
  | transactions (transactions : List TransactionWithRelations)
  | transaction (transaction : TransactionWithRelations)
  | summary (result : TransactionSummaryResult)
  | exported (response : ExportResponse)
  | deleted (id : Id)
  | payment (payment : PayInstallmentResult)
  | categories (categories : List Category)
  | netWorth (totals : WalletTotals)
  | template (template : RecurringTransactionWithRelations)
  | notifications (page : ListNotificationsResult)
  | notification (notification : NotificationWithTemplate)
  | updated (count : Nat)
  | confirmation (confirmation : ConfirmReminderResult)
  | savingGoal (goal : SavingGoal)
  | budgets (usages : List BudgetWithUsage)
  | budget (usage : BudgetWithUsage)
  deriving DecidableEq

/-- A service of the core tables, on the whole database. -/
def core {α : Type} (service : Service α) : Prog ApiStore Failure α := service.zoom ApiStore.corePart

def budgeting {α : Type} (service : Prog BudgetStore Failure α) : Prog ApiStore Failure α :=
  service.zoom ApiStore.recordsPart

def saving {α : Type} (service : Prog SavingGoalStore Failure α) : Prog ApiStore Failure α :=
  service.zoom ApiStore.goalsPart

/-- `user.create`. -/
def createUser (row : User) : Prog ApiStore Failure User :=
  transact fun t =>
    match t.createUser? row with
    | none => .error (.prisma "P2002")
    | some after => .ok (row, after)

/-- `UserController.sync`, for the identity that was verified; what is empty counts as missing. -/
def UserController.sync (now : Instant) (identity : VerifiedIdentity) (bodyEmail name : Option String) :
    Prog ApiStore Failure Answer := do
  let missing : Failure := .service "email and name are required" 400 "BAD_REQUEST"
  let email ← orThrow ((identity.email.or bodyEmail).filter (· ≠ "")) missing
  let name ← orThrow (name.filter (· ≠ "")) missing
  let existing ← query fun t : ApiStore => t.users.find? identity.sub
  match existing with
  | some user =>
    core (ensureDefaultCategories identity.sub)
    return .user user false
  | none => do
    let user ← createUser
      { id := identity.sub, email, name, avatarUrl := none, createdAt := now, updatedAt := now }
    core (ensureDefaultCategories identity.sub)
    return .user user true

/-- The usage of a changed budget in the current month, read again for the response. -/
def respondWithUsage (zone : Zone) (now : Instant) (userId budgetId : Id) : Prog ApiStore Failure Answer := do
  return .budget (← budgeting (getBudgetUsage zone now { userId, budgetId }))

/-- The handler of a route whose caller is known; the user of every input is the caller. -/
def route (zone : Zone) (now : Instant) (userId : Id) : Endpoint → Prog ApiStore Failure Answer
  | .getAllWallets => return .wallets (← core (listWallets userId))
  | .createWallet body => do
    let wallet ← core (createWallet now { body with userId })
    return .wallet wallet (← core (getNetWorth userId))
  | .updateWallet id body => do
    let wallet ← core (updateWallet { body with userId, walletId := id })
    return .wallet wallet (← core (getNetWorth wallet.userId))
  | .deleteWallet id force => do
    let deleted ← core (deleteWallet { userId, walletId := id, force })
    return .walletDeleted deleted (← core (getNetWorth userId))
  | .getWalletSparkline id =>
    return .sparkline (← core (getWalletSparkline zone now { userId, walletId := id }))
  | .getTransactions query =>
    return .transactions (← core (listTransactions zone now
      { query with userId, startDate := none, endDate := none, allTime := false }))
  | .getAllTransactions query =>
    return .transactions (← core (listTransactions zone now
      { query with userId, startDate := none, endDate := none, allTime := true }))
  | .getTransactionSummary month year =>
    return .summary (← core (getSummary zone now { userId, month, year }))
  | .exportTransactions period anchor =>
    return .exported (← core (TransactionController.export_ zone now { userId, period, anchor }))
  | .createTransaction body =>
    return .transaction (← core (createTransaction zone now { body with userId }))
  | .updateTransaction id body =>
    return .transaction (← core (updateTransaction zone now { body with userId, id }))
  | .deleteTransaction id => return .deleted (← core (deleteTransaction { userId, id }))
  | .payInstallment id body =>
    return .payment (← core (payInstallment zone now { body with userId, installmentId := id }))
  | .getCategories => return .categories (← core (listCategories userId))
  | .getDashboardSummary => return .netWorth (← core (getNetWorth userId))
  | .createRecurringTransaction body =>
    return .template (← core (createRecurringTransaction zone now { body with userId }))
  | .updateRecurringTransaction id body =>
    return .template (← core (updateRecurringTransaction zone now { body with userId, id }))
  | .deleteRecurringTransaction id => return .deleted (← core (deleteRecurringTransaction { userId, id }))
  | .getNotifications query => return .notifications (← core (listNotifications { query with userId }))
  | .refreshNotifications => return .notifications (← core (refreshNotifications zone now userId))
  | .markNotificationRead id => return .notification (← core (markNotificationRead now { userId, id }))
  | .markAllNotificationsRead => return .updated (← core (markAllNotificationsRead now userId))
  | .confirmReminder id amount => return .confirmation (← core (confirmReminder now { userId, id, amount }))
  | .getSavingGoal id => return .savingGoal (← saving (getSavingGoal { userId, id }))
  | .createSavingGoal body => return .savingGoal (← saving (createSavingGoal zone now { body with userId }))
  | .updateSavingGoal id body =>
    return .savingGoal (← saving (updateSavingGoal zone now { body with userId, id }))
  | .updateSavingGoalProgress id currentAmount =>
    return .savingGoal (← saving (updateSavingGoalProgress { userId, id, currentAmount }))
  | .archiveSavingGoal id => return .savingGoal (← saving (archiveSavingGoal { userId, id }))
  | .getBudgets status => do
    let status ← orThrow (match status.getD "active" with
      | "active" => some BudgetFilter.active
      | "archived" => some BudgetFilter.archived
      | _ => none) (Failure.service "status must be \"active\" or \"archived\"" 400 "BAD_REQUEST")
    return .budgets (← budgeting (listActiveBudgetUsage zone now { userId, status := some status }))
  | .getBudget id => respondWithUsage zone now userId id
  | .createBudget body => do
    let created ← budgeting (createBudget now { body with userId })
    respondWithUsage zone now userId created.id
  | .updateBudget id categoryIdSent amount => do
    throwIf categoryIdSent (Failure.service "Kategori anggaran tidak dapat diubah" 422
      "CATEGORY_NOT_EDITABLE")
    let updated ← budgeting (updateBudgetAmount now { userId, budgetId := id, amount })
    respondWithUsage zone now userId updated.id
  | .archiveBudget id => do
    let archived ← budgeting (archiveBudget now { userId, budgetId := id })
    respondWithUsage zone now userId archived.id
  | .restoreBudget id => do
    let restored ← budgeting (restoreBudget now { userId, budgetId := id })
    respondWithUsage zone now userId restored.id

section Authentication

-- Verification of tokens is the token library's, at the time it is asked.
variable (jwtVerify : Instant → String → Option JwtPayload)

/-- The identity that a verified token carries. -/
def verifySupabaseJwt (now : Instant) (token : String) : Option VerifiedIdentity := do
  let payload ← jwtVerify now token
  let sub ← payload.sub
  return { sub, email := payload.email.filter (· ≠ "") }

/-- The identity of a request, if it carries a token that verifies. -/
def verifyBearer (request : HttpRequest) : Option VerifiedIdentity := do
  let token ← (bearerToken request.authorization).filter (· ≠ "")
  verifySupabaseJwt jwtVerify request.now token

/-- One response for every failure of authentication. -/
def unauthorized : Failure := .service "Invalid or missing authentication credentials" 401 "UNAUTHORIZED"

/-- The user of a request, who has to be known already. -/
def requireUser (request : HttpRequest) : Prog ApiStore Failure Id := do
  let identity ← orThrow (verifyBearer jwtVerify request) unauthorized
  let user ← query fun t : ApiStore => t.users.find? identity.sub
  let user ← orThrow user unauthorized
  return user.id

/-- The identity of a request, whether or not its user is known. -/
def requireVerifiedJwt (request : HttpRequest) : Prog ApiStore Failure VerifiedIdentity :=
  orThrow (verifyBearer jwtVerify request) unauthorized

/-- The routes, each behind its gate. -/
def handleHttp (zone : Zone) (request : HttpRequest) : Prog ApiStore Failure Answer :=
  match request.target with
  | .syncUser email name => do
    let identity ← requireVerifiedJwt jwtVerify request
    UserController.sync request.now identity email name
  | .endpoint endpoint => do
    let userId ← requireUser jwtVerify request
    route zone request.now userId endpoint

/-- The answer of a request executed alone, and the database it leaves. -/
def serveHttp (zone : Zone) (t : ApiStore) (request : HttpRequest) : Except Failure Answer × ApiStore :=
  (handleHttp jwtVerify zone request).run t

/-- The database after requests executed one after the other. -/
def serveAllHttp (zone : Zone) (t : ApiStore) (requests : List HttpRequest) : ApiStore :=
  requests.foldl (fun t request => (serveHttp jwtVerify zone t request).2) t

/-- The requests in flight over a database, after a schedule of their atomic steps. -/
def interleaveHttp (zone : Zone) (t : ApiStore) (requests : List HttpRequest) (schedule : List Nat) :
    Pool HttpRequest ApiStore :=
  (Pool.start t requests).exec (handleHttp jwtVerify zone) schedule

end Authentication

end PocketMint
