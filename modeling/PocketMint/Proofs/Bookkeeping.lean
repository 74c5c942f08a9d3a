import PocketMint.Invariant.Booked
import PocketMint.Proofs.Isolation

/-! Requests to the interface, served one at a time, leave the books in order. -/

namespace PocketMint

open Prog ApiStore

/-- A store whose counter has moved on has the same books. -/
theorem Store.Booked.later {s : Store} (booked : s.Booked) {next : Id} (grows : s.nextId ≤ next) :
    { s with nextId := next }.Booked := by
  have linked := booked.sound.linked
  refine booked.aside ⟨?_, booked.sound.numbered.later grows⟩ rfl rfl rfl
  exact ⟨linked.transactions, linked.installments, linked.templates, linked.events⟩

/-- A transaction of the database keeps what its body keeps when it does not throw. -/
theorem keeps_commit {α : Type} {holds : Store → Prop} {rethrow : Failure → Failure} {body : Tx α}
    (kept : ∀ s value s', holds s → body s = .ok (value, s') → holds s') :
    (commit rethrow body).Keeps holds := by
  refine keeps_transact fun s value s' held done => ?_
  -- Rewriting an error does not make it an answer.
  cases answer : body s with
  | error failure =>
    rw [answer] at done
    cases done
  | ok result =>
    rw [answer] at done
    cases done
    exact kept s value s' held answer

section Services

variable {α : Type} {zone : Zone} {now : Instant} {userId : Id}

/-- The service of a call leaves the books in order. -/
theorem keepsBooks_call (zone : Zone) (call : Call) {service : Service α} {response : α → Response}
    (handled : handle zone call = service >>= fun value => ret (response value)) :
    (core service).Keeps fun t => t.records.Booked := by
  have kept := handle_booked zone call
  rw [handled] at kept
  exact kept.of_map.zoom corePart

theorem keepsBooks_reading {service : Service α} (reads : service.Reads) :
    (core service).Keeps fun t => t.records.Booked :=
  reads.keeps.zoom corePart

theorem keepsBooks_saving (service : Prog SavingGoalStore Failure α) :
    (saving service).Keeps fun t => t.records.Booked :=
  keeps_zoom (fun _ _ booked => booked) service

/-- A budget request changes of the other tables the counter alone. -/
theorem keepsBooks_budgeting (call : BudgetCall) : (budgeting (handleBudget call)).Keeps fun t =>
    t.records.Booked := by
  have kept : (handleBudget call).Keeps fun s => s.Booked := by
    refine keeps_of_sat fun s _ => (handleBudget_sat call s).mono (fun s _ same => same ▸ .refl s) ?_
      fun _ _ _ done => done
    intro _ s s' made booked
    rw [made.others]
    exact booked.later made.grows.nextId
  exact kept.zoom recordsPart

theorem keepsBooks_budgetReading {service : Prog BudgetStore Failure α}
    {post : α → List BudgetStore → BudgetStore → Prop}
    (sat : ∀ s, service.Sat (fun _ _ => True) (fun _ s s' => s' = s) post [] s) :
    (budgeting service).Keeps fun t => t.records.Booked := by
  have reads : service.Reads :=
    reads_of_sat fun s => (sat s).mono (fun _ _ _ => trivial) (fun _ _ _ same => same) fun _ _ _ done => done
  have kept : service.Keeps fun s => s.Booked := reads.keeps
  exact kept.zoom recordsPart

theorem ensureDefaultCategories_keepsBooks : (ensureDefaultCategories userId).Keeps Store.Booked :=
  (handle_booked defaultTimezone.zone ⟨0, .ensureDefaultCategories userId⟩).of_map

theorem deleteRecurringTransaction_keepsBooks (input : DeleteRecurringTransactionInput) :
    (deleteRecurringTransaction input).Keeps Store.Booked := by
  unfold deleteRecurringTransaction
  refine (reads_query _).keeps.bind fun found => (reads_orThrow found _).keeps.bind fun existing => ?_
  refine keeps_commit fun s value s' booked done => ?_
  simp only [Tx.bind_ok, Tx.pure_ok, Tx.deleteTemplate] at done
  obtain ⟨_, _, deleted, _, rfl⟩ := done
  obtain ⟨present, rfl⟩ := Tx.delete_ok.mp deleted
  obtain ⟨row, found⟩ := Option.isSome_iff_exists.mp present
  -- Whoever the template belongs to, its reminders go with it, and no transaction does.
  have own : ∀ other, s.templates.find? input.id = some other → other.userId = row.userId := by
    intro other found'
    rw [Option.some.inj (found'.symm.trans found)]
  exact booked.aside (booked.intact.deleteTemplate own).sound rfl rfl rfl

theorem markAllNotificationsRead_keepsBooks : (markAllNotificationsRead now userId).Keeps Store.Booked := by
  refine keeps_commit fun s value s' booked done => ?_
  obtain ⟨-, rfl⟩ := Prod.mk.inj (Except.ok.inj done)
  exact booked.aside (booked.intact.markRead now).sound rfl rfl rfl

theorem refreshNotifications_keepsBooks : (refreshNotifications zone now userId).Keeps Store.Booked := by
  have evaluated := handle_booked zone ⟨now, .evaluateReminders (formatReportingDate now zone) (some userId)⟩
  unfold refreshNotifications
  refine evaluated.of_map.bind fun _ => ?_
  exact (reads_of_sat fun _ => listNotifications_sat).keeps

end Services

section Routes

variable {zone : Zone} {now : Instant} {userId : Id}

theorem getNetWorth_keepsBooks : (core (getNetWorth userId)).Keeps fun t => t.records.Booked :=
  keepsBooks_reading ((reads_query _).bind fun _ => reads_ret _)

theorem respondWithUsage_keepsBooks {budgetId : Id} :
    (respondWithUsage zone now userId budgetId).Keeps fun t => t.records.Booked := by
  apply Keeps.map
  apply keepsBooks_budgetReading
  intro s
  exact getBudgetUsage_sat

/-- Every route leaves the books in order. -/
theorem route_keepsBooks (endpoint : Endpoint) : (route zone now userId endpoint).Keeps fun t =>
    t.records.Booked := by
  -- A route runs one service that writes, and what it reads for its answer comes after that.
  cases endpoint with
  -- The wallet routes answer with the net worth, which is read after the write.
  | getAllWallets =>
    exact (keepsBooks_reading (reads_query _)).map _
  | createWallet body =>
    have created := keepsBooks_call zone ⟨now, .createWallet { body with userId }⟩ rfl
    exact created.bind fun _ => getNetWorth_keepsBooks.map _
  | updateWallet id body =>
    have updated := keepsBooks_call zone ⟨now, .updateWallet { body with userId, walletId := id }⟩ rfl
    exact updated.bind fun _ => getNetWorth_keepsBooks.map _
  | deleteWallet id force =>
    have deleted := keepsBooks_call zone ⟨now, .deleteWallet { userId, walletId := id, force }⟩ rfl
    exact deleted.bind fun _ => getNetWorth_keepsBooks.map _
  | getWalletSparkline id => exact (keepsBooks_reading (reads_of_sat fun _ => getWalletSparkline_sat)).map _
  | getTransactions query => exact (keepsBooks_reading (reads_of_sat fun _ => listTransactions_sat)).map _
  | getAllTransactions query => exact (keepsBooks_reading (reads_of_sat fun _ => listTransactions_sat)).map _
  | getTransactionSummary month year =>
    exact (keepsBooks_reading (reads_of_sat fun _ => getSummary_sat)).map _
  | exportTransactions period anchor => exact (keepsBooks_reading (reads_of_sat fun _ => export_sat)).map _
  | createTransaction body =>
    exact (keepsBooks_call zone ⟨now, .createTransaction { body with userId }⟩ rfl).map _
  | updateTransaction id body =>
    exact (keepsBooks_call zone ⟨now, .updateTransaction { body with userId, id }⟩ rfl).map _
  | deleteTransaction id => exact (keepsBooks_call zone ⟨now, .deleteTransaction { userId, id }⟩ rfl).map _
  | payInstallment id body =>
    exact (keepsBooks_call zone ⟨now, .payInstallment { body with userId, installmentId := id }⟩ rfl).map _
  -- Listing the categories may first insert the defaults, which touch no balance.
  | getCategories =>
    have listed : (listCategories userId).Keeps Store.Booked := by
      unfold listCategories
      exact ensureDefaultCategories_keepsBooks.bind fun _ => (reads_query _).keeps
    exact (listed.zoom corePart).map _
  | getDashboardSummary => exact getNetWorth_keepsBooks.map _
  | createRecurringTransaction body =>
    exact (keepsBooks_call zone ⟨now, .createRecurringTransaction { body with userId }⟩ rfl).map _
  | updateRecurringTransaction id body =>
    exact (keepsBooks_call zone ⟨now, .updateRecurringTransaction { body with userId, id }⟩ rfl).map _
  | deleteRecurringTransaction id =>
    exact ((deleteRecurringTransaction_keepsBooks { userId, id }).zoom corePart).map _
  | getNotifications query => exact (keepsBooks_reading (reads_of_sat fun _ => listNotifications_sat)).map _
  | refreshNotifications => exact (refreshNotifications_keepsBooks.zoom corePart).map _
  | markNotificationRead id =>
    exact (keepsBooks_call zone ⟨now, .markNotificationRead { userId, id }⟩ rfl).map _
  | markAllNotificationsRead => exact (markAllNotificationsRead_keepsBooks.zoom corePart).map _
  | confirmReminder id amount =>
    exact (keepsBooks_call zone ⟨now, .confirmReminder { userId, id, amount }⟩ rfl).map _
  -- The saving goals are kept in a table of their own.
  | getSavingGoal id => exact (keepsBooks_saving _).map _
  | createSavingGoal body => exact (keepsBooks_saving _).map _
  | updateSavingGoal id body => exact (keepsBooks_saving _).map _
  | updateSavingGoalProgress id currentAmount => exact (keepsBooks_saving _).map _
  | archiveSavingGoal id => exact (keepsBooks_saving _).map _
  -- So are the budgets, whose answers read the transactions only.
  | getBudgets status =>
    exact (reads_orThrow _ _).keeps.bind fun _ =>
      (keepsBooks_budgetReading fun _ => listActiveBudgetUsage_sat).map _
  | getBudget id => exact respondWithUsage_keepsBooks
  | createBudget body =>
    exact (keepsBooks_budgeting ⟨now, .createBudget { body with userId }⟩).bind fun _ =>
      respondWithUsage_keepsBooks
  | updateBudget id categoryIdSent amount =>
    have updated := keepsBooks_budgeting ⟨now, .updateBudgetAmount { userId, budgetId := id, amount }⟩
    exact (reads_throwIf _ _).keeps.bind fun _ => updated.bind fun _ => respondWithUsage_keepsBooks
  | archiveBudget id =>
    exact (keepsBooks_budgeting ⟨now, .archiveBudget { userId, budgetId := id }⟩).bind fun _ =>
      respondWithUsage_keepsBooks
  | restoreBudget id =>
    exact (keepsBooks_budgeting ⟨now, .restoreBudget { userId, budgetId := id }⟩).bind fun _ =>
      respondWithUsage_keepsBooks

theorem sync_keepsBooks {identity : VerifiedIdentity} {email name : Option String} :
    (UserController.sync now identity email name).Keeps fun t => t.records.Booked := by
  have completed : (core (ensureDefaultCategories identity.sub)).Keeps fun t => t.records.Booked :=
    ensureDefaultCategories_keepsBooks.zoom corePart
  -- Inserting a user leaves the records of the users as they were.
  have created : ∀ row, (createUser row).Keeps fun t => t.records.Booked := by
    intro row
    refine keeps_transact fun t user t' booked made => ?_
    split at made
    · cases made
    · rename_i after
      cases made
      obtain ⟨users, inserted, free, rfl⟩ := createUser?_some after
      exact booked
  unfold UserController.sync
  refine (reads_orThrow _ _).keeps.bind fun email => (reads_orThrow _ _).keeps.bind fun name => ?_
  refine (reads_query _).keeps.bind fun existing => ?_
  -- A user who is new is inserted first.
  cases existing with
  | some user => exact completed.bind fun _ => (reads_ret _).keeps
  | none => exact (created _).bind fun _ => completed.bind fun _ => (reads_ret _).keeps

end Routes

section Runs

variable (jwtVerify : Instant → String → Option JwtPayload) (zone : Zone)

/-- Every request leaves the books in order. -/
theorem handleHttp_keepsBooks (request : HttpRequest) :
    (handleHttp jwtVerify zone request).Keeps fun t => t.records.Booked := by
  unfold handleHttp
  cases request.target with
  | syncUser email name => exact (reads_orThrow _ _).keeps.bind fun _ => sync_keepsBooks
  | endpoint endpoint =>
    have required : (requireUser jwtVerify request).Reads := by
      unfold requireUser
      refine (reads_orThrow _ _).bind fun identity => (reads_query _).bind fun user => ?_
      exact (reads_orThrow _ _).bind fun _ => reads_ret _
    exact required.keeps.bind fun _ => route_keepsBooks endpoint

/-- After requests served one at a time, the books are in order. -/
theorem serveAllHttp_booked (requests : List HttpRequest) :
    (serveAllHttp jwtVerify zone .empty requests).records.Booked := by
  suffices general : ∀ t : ApiStore, t.records.Booked →
    (serveAllHttp jwtVerify zone t requests).records.Booked from
    general .empty .empty
  -- Each request starts where the one before it has left the database.
  induction requests with
  | nil => exact fun t booked => booked
  | cons request requests ih =>
    exact fun t booked => ih _ (handleHttp_keepsBooks jwtVerify zone request t booked)

end Runs

end PocketMint
