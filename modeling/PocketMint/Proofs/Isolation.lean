import PocketMint.Invariant.Tenancy

/-! Users are isolated from each other over every interleaving of requests to the interface. -/

namespace PocketMint

open Prog ApiStore

/-! Services that only read. -/

section Reading

variable {zone : Zone} {now : Instant}

theorem getSummary_sat {rely : Store → Store → Prop} {input : TransactionSummaryInput} {history : List Store}
    {s : Store} :
    (getSummary zone now input).Sat rely (fun _ s s' => s' = s) (fun _ _ _ => True) history s := by
  unfold getSummary
  exact sat_ofExcept_bind fun _ _ => sat_query_bind fun _ _ => sat_ret.mpr trivial

theorem export_sat {rely : Store → Store → Prop} {query : ExportQuery} {history : List Store} {s : Store} :
    (TransactionController.export_ zone now query).Sat rely (fun _ s s' => s' = s) (fun _ _ _ => True)
      history s := by
  unfold TransactionController.export_
  -- The query is checked before any row is read.
  split
  · exact sat_ret.mpr trivial
  · split
    · exact sat_ret.mpr trivial
    -- The anchor must resolve to a range.
    · split
      · exact sat_ret.mpr trivial
      · refine sat_ofExcept_bind fun range _ => sat_seq listTransactions_sat fun _ _ _ _ => ?_
        exact sat_ofExcept_bind fun _ _ => sat_ret.mpr trivial

theorem listNotifications_sat {rely : Store → Store → Prop} {input : ListNotificationsInput}
    {history : List Store}
    {s : Store} :
    (listNotifications input).Sat rely (fun _ s s' => s' = s) (fun _ _ _ => True) history s := by
  unfold listNotifications
  exact sat_query_bind fun _ _ => sat_query_bind fun _ _ => sat_ret.mpr trivial

theorem getBudgetUsage_sat {input : GetBudgetUsageInput} {history : List BudgetStore} {s : BudgetStore} :
    (getBudgetUsage zone now input).Sat (fun _ _ => True) (fun _ s s' => s' = s)
    (fun _ _ _ => True) history s := by
  unfold getBudgetUsage
  refine sat_query_bind fun _ _ => sat_orThrow_bind fun _ _ => sat_ofExcept_bind fun _ _ => ?_
  exact sat_query_bind fun _ _ => sat_ret.mpr trivial

theorem listActiveBudgetUsage_sat {input : ListActiveBudgetUsageInput} {history : List BudgetStore}
    {s : BudgetStore} :
    (listActiveBudgetUsage zone now input).Sat (fun _ _ => True) (fun _ s s' => s' = s) (fun _ _ _ => True)
      history s := by
  unfold listActiveBudgetUsage
  refine sat_query_bind fun _ _ => ?_
  split
  · exact sat_ret.mpr trivial
  · exact sat_ofExcept_bind fun _ _ => sat_query_bind fun _ _ => sat_ret.mpr trivial

end Reading

section Routes

variable {zone : Zone} {now : Instant} {userId : Id}

/-- The caller's reminders are evaluated, and read. -/
theorem refreshNotifications_own {s : Store} (sound : s.Intact) :
    (refreshNotifications zone now userId).Sat (Within Store.Intact Store.Evolves)
      (fun _ s s' => s' = s ∨ Store.OwnWrite userId s s') (fun _ _ _ => True) [] s := by
  have evaluated := handle_own zone
    ⟨now, .evaluateReminders (formatReportingDate now zone) (some userId)⟩ rfl sound
  unfold refreshNotifications
  refine sat_seq (sat_of_map evaluated) fun _ _ _ _ => ?_
  exact listNotifications_sat.mono (fun _ _ moved => moved) (fun _ _ _ same => .inl same)
    fun _ _ _ done => done

theorem getNetWorth_serves {other : Id} : Serves userId (core (getNetWorth other)) :=
  Serves.reading fun _ => sat_query_bind fun _ _ => sat_ret.mpr trivial

theorem respondWithUsage_serves {budgetId : Id} : Serves userId (respondWithUsage zone now userId budgetId) :=
  (Serves.budgetReading fun _ => getBudgetUsage_sat).bind fun _ => .ret _

/-- Categories are added for the user one by one, and stay. -/
theorem upsertCategories_completes (entries : List (CategoryType × String))
    {history : List ApiStore} {t : ApiStore}
    (knows : t.Knows userId) :
    (core (upsertCategories userId entries)).Sat Rely (fun _ t t' => t' = t ∨ OwnWrite userId t t')
      (fun _ _ t => t.Knows userId ∧ ∀ entry ∈ entries, t.HasCategory userId entry) history t := by
  induction entries generalizing history t with
  | nil => exact sat_ret.mpr ⟨knows, fun entry among => by cases among⟩
  | cons first rest ih =>
    obtain ⟨type, name⟩ := first
    rw [upsertCategories, core, zoom_bind]
    -- The first category is upserted, whatever the others do.
    refine sat_seq (Serves.core_sat
      (fun s sound => (upsertCategory_own type name sound).mono (fun _ _ moved => moved)
      (fun _ _ _ made => made) fun _ _ _ done => done.2) knows) fun _ history t ⟨knows, has⟩ => ?_
    have has : t.HasCategory userId (type, name) := has
    -- The category that was added is there whatever the rest and the others do.
    refine ((ih knows).assume has (fun t t' has moved => (moved.moved Moves.refl).hasCategory has)
      fun _ t t' has made => ⟨made, ?_⟩).mono (fun _ _ moved => moved) (fun _ _ _ made => made) ?_
    -- A write of the rest leaves the category, or keeps it as it moves on.
    · rcases made with rfl | own
      · exact has
      · exact own.moves.hasCategory has
    -- At the end all of them are there.
    · rintro _ _ t ⟨⟨knows, others⟩, has⟩
      refine ⟨knows, fun entry among => ?_⟩
      rcases List.mem_cons.mp among with rfl | among
      · exact has
      · exact others entry among

/-- The default categories are completed for the user. -/
theorem ensureDefaultCategories_completes {history : List ApiStore} {t : ApiStore} (knows : t.Knows userId) :
    (core (ensureDefaultCategories userId)).Sat Rely (fun _ t t' => t' = t ∨ OwnWrite userId t t')
      (fun _ _ t => t.Knows userId ∧ t.Onboarded userId) history t :=
  upsertCategories_completes CategoryService.defaultCategories knows

/-- The categories are completed for the caller, and read. -/
theorem listCategories_completes {history : List ApiStore} {t : ApiStore} (knows : t.Knows userId) :
    (core (listCategories userId)).Sat Rely (fun _ t t' => t' = t ∨ OwnWrite userId t t')
      (fun _ _ t => t.Knows userId ∧ t.Onboarded userId) history t := by
  rw [listCategories, core, zoom_bind]
  refine sat_seq (ensureDefaultCategories_completes knows) fun _ history t ⟨knows, onboarded⟩ => ?_
  refine sat_read.mpr fun t' moved => sat_ret.mpr ⟨knows.within moved, fun entry among => ?_⟩
  exact (moved.moved Moves.refl).hasCategory (onboarded entry among)

/-- Every route keeps to its caller's rows. -/
theorem route_serves (endpoint : Endpoint) : Serves userId (route zone now userId endpoint) := by
  -- A route that answers what its service answers serves the caller when the service does.
  have answering : ∀ {α : Type} {program : Prog ApiStore Failure α} {answer : α → Answer},
      Serves userId program → Serves userId (program >>= fun value => ret (answer value)) :=
    fun serves => serves.bind fun _ => .ret _
  cases endpoint with
  -- The routes follow the router of the application, each with the service that it calls.
  | getAllWallets => exact answering (.reading fun _ => sat_query_bind fun _ _ => sat_ret.mpr trivial)
  | createWallet body =>
    refine .bind (.call zone ⟨now, .createWallet { body with userId }⟩ rfl rfl) fun _ => ?_
    exact answering getNetWorth_serves
  | updateWallet id body =>
    refine .bind (.call zone ⟨now, .updateWallet { body with userId, walletId := id }⟩ rfl rfl)
      fun _ => ?_
    exact answering getNetWorth_serves
  | deleteWallet id force =>
    refine .bind (.call zone ⟨now, .deleteWallet { userId, walletId := id, force }⟩ rfl rfl)
      fun _ => ?_
    exact answering getNetWorth_serves
  | getWalletSparkline id => exact answering (.reading fun _ => getWalletSparkline_sat)
  | getTransactions query => exact answering (.reading fun _ => listTransactions_sat)
  | getAllTransactions query => exact answering (.reading fun _ => listTransactions_sat)
  | getTransactionSummary month year => exact answering (.reading fun _ => getSummary_sat)
  | exportTransactions period anchor => exact answering (.reading fun _ => export_sat)
  | createTransaction body =>
    exact answering (.call zone ⟨now, .createTransaction { body with userId }⟩ rfl rfl)
  | updateTransaction id body =>
    exact answering (.call zone ⟨now, .updateTransaction { body with userId, id }⟩ rfl rfl)
  | deleteTransaction id =>
    exact answering (.call zone ⟨now, .deleteTransaction { userId, id }⟩ rfl rfl)
  | payInstallment id body =>
    exact answering (.call zone ⟨now, .payInstallment { body with userId, installmentId := id }⟩ rfl rfl)
  -- The list of categories is made complete before it is read.
  | getCategories =>
    refine answering fun history t knows => ?_
    exact (listCategories_completes knows).mono (fun _ _ moved => moved) (fun _ _ _ made => made)
      fun _ _ _ done => done.1
  | getDashboardSummary => exact answering getNetWorth_serves
  | createRecurringTransaction body =>
    exact answering (.call zone ⟨now, .createRecurringTransaction { body with userId }⟩ rfl rfl)
  | updateRecurringTransaction id body =>
    exact answering (.call zone ⟨now, .updateRecurringTransaction { body with userId, id }⟩ rfl rfl)
  | deleteRecurringTransaction id =>
    exact answering (.core fun _ => deleteRecurringTransaction_own { userId, id })
  | getNotifications query => exact answering (.reading fun _ => listNotifications_sat)
  | refreshNotifications => exact answering (.core fun _ => refreshNotifications_own)
  | markNotificationRead id =>
    exact answering (.call zone ⟨now, .markNotificationRead { userId, id }⟩ rfl rfl)
  | markAllNotificationsRead => exact answering (.core fun _ => markAllNotificationsRead_own)
  | confirmReminder id amount =>
    exact answering (.call zone ⟨now, .confirmReminder { userId, id, amount }⟩ rfl rfl)
  | getSavingGoal id =>
    exact answering (.saving zone ⟨now, .getSavingGoal { userId, id }⟩ rfl)
  | createSavingGoal body => exact answering (.saving zone ⟨now, .createSavingGoal { body with userId }⟩ rfl)
  | updateSavingGoal id body =>
    exact answering (.saving zone ⟨now, .updateSavingGoal { body with userId, id }⟩ rfl)
  | updateSavingGoalProgress id currentAmount =>
    exact answering
      (.saving zone ⟨now, .updateSavingGoalProgress { userId, id, currentAmount }⟩ rfl)
  | archiveSavingGoal id =>
    exact answering (.saving zone ⟨now, .archiveSavingGoal { userId, id }⟩ rfl)
  | getBudgets status =>
    exact .bind (.orThrow _ _) fun _ => answering (.budgetReading fun _ => listActiveBudgetUsage_sat)
  | getBudget id => exact respondWithUsage_serves
  | createBudget body =>
    exact .bind (.budgeting ⟨now, .createBudget { body with userId }⟩ rfl) fun _ => respondWithUsage_serves
  -- A budget is answered together with its usage.
  | updateBudget id categoryIdSent amount =>
    refine .bind (.throwIf _ _) fun _ => .bind ?_ fun _ => respondWithUsage_serves
    exact .budgeting ⟨now, .updateBudgetAmount { userId, budgetId := id, amount }⟩ rfl
  | archiveBudget id =>
    exact .bind (.budgeting ⟨now, .archiveBudget { userId, budgetId := id }⟩ rfl)
      fun _ => respondWithUsage_serves
  | restoreBudget id =>
    exact .bind (.budgeting ⟨now, .restoreBudget { userId, budgetId := id }⟩ rfl)
      fun _ => respondWithUsage_serves

/-- A user who is created is known from then on. -/
theorem createUser_sat {row : User} {history : List ApiStore} {t : ApiStore} (named : row.id = userId)
    (sound : t.Sound) : (createUser row).Sat Rely (fun _ t t' => t' = t ∨ OwnWrite userId t t')
      (fun _ _ t => t.Knows userId) history t := by
  subst named
  refine sat_transact (fun _ _ => .inl rfl) fun t₁ user t' moved made => ?_
  -- The store is sound at the write, because the others keep it sound.
  have sound₁ : t₁.Sound := moved.inv_iff.mp sound
  split at made
  · cases made
  · rename_i created
    cases made
    -- The row is free, so the new user is known after it.
    obtain ⟨users, inserted, free, rfl⟩ := createUser?_some created
    obtain ⟨own, knows⟩ := sound₁.withUser inserted free
    exact ⟨.inr own, knows⟩

/-- A synchronization makes the caller known, with every default category, and writes for the caller alone. -/
theorem sync_sat {identity : VerifiedIdentity} {email name : Option String}
    {history : List ApiStore} {t : ApiStore}
    (sound : t.Sound) : (UserController.sync now identity email name).Sat Rely
      (fun _ t t' => t' = t ∨ OwnWrite identity.sub t t')
      (fun _ _ t => t.Onboarded identity.sub) history t := by
  -- Whoever is known ends up with the default categories.
  have completed : ∀ user created history t, t.Knows identity.sub → (do
      core (ensureDefaultCategories identity.sub)
      return Answer.user user created).Sat Rely (fun _ t t' => t' = t ∨ OwnWrite identity.sub t t')
        (fun _ _ t => t.Onboarded identity.sub) history t := fun user created history t knows =>
    sat_seq (ensureDefaultCategories_completes knows) fun _ _ _ done => sat_ret.mpr done.2
  unfold UserController.sync
  refine sat_orThrow_bind fun email _ => sat_orThrow_bind fun name _ => sat_query_bind fun t₁ moved₁ => ?_
  have sound₁ : t₁.Sound := moved₁.inv_iff.mp sound
  split
  · -- The caller is known already.
    rename_i user found
    exact completed user false _ t₁ ⟨sound₁, by rw [found]; rfl⟩
  -- Otherwise the row is created, unless another request has created it meanwhile.
  · refine sat_seq (createUser_sat rfl sound₁) fun user history t knows => completed user true history t knows

end Routes

section Http

variable (jwtVerify : Instant → String → Option JwtPayload) (zone : Zone)

/-- The user whom the token of a request names. -/
def HttpRequest.caller (request : HttpRequest) : Option Id := (verifyBearer jwtVerify request).map (·.sub)

/-- The requests that leave their caller with every default category. -/
def HttpRequest.Onboards (request : HttpRequest) : Prop :=
  match request.target with
  | .syncUser _ _ => True
  | .endpoint .getCategories => True
  | .endpoint _ => False

/-- Of the routes only the list of categories is such a request. -/
theorem HttpRequest.Onboards.lists {request : HttpRequest} {endpoint : Endpoint} (onboards : request.Onboards)
    (target : request.target = .endpoint endpoint) : endpoint = .getCategories := by
  unfold HttpRequest.Onboards at onboards
  rw [target] at onboards
  cases endpoint with
  | getCategories => rfl
  | _ => exact onboards.elim

/-- What an answered request has left to its caller. -/
def HttpRequest.Concludes (request : HttpRequest) (t : ApiStore) : Prop :=
  request.Onboards → ∀ userId, request.caller jwtVerify = some userId → t.Onboarded userId

/-- Every request writes for its verified caller alone. -/
theorem handleHttp_sat (request : HttpRequest) {t : ApiStore} (sound : t.Sound) :
    (handleHttp jwtVerify zone request).Sat Rely
      (fun _ t t' => t' = t ∨ ∃ userId, request.caller jwtVerify = some userId ∧ OwnWrite userId t t')
      (fun _ _ t => request.Concludes jwtVerify t) [] t := by
  unfold handleHttp
  cases target : request.target with
  | syncUser email name =>
    -- A request without a verified identity is refused.
    refine sat_orThrow_bind fun identity verified => ?_
    have caller : request.caller jwtVerify = some identity.sub := by rw [HttpRequest.caller, verified]; rfl
    refine (sync_sat sound).mono (fun _ _ moved => moved)
      (fun _ _ _ made => made.imp_right fun own => ⟨_, caller, own⟩) fun _ _ t done _ userId named => ?_
    obtain rfl := Option.some.inj (caller.symm.trans named)
    exact done
  | endpoint endpoint =>
    simp only [requireUser, bind_bind]
    refine sat_orThrow_bind fun identity verified => sat_query_bind fun t₁ moved =>
      sat_orThrow_bind fun user found => ?_
    have caller : request.caller jwtVerify = some identity.sub := by rw [HttpRequest.caller, verified]; rfl
    -- The row that was found carries the identifier that was verified.
    obtain named : user.id = identity.sub := Table.key_of_find? found
    have knows : t₁.Knows user.id := ⟨moved.inv_iff.mp sound, by rw [named, found]; rfl⟩
    have served : (route zone request.now user.id endpoint).Sat Rely
        (fun _ t t' => t' = t ∨ OwnWrite user.id t t')
            (fun _ _ t => request.Onboards → t.Onboarded user.id) [t₁] t₁ := by
      -- The list of categories concludes that they are complete, and the other routes nothing.
      by_cases lists : endpoint = .getCategories
      · subst lists
        refine (sat_seq (listCategories_completes knows) fun _ _ _ done => sat_ret.mpr done.2).mono
          (fun _ _ moved => moved) (fun _ _ _ made => made) fun _ _ _ done _ => done
      · exact (route_serves endpoint _ t₁ knows).mono (fun _ _ moved => moved) (fun _ _ _ made => made)
          fun _ _ _ _ onboards => absurd (onboards.lists target) lists
    -- What the route writes is the caller's own.
    refine served.mono (fun _ _ moved => moved)
      (fun _ _ _ made => made.imp_right fun own => ⟨_, named ▸ caller, own⟩)
        fun _ _ t done asked userId same => ?_
    obtain rfl := Option.some.inj (caller.symm.trans same)
    exact named ▸ done asked

/-- The tokens of two users. -/
def tokens (_ : Instant) (token : String) : Option JwtPayload :=
  if token = "alice" then some { sub := some 1, email := some "alice@mint.id" }
  else if token = "bob" then some { sub := some 2, email := some "bob@mint.id" }
  else none

/-- Two users are made known and open a wallet each; the second names the first in the body of the request. -/
def httpRace : List HttpRequest :=
  [{ now := 0, authorization := some "Bearer alice", target := .syncUser none (some "Alice") },
    { now := 0, authorization := some "bearer bob", target := .syncUser none (some "Bob") },
    { now := 0, authorization := some "Bearer alice",
      target := .endpoint (.createWallet { userId := 1, name := "Bank", type := .given .bank }) },
    { now := 0, authorization := some "Bearer bob",
      target := .endpoint (.createWallet { userId := 1, name := "Cash", type := .given .cash }) }]

/-- Both users are made known, and are looked up before either wallet is written. -/
def httpSchedule : List Nat := List.replicate 14 0 ++ List.replicate 14 1 ++ [3, 2, 2]

/-- Requests to the interface may interleave in any order. -/
def httpDiscipline : Discipline (handleHttp jwtVerify zone) fun _ _ => True where
  inv := Sound
  rely _ := Rely
  guar request _ t t' := t' = t ∨ ∃ userId, request.caller jwtVerify = some userId ∧ OwnWrite userId t t'
  post request _ _ t := request.Concludes jwtVerify t
  refl _ := Within.refl
  trans _ := Within.trans Moves.trans
  stable _ _ _ _ _ concluded moved onboards userId named entry among :=
    (moved.moved Moves.refl).hasCategory (concluded onboards userId named entry among)
  compatible _ _ t t' sound _ made := by
    rcases made with rfl | ⟨_, _, own⟩
    · exact ⟨sound, fun _ => .refl _⟩
    · exact ⟨own.sound, fun _ => .inr ⟨sound, own.sound, own.moves⟩⟩

variable {t : ApiStore} (sound : t.Sound) (requests : List HttpRequest) (schedule : List Nat)

include sound

theorem httpDiscipline_start : (httpDiscipline jwtVerify zone).Good (Pool.start t requests) :=
  Discipline.good_start _ fun request _ => handleHttp_sat jwtVerify zone request sound

/--
In every interleaving of requests to the interface the database stays sound: every key points to a row of the
same user, every row's user is known, and budgets are for expense categories of their users. Known users stay
as they are.
-/
theorem http_stays_sound :
    (interleaveHttp jwtVerify zone t requests schedule).store.Sound ∧
    t.Moves (interleaveHttp jwtVerify zone t requests schedule).store := by
  obtain ⟨_, kept, moved⟩ := (httpDiscipline jwtVerify zone).good_exec
    (httpDiscipline_start jwtVerify zone sound requests) sound schedule (Pool.meets_trivial _ _)
  exact ⟨kept, (moved { now := 0, authorization := none, target := .syncUser none none }).moved Moves.refl⟩

omit sound in
/-- The run in which the second user names the first leaves a sound database. -/
theorem http_stays_sound_race :
    (interleaveHttp tokens defaultTimezone.zone .empty httpRace (httpSchedule ++ [3])).store.Sound ∧
    ApiStore.empty.Moves (interleaveHttp tokens defaultTimezone.zone .empty httpRace
      (httpSchedule ++ [3])).store :=
  http_stays_sound tokens defaultTimezone.zone .empty httpRace (httpSchedule ++ [3])

/--
In every interleaving of requests, a step of a request leaves alone all that a user has whom the request's
token does not name, whatever identifiers the request carries; a request without a valid token leaves
everything alone.
-/
theorem http_isolates (position : Nat) (request : HttpRequest) (asked : requests[position]? = some request) :
    let before := (interleaveHttp jwtVerify zone t requests schedule).store
    let after := (interleaveHttp jwtVerify zone t requests (schedule ++ [position])).store
    (∀ userId, request.caller jwtVerify ≠ some userId →
      after.holdings userId = before.holdings userId ∧ after.users.find? userId = before.users.find? userId) ∧
    (request.caller jwtVerify = none → after = before) := by
  intro before after
  -- The step is none, or a write of the verified caller.
  have made : after = before ∨ ∃ userId, request.caller jwtVerify = some userId ∧
      OwnWrite userId before after := by
    -- The invariant holds after the schedule, so the next step keeps to its outline.
    have good := httpDiscipline_start jwtVerify zone sound requests
    rcases (httpDiscipline jwtVerify zone).guar_of_exec good sound schedule
        (Pool.meets_trivial _ _) asked with
      same | ⟨_, made⟩
    · exact .inl same
    · exact made
  constructor
  -- Another user is spared by the write.
  · intro userId other
    rcases made with same | ⟨caller, named, own⟩
    · rw [same]
      exact ⟨rfl, rfl⟩
    · refine own.spares userId ?_
      rintro rfl
      exact other named
  -- Nobody is verified, so nothing is written.
  · intro unverified
    rcases made with same | ⟨caller, named, _⟩
    · exact same
    · rw [unverified] at named
      cases named

omit sound in
/--
The wallet that is asked for in the first user's name is the second's, and the first user's are left alone.
-/
theorem http_isolates_race :
    let before := (interleaveHttp tokens defaultTimezone.zone .empty httpRace httpSchedule).store
    let after := (interleaveHttp tokens defaultTimezone.zone .empty httpRace (httpSchedule ++ [3])).store
    after.holdings 1 = before.holdings 1 ∧
    (before.records.wallets.rows.map fun row => (row.userId, row.name)) = [(1, "Bank")] ∧
    (after.records.wallets.rows.map fun row => (row.userId, row.name)) = [(1, "Bank"), (2, "Cash")] := by
  intro before after
  have isolated := http_isolates tokens defaultTimezone.zone .empty httpRace httpSchedule 3 httpRace[3] rfl
  exact ⟨(isolated.1 1 (by decide +kernel)).1, by decide +kernel, by decide +kernel⟩

end Http

end PocketMint
