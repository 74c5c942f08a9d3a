import PocketMint.Commit.Payment
import PocketMint.Commit.Reminder
import PocketMint.System.Request

/-! Every write that any request can make. -/

namespace PocketMint

open Prog

/-- The creation of a category the user does not have. -/
structure CategoryCreated (userId : Id) (type : CategoryType) (name : String) (row : Category)
    (rows : Table Category) (s s' : Store) : Prop where
  shape : row = { id := s.nextId, userId, name, type }
  inserted : s.categories.insert? row = some rows
  after : s' = { s with nextId := s.nextId + 1, categories := rows }

/-- A write of a call, with what the call had read before it. -/
inductive Commit (between : Store → Store → Prop) (zone : Zone) (call : Call) (seen : List Store)
    (s s' : Store) : Prop where
  | walletCreated {input row rows} (asked : call.request = .createWallet input)
      (made : WalletCreated call.now input row rows s s')
  | walletEdited {input creditLimit interestRate adminFee}
      (asked : call.request = .updateWallet input)
      (made : WalletEdited between input creditLimit interestRate adminFee s s')
  | walletDeleted {input} (asked : call.request = .deleteWallet input)
      (made : WalletDeleted between input s s')
  | regularCreated {input type amount date wallet row rows}
      (asked : call.request = .createTransaction input)
      (made : RegularCreated between call.now input type amount date wallet row rows s s')
      (first : ∃ s₀, seen.head? = some s₀ ∧ between s₀ s) (aimed : TargetRead input wallet seen)
  | creditCreated {input principal rate months mode plan date nextDueDate wallet installment row
      installments rows} (asked : call.request = .createTransaction input)
      (made : CreditCreated between zone call.now input principal rate months mode plan date
        nextDueDate wallet installment row installments rows s s')
      (first : ∃ s₀, seen.head? = some s₀ ∧ between s₀ s) (aimed : TargetRead input wallet seen)
  | transactionUpdated {input existing type amount walletId date}
      (asked : call.request = .updateTransaction input)
      (made : TransactionUpdated between seen input existing type amount walletId date s s')
  | regularDeleted {input existing} (asked : call.request = .deleteTransaction input)
      (made : RegularDeleted between seen input existing s s')
  | installmentDeleted {input existing grandTotal} (asked : call.request = .deleteTransaction input)
      (made : InstallmentDeleted between seen input existing grandTotal s s')
  | installmentPaid {input installment walletName source date due row rows}
      (asked : call.request = .payInstallment input)
      (made : InstallmentPaid between zone call.now seen input installment walletName source date due
        row rows s s')
  | templateCreated {input walletId type amountMode amount frequency startDate endDate reminder row
      rows} (asked : call.request = .createRecurringTransaction input)
      (made : TemplateCreated between input walletId type amountMode amount frequency startDate endDate
        reminder row rows s s')
  | templateEdited {input existing amount startDate endDate reminder}
      (asked : call.request = .updateRecurringTransaction input)
      (made : TemplateEdited between seen input existing amount startDate endDate reminder s s')
  | templateReminded {evaluationDate userId template offsetDays occurrence reminder row rows}
      (asked : call.request = .evaluateReminders evaluationDate userId)
      (made : TemplateReminded zone call.now evaluationDate userId template offsetDays occurrence
        reminder row rows s s')
  | installmentReminded {evaluationDate userId installment occurrence reminder row rows}
      (asked : call.request = .evaluateReminders evaluationDate userId)
      (made : InstallmentReminded zone call.now evaluationDate userId installment occurrence reminder
        row rows s s')
  | eventRead {input} (asked : call.request = .markNotificationRead input)
      (made : EventRead between call.now input s s')
  | reminderConfirmed {input existing template categoryId amount row rows}
      (asked : call.request = .confirmReminder input)
      (made : ReminderConfirmed between call.now seen input existing template categoryId amount row
        rows s s')
  | categoryCreated {userId type name row rows}
      (asked : call.request = .ensureDefaultCategories userId)
      (made : CategoryCreated userId type name row rows s s')

/-- What is known of a call that has answered. -/
def Answered (call : Call) (history : List Store) (s : Store) : Prop :=
  ∀ input, call.request = .confirmReminder input → ConfirmAnswered input.id history s

/-- The transaction that a call rewrites, if it rewrites one. -/
def Call.updated (call : Call) : Option Id :=
  match call.request with
  | .updateTransaction input => some input.id
  | _ => none

/-- The transaction that a response reports as written. -/
def Response.posted : Response → Option Transaction
  | .transaction answer => some answer.transaction
  | .payment answer => some answer.transaction
  | .confirmation answer => some answer.transaction.transaction
  | _ => none

/-- The transaction that an answer reports as written, if it is one that does. -/
def reported (answer : Except Failure Response) : Option Transaction :=
  answer.toOption.bind Response.posted

theorem reported_eq_some {answer : Except Failure Response} {row : Transaction} :
    reported answer = some row ↔ ∃ response, answer = .ok response ∧ response.posted = some row := by
  cases answer <;> simp [reported, Except.toOption]

/-- What is known of a call that has given a response: a transaction it reports was written. -/
def Replied (between : Store → Store → Prop) (zone : Zone) (call : Call) (response : Response)
    (history : List Store) (s : Store) : Prop :=
  Answered call history s ∧ ∀ row ∈ response.posted,
    Wrote (Commit between zone call) call.updated row history s

section Query

variable {rely : Store → Store → Prop} {history : List Store} {s : Store} {zone : Zone}
  {now : Instant}

/-- A sparkline writes nothing. -/
theorem getWalletSparkline_sat {input : GetWalletSparklineInput} :
    (getWalletSparkline zone now input).Sat rely (fun _ s s' => s' = s) (fun _ _ _ => True)
      history s := by
  unfold getWalletSparkline
  refine sat_query_bind fun _ _ => sat_orThrow_bind fun _ _ => sat_ofExcept_bind fun _ _ => ?_
  exact sat_query_bind fun _ _ => sat_ret.mpr trivial

/-- A list of transactions writes nothing. -/
theorem listTransactions_sat {input : ListTransactionsInput} :
    (listTransactions zone now input).Sat rely (fun _ s s' => s' = s) (fun _ _ _ => True)
      history s := by
  unfold listTransactions
  refine sat_throwIf_bind fun _ => sat_ofExcept_bind fun _ _ => ?_
  exact sat_read.mpr fun _ _ => sat_ret.mpr trivial

end Query

section Category

variable {rely : Store → Store → Prop} {history : List Store} {s : Store}

/-- An upsert of a category leaves the store alone, or creates the category that is missing. -/
theorem upsertCategory_sat {userId : Id} {type : CategoryType} {name : String} :
    (CategoryService.upsert userId type name).Sat rely
      (fun _ s s' => s' = s ∨ ∃ type name row rows, CategoryCreated userId type name row rows s s')
      (fun _ _ _ => True) history s := by
  unfold CategoryService.upsert
  refine sat_commit (fun _ _ => .inl rfl) fun s' value after _ done => ⟨?_, trivial⟩
  -- A category of the name is left as it is, and otherwise one is inserted.
  cases taken : s'.categories.rows.find? fun row =>
      row.userId = userId && row.name = name && row.type = type with
  | some category =>
    -- The row that is found is answered, and nothing is written.
    obtain ⟨-, rfl⟩ := by simpa [taken] using done
    exact .inl rfl
  | none =>
    simp only [taken] at done
    -- The new category takes the next identifier.
    obtain ⟨rfl, -, rows, inserted, rfl⟩ := Tx.insert_ok.mp done
    exact .inr ⟨type, name, _, rows, rfl, inserted, rfl⟩

/-- Ensuring the default categories writes nothing but categories that are missing. -/
theorem upsertCategories_sat {userId : Id} (entries : List (CategoryType × String)) :
    (upsertCategories userId entries).Sat rely
      (fun _ s s' => s' = s ∨ ∃ type name row rows, CategoryCreated userId type name row rows s s')
      (fun _ _ _ => True) history s := by
  induction entries generalizing history s with unfold upsertCategories
  | nil => exact sat_ret.mpr trivial
  | cons entry rest ih => exact sat_seq upsertCategory_sat fun _ _ _ _ => ih

end Category

section Handler

variable {between : Store → Store → Prop} {s : Store} {zone : Zone} {call : Call}

/-- An operation whose answer is wrapped in a response keeps its outline. -/
theorem sat_respond {α : Type} {guar : List Store → Store → Store → Prop} {history : List Store}
    {post : α → List Store → Store → Prop} {guar' : List Store → Store → Store → Prop}
    {post' : Response → List Store → Store → Prop} {service : Service α} {respond : α → Response}
    (sat : service.Sat between guar post history s)
    (guarantees : ∀ seen s s', guar seen s s' → guar' seen s s')
    (concludes : ∀ value seen s, post value seen s → post' (respond value) seen s) :
    (service >>= fun value => pure (respond value)).Sat between guar' post' history s := by
  refine sat_seq (sat.mono (fun _ _ same => same) guarantees fun _ _ _ same => same) ?_
  exact fun value seen s done => sat_ret.mpr (concludes value seen s done)

/-- A creation's writes are commits of its call. -/
theorem CreateWrites.commit {input : CreateTransactionInput} {seen : List Store} {s s' : Store}
    (asked : call.request = .createTransaction input)
    (writes : CreateWrites between zone call.now input seen s s') :
    Commit between zone call seen s s' := by
  -- The purchase is booked as a regular row or on an instalment plan.
  obtain ⟨first, ⟨_, _, _, _, _, _, aimed, made⟩ |
    ⟨_, aimed, _, _, _, _, _, _, _, _, _, _, _, made⟩⟩ := writes
  · exact .regularCreated asked made first aimed
  · exact .creditCreated asked made first aimed

/-- An update's writes are commits of its call. -/
theorem UpdateWrites.commit {input : UpdateTransactionInput} {seen : List Store} {s s' : Store}
    (asked : call.request = .updateTransaction input)
    (writes : UpdateWrites between input seen s s') : Commit between zone call seen s s' := by
  obtain ⟨_, _, _, _, _, made⟩ := writes
  exact .transactionUpdated asked made

/-- A payment's writes are commits of its call. -/
theorem PaymentWrites.commit {input : PayInstallmentInput} {seen : List Store} {s s' : Store}
    (asked : call.request = .payInstallment input)
    (writes : PaymentWrites between zone call.now input seen s s') :
    Commit between zone call seen s s' := by
  obtain ⟨_, _, _, _, _, _, _, made⟩ := writes
  exact .installmentPaid asked made

/-- A confirmation's writes are commits of its call. -/
theorem ConfirmWrites.commit {input : ConfirmReminderInput} {seen : List Store} {s s' : Store}
    (asked : call.request = .confirmReminder input)
    (writes : ConfirmWrites between call.now input seen s s') :
    Commit between zone call seen s s' := by
  obtain ⟨_, _, _, _, _, _, made⟩ := writes
  exact .reminderConfirmed asked made

/-- A response of a call that posts nothing is known once the call is. -/
theorem Replied.nothing {response : Response} {history : List Store} {s : Store}
    (other : ∀ input, call.request ≠ .confirmReminder input) (posted : response.posted = none) :
    Replied between zone call response history s :=
  ⟨fun input asked => absurd asked (other input), fun row reported => by simp [posted] at reported⟩

/-- A response that reports what a call wrote is known once the call is. -/
theorem Replied.wrote {response : Response} {row : Transaction} {history : List Store} {s : Store}
    (answered : Answered call history s) (posted : response.posted = some row)
    (wrote : Wrote (Commit between zone call) call.updated row history s) :
    Replied between zone call response history s := by
  refine ⟨answered, fun other reported => ?_⟩
  obtain rfl : row = other := Option.some.inj (posted.symm.trans reported)
  exact wrote

/-- Every call writes nothing but what its request commits, and reports no other transaction. -/
theorem handle_sat (reading : Reading between) (started : s.Numbered) :
    (handle zone call).Sat between (fun seen s s' => s' = s ∨ Commit between zone call seen s s')
      (Replied between zone call) [] s := by
  -- One case for each request; its commits are the ones its own outline allows.
  obtain ⟨stays, chain, -, -⟩ := id reading
  obtain ⟨now, request⟩ := call
  unfold handle
  cases request with
  | createWallet input =>
    refine sat_respond createWallet_sat ?_ fun _ _ _ _ => .nothing (by simp) rfl
    -- It commits a new wallet or nothing.
    rintro _ _ _ (same | ⟨row, rows, made⟩)
    · exact .inl same
    · exact .inr (.walletCreated rfl made)
  | updateWallet input =>
    refine sat_respond updateWallet_sat ?_ fun _ _ _ _ => .nothing (by simp) rfl
    rintro _ _ _ (same | ⟨_, _, _, made⟩)
    · exact .inl same
    · exact .inr (.walletEdited rfl made)
  | deleteWallet input =>
    refine sat_respond (deleteWallet_sat chain) ?_ fun _ _ _ _ => .nothing (by simp) rfl
    rintro _ _ _ (same | made)
    · exact .inl same
    · exact .inr (.walletDeleted rfl made)
  | createTransaction input =>
    exact sat_respond (createTransaction_sat stays chain)
      (fun _ _ _ => Or.imp_right (CreateWrites.commit rfl)) fun _ _ _ wrote =>
        .wrote (by simp [Answered]) rfl (wrote.mono fun _ _ _ => CreateWrites.commit rfl)
  | updateTransaction input =>
    exact sat_respond (updateTransaction_sat stays chain)
      (fun _ _ _ => Or.imp_right (UpdateWrites.commit rfl)) fun _ _ _ wrote =>
        .wrote (by simp [Answered]) rfl (wrote.mono fun _ _ _ => UpdateWrites.commit rfl)
  | deleteTransaction input =>
    refine sat_respond deleteTransaction_sat ?_ fun _ _ _ _ => .nothing (by simp) rfl
    -- A regular row and an instalment are deleted by two commits.
    rintro _ _ _ (same | ⟨_, made⟩ | ⟨_, _, made⟩)
    · exact .inl same
    · exact .inr (.regularDeleted rfl made)
    · exact .inr (.installmentDeleted rfl made)
  | payInstallment input =>
    exact sat_respond (payInstallment_sat chain)
      (fun _ _ _ => Or.imp_right (PaymentWrites.commit rfl)) fun _ _ _ wrote =>
        .wrote (by simp [Answered]) rfl (wrote.mono fun _ _ _ => PaymentWrites.commit rfl)
  | createRecurringTransaction input =>
    refine sat_respond (createRecurringTransaction_sat stays chain) ?_ fun _ _ _ _ =>
      .nothing (by simp) rfl
    rintro _ _ _ (same | ⟨_, _, _, _, _, _, _, _, _, _, made⟩)
    · exact .inl same
    · exact .inr (.templateCreated rfl made)
  | updateRecurringTransaction input =>
    refine sat_respond (updateRecurringTransaction_sat stays chain) ?_ fun _ _ _ _ =>
      .nothing (by simp) rfl
    rintro _ _ _ (same | ⟨_, _, _, _, _, made⟩)
    · exact .inl same
    · exact .inr (.templateEdited rfl made)
  | evaluateReminders evaluationDate userId =>
    refine sat_respond (evaluateReminders_sat reading.later started) ?_ fun _ _ _ _ => .nothing (by simp) rfl
    -- Each round commits a reminder of a template or of an instalment, or nothing.
    rintro _ _ _ (same | ⟨_, _, _, _, _, _, made⟩ | ⟨_, _, _, _, _, made⟩)
    · exact .inl same
    · exact .inr (.templateReminded rfl made)
    · exact .inr (.installmentReminded rfl made)
  | markNotificationRead input =>
    refine sat_respond markNotificationRead_sat ?_ fun _ _ _ _ => .nothing (by simp) rfl
    rintro _ _ _ (same | made)
    · exact .inl same
    · exact .inr (.eventRead rfl made)
  | confirmReminder input =>
    refine sat_respond (confirmReminder_sat reading started)
      (fun _ _ _ => Or.imp_right (ConfirmWrites.commit rfl)) fun _ _ _ ⟨answered, wrote⟩ =>
        .wrote ?_ rfl (wrote.mono fun _ _ _ => ConfirmWrites.commit rfl)
    -- The answer is about the reminder that was asked for.
    intro other same
    obtain rfl : input = other := by simpa using same
    exact answered
  | ensureDefaultCategories userId =>
    refine sat_seq ((upsertCategories_sat _).mono (fun _ _ same => same) ?_ fun _ _ _ done => done)
      fun _ _ _ _ => sat_ret.mpr (.nothing (by simp) rfl)
    -- Each round of the loop commits a category or nothing.
    rintro _ _ _ (same | ⟨_, _, _, _, made⟩)
    · exact .inl same
    · exact .inr (.categoryCreated rfl made)
  | getNetWorth userId =>
    exact sat_query_bind fun _ _ => sat_ret.mpr (.nothing (by simp) rfl)
  | getWalletSparkline input =>
    exact sat_respond getWalletSparkline_sat (fun _ _ _ same => .inl same) fun _ _ _ _ =>
      .nothing (by simp) rfl
  | listTransactions input =>
    exact sat_respond listTransactions_sat (fun _ _ _ same => .inl same) fun _ _ _ _ =>
      .nothing (by simp) rfl

end Handler

end PocketMint
