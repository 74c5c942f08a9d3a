import PocketMint.Domain.BalanceLaws
import PocketMint.Store.Client
import PocketMint.Program.Rely

/-! What the database client's writes do when they succeed. -/

namespace PocketMint

/-- Rewriting errors changes no result. -/
theorem mapError_ok {ε ε' α : Type} {computed : Except ε α} {rewrite : ε → ε'} {value : α} :
    computed.mapError rewrite = .ok value ↔ computed = .ok value := by
  cases computed <;> simp [Except.mapError]

/-- A commit keeps its promise when every way its body can succeed does. -/
theorem sat_commit {α : Type} {rely : Store → Store → Prop}
    {guar : List Store → Store → Store → Prop} {post : α → List Store → Store → Prop}
    {history : List Store} {s : Store} {rethrow : Failure → Failure} {body : Tx α}
    (still : ∀ s', rely s s' → guar history s' s')
    (commits : ∀ s' value after, rely s s' → body s' = .ok (value, after) →
      guar history s' after ∧ post value (history ++ [s']) after) :
    (commit rethrow body).Sat rely guar post history s :=
  Prog.sat_transact still fun s' value after moved done =>
    commits s' value after moved (mapError_ok.mp done)

/-- A commit whose body answers leaves the store that the body leaves. -/
theorem run_commit_ok {α : Type} {rethrow : Failure → Failure} {body : Tx α} {s s' : Store} {value : α}
    (done : body s = .ok (value, s')) : (commit rethrow body).run s = (.ok value, s') := by
  simp [commit, Prog.transact, Prog.run, done, Except.mapError]

namespace Store

variable {s : Store} {id userId : Id}

/-! A scoped read answers with the row of the identifier, when it is the user's. -/

theorem ownWallet_eq_some {row : Wallet} :
    s.ownWallet id userId = some row ↔ s.wallets.find? id = some row ∧ row.userId = userId := by
  simp [ownWallet, Option.filter_eq_some_iff]

theorem ownCategory_eq_some {row : Category} :
    s.ownCategory id userId = some row ↔ s.categories.find? id = some row ∧ row.userId = userId := by
  simp [ownCategory, Option.filter_eq_some_iff]

theorem ownTransaction_eq_some {row : Transaction} :
    s.ownTransaction id userId = some row ↔
      s.transactions.find? id = some row ∧ row.userId = userId := by
  simp [ownTransaction, Option.filter_eq_some_iff]

theorem ownInstallment_eq_some {row : Installment} :
    s.ownInstallment id userId = some row ↔
      s.installments.find? id = some row ∧ row.userId = userId := by
  simp [ownInstallment, Option.filter_eq_some_iff]

theorem ownTemplate_eq_some {row : RecurringTransactionTemplate} :
    s.ownTemplate id userId = some row ↔ s.templates.find? id = some row ∧ row.userId = userId := by
  simp [ownTemplate, Option.filter_eq_some_iff]

theorem ownEvent_eq_some {row : RecurringReminderEvent} :
    s.ownEvent id userId = some row ↔ s.events.find? id = some row ∧ row.userId = userId := by
  simp [ownEvent, Option.filter_eq_some_iff]

end Store

/-- Add to every wallet's balance the deltas on it. -/
def Store.credit (s : Store) (deltas : List WalletDelta) : Store :=
  { s with
    wallets := s.wallets.mapRows fun row =>
      { row with balance := row.balance + WalletDelta.on deltas row.id } }

namespace Tx

variable {α β : Type}

/-- A sequence commits when its parts do, one after the other. -/
theorem bind_ok {first : Tx α} {second : α → Tx β} {s after : Store} {value : β} :
    (first >>= second) s = .ok (value, after) ↔
      ∃ middle between, first s = .ok (middle, between) ∧ second middle between = .ok (value, after) := by
  -- An error of the first part is the error of the whole.
  cases outcome : first s with
  | error error => simp [bind, StateT.bind, Except.bind, outcome]
  -- The second part starts from what the first has left.
  | ok result =>
    obtain ⟨middle, between⟩ := result
    simp [bind, StateT.bind, Except.bind, outcome]

@[simp] theorem pure_ok {value result : α} {s after : Store} :
    (pure value : Tx α) s = .ok (result, after) ↔ value = result ∧ s = after := by
  have done : (pure value : Tx α) s = .ok (value, s) := rfl
  rw [done, Except.ok.injEq, Prod.mk.injEq]

@[simp] theorem refuse_ok {error : Failure} {value : α} {s after : Store} :
    (refuse error : Tx α) s = .ok (value, after) ↔ False := by
  simp [refuse]

@[simp] theorem lift_ok {computed : Except String α} {value : α} {s after : Store} :
    lift computed s = .ok (value, after) ↔ computed = .ok value ∧ s = after := by
  cases computed <;> simp [lift]

@[simp] theorem view_ok {read : Store → α} {value : α} {s after : Store} :
    view read s = .ok (value, after) ↔ read s = value ∧ s = after := by
  simp [view]

/-- An insertion commits with the next identifier, when the row's keys hold and that is free. -/
theorem insert_ok [Keyed α] {table : Store → Table α} {put : Store → Table α → Store}
    {keys : Store → α → Prop} [∀ s, DecidablePred (keys s)] {data : Id → α} {row : α}
    {s after : Store} :
    insert table put keys data s = .ok (row, after) ↔
      row = data s.nextId ∧ keys s row ∧ ∃ rows, (table s).insert? row = some rows ∧
        after = put { s with nextId := s.nextId + 1 } rows := by
  unfold insert
  -- The keys are checked first, and then the number must be free.
  by_cases held : keys s (data s.nextId)
  · cases inserted : (table s).insert? (data s.nextId) with
    | none =>
      simp only [held, not_true_eq_false, if_false, reduceCtorEq, false_iff]
      rintro ⟨rfl, -, rows, present, -⟩
      simp [inserted] at present
    | some rows =>
      simp only [held, not_true_eq_false, if_false, Except.ok.injEq, Prod.mk.injEq]
      constructor
      · rintro ⟨rfl, rfl⟩
        exact ⟨rfl, held, rows, inserted, rfl⟩
      · rintro ⟨rfl, -, other, present, rfl⟩
        rw [inserted, Option.some.injEq] at present
        exact ⟨rfl, by rw [present]⟩
  · simp only [held, not_false_eq_true, if_true, reduceCtorEq, false_iff]
    rintro ⟨rfl, now, -⟩
    exact held now

/-- A transaction row is inserted under the next identifier. -/
theorem createTransaction_ok {data : Id → Transaction} {row : Transaction} {s after : Store} :
    createTransaction data s = .ok (row, after) ↔
      row = data s.nextId ∧ s.TransactionKeys row ∧ ∃ rows, s.transactions.insert? row = some rows ∧
        after = { s with nextId := s.nextId + 1, transactions := rows } := insert_ok

/-- An instalment row that fits its columns is inserted under the next identifier. -/
theorem createInstallment_ok {data : Id → Installment} {row : Installment} {s after : Store} :
    createInstallment data s = .ok (row, after) ↔
      row.Fits ∧ row = data s.nextId ∧ s.InstallmentKeys row ∧
        ∃ rows, s.installments.insert? row = some rows ∧
          after = { s with nextId := s.nextId + 1, installments := rows } := by
  unfold createInstallment
  by_cases fits : (data s.nextId).Fits
  · -- Within the columns' range it is an insertion like any other.
    simp only [fits, not_true_eq_false, if_false]
    refine insert_ok.trans ⟨?_, And.right⟩
    rintro ⟨rfl, inserted⟩
    exact ⟨fits, rfl, inserted⟩
  · simp only [fits, not_false_eq_true, if_true, reduceCtorEq, false_iff]
    rintro ⟨within, rfl, -⟩
    exact fits within

/-- A modification commits when its row exists and the new row's keys hold. -/
theorem modify_ok [Keyed α] {find : Store → Option α} {put : Store → Store}
    {keys : Store → α → Prop} [∀ s, DecidablePred (keys s)] {rewrite : α → α} {value : α}
    {s after : Store} :
    modify find put keys rewrite s = .ok (value, after) ↔
      ∃ row, find s = some row ∧ keys s (rewrite row) ∧ value = rewrite row ∧ after = put s := by
  unfold modify
  -- The row must be there, and its keys are checked after the rewriting.
  cases found : find s with
  | none => simp
  | some row =>
    by_cases held : keys s (rewrite row)
    · simp only [held, not_true_eq_false, if_false, Except.ok.injEq, Prod.mk.injEq,
        Option.some.injEq, exists_eq_left', true_and]
      exact and_congr eq_comm eq_comm
    · simp [held]

/-- A transaction row is rewritten when it exists and its new foreign keys hold. -/
theorem updateTransaction_ok {id : Id} {rewrite : Transaction → Transaction}
    {keeps : ∀ row, (rewrite row).id = row.id} {value : Transaction} {s after : Store} :
    updateTransaction id rewrite keeps s = .ok (value, after) ↔
      ∃ row, s.transactions.find? id = some row ∧ s.TransactionKeys (rewrite row) ∧
        value = rewrite row ∧
        after = { s with transactions := s.transactions.update id rewrite keeps } := modify_ok

/-- An instalment row is rewritten when it exists and its new foreign keys hold. -/
theorem updateInstallment_ok {id : Id} {rewrite : Installment → Installment}
    {keeps : ∀ row, (rewrite row).id = row.id} {value : Installment} {s after : Store} :
    updateInstallment id rewrite keeps s = .ok (value, after) ↔
      ∃ row, s.installments.find? id = some row ∧ s.InstallmentKeys (rewrite row) ∧
        value = rewrite row ∧
        after = { s with installments := s.installments.update id rewrite keeps } := modify_ok

/-- A reminder row is inserted under the next identifier. -/
theorem createEvent_ok {data : Id → RecurringReminderEvent} {row : RecurringReminderEvent}
    {s after : Store} :
    createEvent data s = .ok (row, after) ↔
      row = data s.nextId ∧ s.EventKeys row ∧ ∃ rows, s.events.insert? row = some rows ∧
        after = { s with nextId := s.nextId + 1, events := rows } := insert_ok

/-- A template row is inserted under the next identifier. -/
theorem createTemplate_ok {data : Id → RecurringTransactionTemplate}
    {row : RecurringTransactionTemplate} {s after : Store} :
    createTemplate data s = .ok (row, after) ↔
      row = data s.nextId ∧ s.TemplateKeys row ∧ ∃ rows, s.templates.insert? row = some rows ∧
        after = { s with nextId := s.nextId + 1, templates := rows } := insert_ok

/-- A template row is rewritten when it exists and its new foreign keys hold. -/
theorem updateTemplate_ok {id : Id}
    {rewrite : RecurringTransactionTemplate → RecurringTransactionTemplate}
    {keeps : ∀ row, (rewrite row).id = row.id} {value : RecurringTransactionTemplate}
    {s after : Store} :
    updateTemplate id rewrite keeps s = .ok (value, after) ↔
      ∃ row, s.templates.find? id = some row ∧ s.TemplateKeys (rewrite row) ∧
        value = rewrite row ∧
        after = { s with templates := s.templates.update id rewrite keeps } := modify_ok

/-- A reminder row is rewritten when it exists and its new foreign keys hold. -/
theorem updateEvent_ok {id : Id} {rewrite : RecurringReminderEvent → RecurringReminderEvent}
    {keeps : ∀ row, (rewrite row).id = row.id} {value : RecurringReminderEvent} {s after : Store} :
    updateEvent id rewrite keeps s = .ok (value, after) ↔
      ∃ row, s.events.find? id = some row ∧ s.EventKeys (rewrite row) ∧ value = rewrite row ∧
        after = { s with events := s.events.update id rewrite keeps } := modify_ok

/-- A deletion commits when its row exists. -/
theorem delete_ok {find : Store → Option α} {action : Store → Store} {s after : Store} :
    delete find action s = .ok ((), after) ↔ (find s).isSome ∧ after = action s := by
  unfold delete
  cases found : find s with
  | none => simp
  | some row => simp [eq_comm]

end Tx

namespace Store

@[simp] theorem credit_nil (s : Store) : s.credit [] = s := by
  simp [credit, Table.mapRows]

/-- A delta of nothing changes no balance. -/
theorem credit_cons_zero (s : Store) {delta : WalletDelta} (rest : List WalletDelta)
    (nothing : delta.amount = 0) : s.credit (delta :: rest) = s.credit rest := by
  simp [credit, nothing]

/-- Deltas can be applied one increment at a time. -/
theorem credit_cons (s : Store) (delta : WalletDelta) (rest : List WalletDelta) :
    s.credit (delta :: rest) =
      Store.credit { s with
        wallets := s.wallets.update delta.walletId fun row =>
          { row with balance := row.balance + delta.amount } } rest := by
  simp only [credit, Store.mk.injEq, true_and, and_true]
  -- Both sides rewrite the same rows, so one row is compared with itself.
  refine Table.ext (List.ext_getElem? fun position => ?_)
  simp only [Table.update, Table.rows_mapRows, List.getElem?_map, Option.map_map]
  congr 1
  funext row
  have key : Keyed.key row = row.id := rfl
  simp only [Function.comp_apply, WalletDelta.on_cons, key, eq_comm (a := delta.walletId)]
  split <;> simp [add_assoc]

/-- Crediting twice is crediting all at once. -/
theorem credit_credit (s : Store) (first second : List WalletDelta) :
    (s.credit first).credit second = s.credit (first ++ second) := by
  simp [credit, Table.mapRows, Function.comp_def, add_assoc]

/-- Crediting keeps which wallets exist. -/
@[simp] theorem credit_find_isSome (s : Store) (deltas : List WalletDelta) (id : Id) :
    ((s.credit deltas).wallets.find? id).isSome = (s.wallets.find? id).isSome := by
  simp [credit]

end Store

/-- Applying deltas credits every wallet at once, unless one that is owed something is gone. -/
theorem applyBalanceDeltas_eq (deltas : List WalletDelta) (s : Store) :
    (applyBalanceDeltas deltas) s =
      if ∀ delta ∈ deltas, delta.amount ≠ 0 → (s.wallets.find? delta.walletId).isSome then
        .ok ((), s.credit deltas)
      else .error (.prisma "P2025") := by
  -- The deltas are applied from the front; each increment keeps which wallets exist.
  induction deltas generalizing s with
  | nil =>
    have done : (applyBalanceDeltas []) s = .ok ((), s) := rfl
    simp [done]
  | cons delta rest ih =>
    by_cases nothing : delta.amount = 0
    · have skip : (applyBalanceDeltas (delta :: rest)) s = (applyBalanceDeltas rest) s := by
        simp [applyBalanceDeltas, nothing]
      rw [skip, ih, Store.credit_cons_zero s rest nothing]
      simp [nothing]
    · cases found : s.wallets.find? delta.walletId with
      | none =>
        have stop : (applyBalanceDeltas (delta :: rest)) s = .error (.prisma "P2025") := by
          simp [applyBalanceDeltas, nothing, Tx.incrementBalance, Tx.updateWallet, Tx.modify, found,
            bind, StateT.bind, Except.bind]
        simp [stop, nothing, found]
      | some row =>
        have step : (applyBalanceDeltas (delta :: rest)) s =
            (applyBalanceDeltas rest) { s with
              wallets := s.wallets.update delta.walletId fun row =>
                { row with balance := row.balance + delta.amount } } := by
          simp [applyBalanceDeltas, nothing, Tx.incrementBalance, Tx.updateWallet, Tx.modify, found,
            bind, StateT.bind, Except.bind]
        have same : ∀ id, ((s.wallets.update delta.walletId fun row =>
            { row with balance := row.balance + delta.amount }).find? id).isSome =
              (s.wallets.find? id).isSome := by
          intro id
          rw [Table.find?_update]
          split <;> simp
        rw [step, ih, Store.credit_cons]
        simp only [same, List.forall_mem_cons, found, Option.isSome_some, implies_true, true_and]

/-- Crediting keeps which foreign keys hold. -/
@[simp] theorem Store.transactionKeys_credit (s : Store) (deltas : List WalletDelta)
    (row : Transaction) : (s.credit deltas).TransactionKeys row ↔ s.TransactionKeys row := by
  simp [TransactionKeys, credit]

/-- One increment credits its wallet, which must exist. -/
theorem Tx.incrementBalance_ok {walletId : Id} {amount : Decimal} {row : Wallet} {s after : Store}
    (done : (Tx.incrementBalance walletId amount) s = .ok (row, after)) :
    (s.wallets.find? walletId).isSome ∧ after = s.credit [⟨walletId, amount⟩] := by
  unfold Tx.incrementBalance at done
  obtain ⟨row, found, -, -, rfl⟩ := Tx.modify_ok.mp done
  refine ⟨by simp [found], ?_⟩
  rw [Store.credit_cons, Store.credit_nil]
  rfl

/-- Deltas that were applied credited every wallet at once. -/
theorem applyBalanceDeltas_ok {deltas : List WalletDelta} {s after : Store} :
    (applyBalanceDeltas deltas) s = .ok ((), after) ↔
      (∀ delta ∈ deltas, delta.amount ≠ 0 → (s.wallets.find? delta.walletId).isSome) ∧
      after = s.credit deltas := by
  rw [applyBalanceDeltas_eq]
  split
  · rename_i present
    simp only [Except.ok.injEq, Prod.mk.injEq, true_and]
    exact ⟨fun same => ⟨present, same.symm⟩, fun result => result.2.symm⟩
  · rename_i absent
    simp [absent]

end PocketMint
