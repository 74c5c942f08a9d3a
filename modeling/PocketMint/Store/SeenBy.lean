import PocketMint.Program.Local
import PocketMint.Store.Tenant

/-! The database as one user sees it, and the writes that are the same there. -/

namespace PocketMint

/-- A row that is found and passes a test is found in the selection. -/
theorem Table.find?_owned {α : Type} [Keyed α] {table : Table α} {test : α → Bool} {at_ : Nat}
    (owned : ((table.find? at_).filter test).isSome) : (table.filter test).find? at_ = table.find? at_ := by
  -- The row at the key passes the test, so it is among those that are kept.
  obtain ⟨row, found⟩ := Option.isSome_iff_exists.mp owned
  obtain ⟨present, passes⟩ := Option.filter_eq_some_iff.mp found
  apply find?_selected
  rw [present]
  rintro _ ⟨⟩
  exact passes

namespace Store

/-- The rows of one user, under the counter of all. -/
def seenBy (userId : Id) (s : Store) : Store := { s.rowsOf userId with nextId := s.nextId }

variable {s : Store} {userId id : Id}

/-! What a user owns is found where only the user's rows are. -/

theorem wallet_seenBy (own : (s.ownWallet id userId).isSome) :
    (s.seenBy userId).wallets.find? id = s.wallets.find? id := Table.find?_owned own

theorem category_seenBy (own : (s.ownCategory id userId).isSome) :
    (s.seenBy userId).categories.find? id = s.categories.find? id := Table.find?_owned own

theorem transaction_seenBy (own : (s.ownTransaction id userId).isSome) :
    (s.seenBy userId).transactions.find? id = s.transactions.find? id := Table.find?_owned own

theorem installment_seenBy (own : (s.ownInstallment id userId).isSome) :
    (s.seenBy userId).installments.find? id = s.installments.find? id := Table.find?_owned own

theorem template_seenBy (own : (s.ownTemplate id userId).isSome) :
    (s.seenBy userId).templates.find? id = s.templates.find? id := Table.find?_owned own

theorem event_seenBy (own : (s.ownEvent id userId).isSome) :
    (s.seenBy userId).events.find? id = s.events.find? id := Table.find?_owned own

/-- A search for what a user owns finds it among the user's rows. -/
theorem find?_seenBy {α : Type} [Keyed α] {table : Table α} {owner : α → Id} :
    ((table.filter fun row => owner row = userId).find? id).filter (fun row => owner row = userId) =
      (table.find? id).filter fun row => owner row = userId := by
  rw [Table.find?_filter, Option.filter_filter]
  simp

@[simp] theorem ownWallet_seenBy : (s.seenBy userId).ownWallet id userId = s.ownWallet id userId :=
  find?_seenBy

@[simp] theorem ownCategory_seenBy : (s.seenBy userId).ownCategory id userId = s.ownCategory id userId :=
  find?_seenBy

@[simp] theorem ownTransaction_seenBy :
    (s.seenBy userId).ownTransaction id userId = s.ownTransaction id userId := find?_seenBy

@[simp] theorem ownInstallment_seenBy :
    (s.seenBy userId).ownInstallment id userId = s.ownInstallment id userId := find?_seenBy

@[simp] theorem ownTemplate_seenBy : (s.seenBy userId).ownTemplate id userId = s.ownTemplate id userId :=
  find?_seenBy

@[simp] theorem ownEvent_seenBy : (s.seenBy userId).ownEvent id userId = s.ownEvent id userId := find?_seenBy

/-! The foreign keys of a linked row hold, in the whole database and in what its user sees of it. -/

theorem transactionKeys_seenBy {row : Transaction} (links : s.TransactionLinks row)
    (user : row.userId = userId) :
    (s.seenBy userId).TransactionKeys row ↔ s.TransactionKeys row := by
  subst user
  simp only [TransactionKeys, wallet_seenBy links.1]
  -- The rows that the keys name are the user's, and those are found in either store.
  refine and_congr_right fun _ => and_congr ?_ (and_congr ?_ ?_)
  · exact forall₂_congr fun id named => by rw [wallet_seenBy (links.2.1 id named)]
  · exact forall₂_congr fun id named => by rw [category_seenBy (links.2.2.1 id named)]
  · exact forall₂_congr fun id named => by rw [installment_seenBy (links.2.2.2 id named)]

theorem templateKeys_seenBy {row : RecurringTransactionTemplate} (links : s.TemplateLinks row)
    (user : row.userId = userId) : (s.seenBy userId).TemplateKeys row ↔ s.TemplateKeys row := by
  subst user
  simp only [TemplateKeys, wallet_seenBy links.1]
  exact and_congr_right fun _ => forall₂_congr fun id named => by rw [category_seenBy (links.2 id named)]

theorem eventKeys_seenBy {row : RecurringReminderEvent} (links : s.EventLinks row)
    (user : row.userId = userId) :
    (s.seenBy userId).EventKeys row ↔ s.EventKeys row := by
  subst user
  -- A reminder names a template, a plan or a transaction of its own user.
  refine and_congr ?_ (and_congr ?_ ?_)
  · exact forall₂_congr fun id named => by rw [template_seenBy (links.1 id named)]
  · exact forall₂_congr fun id named => by rw [installment_seenBy (links.2.1 id named)]
  · exact forall₂_congr fun id named => by rw [transaction_seenBy (links.2.2 id named)]

/-! What a response includes of a linked row is the user's. -/

theorem includeTransaction_seenBy {row : Transaction} (links : s.TransactionLinks row)
    (user : row.userId = userId) : (s.seenBy userId).includeTransaction row = s.includeTransaction row := by
  subst user
  -- The wallet is the user's, and so is the category where there is one.
  simp only [includeTransaction, wallet_seenBy links.1, TransactionWithRelations.mk.injEq, true_and]
  cases named : row.categoryId with
  | none => rfl
  | some id => simp [category_seenBy (links.2.2.1 id named)]

/-! Movements of money, and deletions, are the same in what a user sees. -/

theorem seenBy_credit (deltas : List WalletDelta) :
    (s.credit deltas).seenBy userId = (s.seenBy userId).credit deltas := by
  simp only [seenBy, rowsOf, credit, Store.mk.injEq, true_and, and_true]
  exact Table.filter_rewritten rfl rfl (fun _ => rfl) fun _ _ _ => rfl

section Deletions

theorem seenBy_deleteTransaction (id : Id) :
    (s.deleteTransaction id).seenBy userId = (s.seenBy userId).deleteTransaction id := by
  simp only [seenBy, rowsOf, deleteTransaction, Store.mk.injEq, true_and]
  exact ⟨Table.filter_filter fun _ _ _ => rfl, Table.filter_rewritten rfl rfl (fun _ => rfl) fun _ _ _ => rfl⟩

theorem seenBy_deleteInstallment (id : Id) :
    (s.deleteInstallment id).seenBy userId = (s.seenBy userId).deleteInstallment id := by
  simp only [seenBy, rowsOf, deleteInstallment, Store.mk.injEq, true_and]
  exact ⟨Table.filter_rewritten rfl rfl (fun _ => rfl) fun _ _ _ => rfl, Table.filter_filter fun _ _ _ => rfl,
    Table.filter_filter fun _ _ _ => rfl⟩

/-- What goes with a wallet is decided among the user's rows, as the user's rows name no others. -/
theorem seenBy_deleteWallet (linked : s.Linked) (id : Id) :
    (s.deleteWallet id).seenBy userId = (s.seenBy userId).deleteWallet id := by
  -- Whether something of the user is on the wallet is the same question in either store.
  have installment : ∀ other, (s.ownInstallment other userId).isSome →
      s.installmentOn id other = (s.seenBy userId).installmentOn id other := by
    intro other own
    rw [installmentOn, installmentOn, installment_seenBy own]
  have template : ∀ other, (s.ownTemplate other userId).isSome →
      s.templateOn id other = (s.seenBy userId).templateOn id other := by
    intro other own
    rw [templateOn, templateOn, template_seenBy own]
  have transaction : ∀ other, (s.ownTransaction other userId).isSome →
      s.transactionOn id other = (s.seenBy userId).transactionOn id other := by
    intro other own
    rw [transactionOn, transactionOn, transaction_seenBy own]
  -- So a link of the user is kept or forgotten alike.
  have kept : ∀ {named : Option Id} {test test' : Id → Bool}, (∀ other ∈ named, test other = test' other) →
      named.filter test = named.filter test' ∧ named.any test = named.any test' := by
    intro named test test' same
    cases named with
    | none => exact ⟨rfl, rfl⟩
    | some other => simp [Option.filter, same other rfl]
  apply Store.ext
  · rfl
  · rfl
  · exact Table.filter_filter fun _ _ _ => rfl
  · have among : (s.transactions.filter fun row => row.walletId ≠ id).filter
      (fun row => row.userId = userId) =
        (s.transactions.filter fun row => row.userId = userId).filter fun row => row.walletId ≠ id :=
      Table.filter_filter fun _ _ _ => rfl
    refine Table.filter_rewritten rfl
      (congrArg (fun table : Table Transaction => table.rows.map _) among.symm)
      (fun _ => rfl) fun row member mine => ?_
    -- The instalment of the user's transaction is the user's.
    have links := (linked.transactions row (List.mem_filter.mp member).1).2.2.2
    rw [of_decide_eq_true mine] at links
    have backing : row.installmentId.filter (fun other => !s.installmentOn id other) =
        row.installmentId.filter fun other => !(s.seenBy userId).installmentOn id other :=
      (kept fun other named => by rw [installment other (links other named)]).1
    simp only [backing]
  · exact Table.filter_filter fun _ _ _ => rfl
  · exact Table.filter_filter fun _ _ _ => rfl
  · -- So are the template, the instalment and the transaction that the user's reminder names.
    have links : ∀ row ∈ s.events.rows, decide (row.userId = userId) = true →
        (∀ other ∈ row.templateId, (s.ownTemplate other userId).isSome) ∧
        (∀ other ∈ row.installmentId, (s.ownInstallment other userId).isSome) ∧
        (∀ other ∈ row.generatedTransactionId, (s.ownTransaction other userId).isSome) := by
      intro row member mine
      exact of_decide_eq_true mine ▸ linked.events row member
    -- The reminders of the user that stay are the ones that stay among the user's.
    have among : (s.events.filter fun row => !row.templateId.any (s.templateOn id) &&
          !row.installmentId.any (s.installmentOn id)).filter (fun row => row.userId = userId) =
        (s.events.filter fun row => row.userId = userId).filter fun row =>
          !row.templateId.any ((s.seenBy userId).templateOn id) &&
            !row.installmentId.any ((s.seenBy userId).installmentOn id) := by
      refine Table.filter_filter fun row member mine => ?_
      obtain ⟨templates, installments, _⟩ := links row member mine
      rw [(kept fun other named => template other (templates other named)).2,
        (kept fun other named => installment other (installments other named)).2]
    refine Table.filter_rewritten rfl
      (congrArg (fun table : Table RecurringReminderEvent => table.rows.map _) among.symm)
      (fun _ => rfl) fun row member mine => ?_
    -- And the transaction that was generated is forgotten in both or in neither.
    obtain ⟨_, _, transactions⟩ := links row (List.mem_filter.mp member).1 mine
    have made : row.generatedTransactionId.filter (fun other => !s.transactionOn id other) =
        row.generatedTransactionId.filter fun other => !(s.seenBy userId).transactionOn id other :=
      (kept fun other named => by rw [transaction other (transactions other named)]).1
    simp only [made]

end Deletions

end Store

/-! Bodies of transactions that are the same in what a user sees. -/

namespace Tx

variable {α β : Type} {userId : Id} {s : Store}

/-- A body that answers the same where only one user's rows are, and leaves there what that user sees. -/
def Local (userId : Id) (body : Tx α) (s : Store) : Prop :=
  body (s.seenBy userId) = (body s).map fun result => (result.1, result.2.seenBy userId)

theorem local_pure (value : α) : Local userId (pure value) s := rfl

theorem local_refuse (error : Failure) : Local userId (refuse error : Tx α) s := rfl

theorem local_lift (computed : Except String α) : Local userId (lift computed) s := by
  cases computed <;> rfl

theorem local_view {read : Store → α} (same : read (s.seenBy userId) = read s) :
    Local userId (view read) s := by
  simp [Local, view, same, Except.map]

theorem local_bind {first : Tx α} {rest : α → Tx β} (here : Local userId first s)
    (next : ∀ value s', first s = .ok (value, s') → Local userId (rest value) s') :
    Local userId (first >>= rest) s := by
  -- Seen by the user the first part ends alike, with the same value or the same error.
  show (first (s.seenBy userId)).bind _ = ((first s).bind _).map _
  rw [here]
  cases done : first s with
  | error error => rfl
  | ok result => exact next result.1 result.2 done

/-- A movement between wallets of the user is the same where only those are. -/
theorem local_applyBalanceDeltas {deltas : List WalletDelta}
    (own : ∀ delta ∈ deltas, (s.ownWallet delta.walletId userId).isSome) :
    Local userId (applyBalanceDeltas deltas) s := by
  -- The wallets of the deltas are the user's, so they exist in both stores or in neither.
  have same : (∀ delta ∈ deltas, delta.amount ≠ 0 → ((s.seenBy userId).wallets.find? delta.walletId).isSome) ↔
      ∀ delta ∈ deltas, delta.amount ≠ 0 → (s.wallets.find? delta.walletId).isSome :=
    forall₂_congr fun delta listed => by rw [Store.wallet_seenBy (own delta listed)]
  rw [Local, applyBalanceDeltas_eq, applyBalanceDeltas_eq]
  simp only [same, ← Store.seenBy_credit]
  split <;> rfl

/-- A computed movement is applied, and what follows it finds the wallets credited. -/
theorem local_movement {computed : Except String (List WalletDelta)} {rest : Tx β}
    (own : ∀ deltas, computed = .ok deltas → ∀ delta ∈ deltas, (s.ownWallet delta.walletId userId).isSome)
    (next : ∀ deltas, Local userId rest (s.credit deltas)) :
    Local userId (do
      let deltas ← lift computed
      applyBalanceDeltas deltas
      rest) s := by
  refine local_bind (local_lift computed) fun deltas s' done => ?_
  -- The deltas are computed without the store.
  obtain ⟨known, rfl⟩ := lift_ok.mp done
  refine local_bind (local_applyBalanceDeltas (own deltas known)) fun _ s' done => ?_
  -- What is left runs on the credited store.
  obtain ⟨_, rfl⟩ := applyBalanceDeltas_ok.mp done
  exact next deltas

section Rows

variable [Keyed α] {keys : Store → α → Prop} [∀ s, DecidablePred (keys s)]

/-- A row of the user is inserted among the user's rows. -/
theorem local_insert (owner : α → Id) {table : Store → Table α}
    {put : Store → Table α → Store} {data : Id → α}
    (among : table (s.seenBy userId) = (table s).filter fun row => owner row = userId)
    (puts : ∀ rows, (put { s with nextId := s.nextId + 1 } rows).seenBy userId =
      put { s.seenBy userId with nextId := s.nextId + 1 } (rows.filter fun row => owner row = userId))
    (keyed : keys (s.seenBy userId) (data s.nextId) ↔ keys s (data s.nextId))
    (user : owner (data s.nextId) = userId) (free : (table s).find? (Keyed.key (data s.nextId)) = none) :
    Local userId (insert table put keys data) s := by
  -- The key is free in the whole table, and so it is among the user's rows.
  obtain ⟨rows, inserted⟩ := Table.exists_insert free
  have inserted' : (table (s.seenBy userId)).insert? (data s.nextId) =
      some (rows.filter fun row => owner row = userId) := by
    rw [among, Table.insert?_selected (by simpa using user) free, inserted, Option.map_some]
  -- The counter is shared, so both insertions take the same identifier.
  have counter : (s.seenBy userId).nextId = s.nextId := rfl
  simp only [Local, insert, counter, keyed, inserted, inserted']
  split
  · rfl
  · simp [Except.map, puts]

/-- A row of the user is rewritten among the user's rows. -/
theorem local_modify {find : Store → Option α} {put : Store → Store} {rewrite : α → α}
    (found : find (s.seenBy userId) = find s) (puts : (put s).seenBy userId = put (s.seenBy userId))
    (keyed : ∀ row, find s = some row → (keys (s.seenBy userId) (rewrite row) ↔ keys s (rewrite row))) :
    Local userId (modify find put keys rewrite) s := by
  rw [Local, modify, modify, found]
  -- Both stores find the same row, and its keys hold in both or in neither.
  cases present : find s with
  | none => rfl
  | some row =>
    simp only [keyed row present]
    split
    · rfl
    · simp [Except.map, puts]

omit [Keyed α] in
/-- A row of the user is deleted among the user's rows. -/
theorem local_delete {find : Store → Option α} {action : Store → Store}
    (found : find (s.seenBy userId) = find s)
    (acts : (action s).seenBy userId = action (s.seenBy userId)) : Local userId (delete find action) s := by
  rw [Local, delete, delete, found]
  cases find s with
  | none => rfl
  | some row => simp [Except.map, acts]

end Rows

/-- A transaction whose body is the same in what a user sees is so as a whole. -/
theorem local_commit {rethrow : Failure → Failure} {body : Tx α} (same : Local userId body s) :
    (commit rethrow body).Local (Store.seenBy userId) s := by
  apply Prog.local_transact
  rw [same]
  cases body s <;> rfl

end Tx

end PocketMint
