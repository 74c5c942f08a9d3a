import PocketMint.Commit.Request

/-! The writes that post a transaction, and what the other writes leave of the transactions. -/

namespace PocketMint

open Prog TransactionService

/-- A write that posts a row: a creation, an update, a payment or a confirmation. -/
inductive Posting (between : Store → Store → Prop) (zone : Zone) (call : Call) (seen : List Store)
    (row : Transaction) (s s' : Store) : Prop where
  | regular {input type amount date wallet rows} (asked : call.request = .createTransaction input)
      (made : RegularCreated between call.now input type amount date wallet row rows s s')
      (first : ∃ s₀, seen.head? = some s₀ ∧ between s₀ s) (aimed : TargetRead input wallet seen)
  | credit {input principal rate months mode plan date nextDueDate wallet installment installments
      rows} (asked : call.request = .createTransaction input)
      (made : CreditCreated between zone call.now input principal rate months mode plan date
        nextDueDate wallet installment row installments rows s s')
      (first : ∃ s₀, seen.head? = some s₀ ∧ between s₀ s) (aimed : TargetRead input wallet seen)
  | update {input existing type amount walletId date old}
      (asked : call.request = .updateTransaction input)
      (made : TransactionUpdated between seen input existing type amount walletId date s s')
      (stored : s.transactions.find? input.id = some old)
      (shape : row =
        updatedRow input type amount walletId (newToWalletId input existing type) date old)
  | payment {input installment walletName source date due rows}
      (asked : call.request = .payInstallment input)
      (made : InstallmentPaid between zone call.now seen input installment walletName source date due
        row rows s s')
  | confirmation {input existing template categoryId amount rows}
      (asked : call.request = .confirmReminder input)
      (made : ReminderConfirmed between call.now seen input existing template categoryId amount row
        rows s s')

variable {between : Store → Store → Prop} {zone : Zone} {call : Call} {seen : List Store}
  {row : Transaction} {s s' : Store}

/-- A posted row was posted by one of the writes that post. -/
theorem Commit.posting (commit : Commit between zone call seen s s')
    (posts : Posts call.updated row s s') : Posting between zone call seen row s s' := by
  -- A write of another kind leaves no transaction that was not there before.
  have old : call.updated = none → (s'.transactions.find? row.id = some row →
      s.transactions.find? row.id ≠ none) → Posting between zone call seen row s s' := by
    intro nothing kept
    obtain ⟨found, fresh | updated⟩ := posts
    · exact absurd fresh (kept found)
    · simp [nothing] at updated
  cases commit with
  | regularCreated asked made first aimed =>
    simp only [Call.updated, asked] at posts
    obtain rfl := posts.eq_inserted made.inserted (by rw [made.after]; rfl)
    exact .regular asked made first aimed
  | creditCreated asked made first aimed =>
    simp only [Call.updated, asked] at posts
    obtain rfl := posts.eq_inserted made.inserted (by rw [made.after]; rfl)
    exact .credit asked made first aimed
  | @transactionUpdated input _ _ _ _ _ asked made =>
    obtain ⟨stored, here⟩ := Option.isSome_iff_exists.mp made.found
    refine .update asked made here ?_
    obtain ⟨found, fresh | updated⟩ := posts
    · -- An update makes no row, so the posted one was there.
      -- The row would have to be absent before, but rewriting adds no row.
      rw [made.after] at found
      simp only [Store.credit, Table.find?_update, fresh] at found
      split at found <;> cases found
    · have same : input.id = row.id := by simpa [Call.updated, asked] using updated
      rw [made.after, ← same] at found
      simpa [Store.credit, here, eq_comm] using found
  | installmentPaid asked made =>
    simp only [Call.updated, asked] at posts
    obtain rfl := posts.eq_inserted made.inserted (by rw [made.after]; rfl)
    exact .payment asked made
  | reminderConfirmed asked made =>
    simp only [Call.updated, asked] at posts
    obtain rfl := posts.eq_inserted made.inserted (by rw [made.after]; rfl)
    exact .confirmation asked made
  | walletDeleted asked made =>
    refine old (by simp [Call.updated, asked]) fun found => ?_
    rw [made.after] at found
    -- What a deleted wallet leaves was there before.
    obtain ⟨before, here, -⟩ : ∃ before, s.transactions.find? row.id = some before ∧ _ := by
      simpa [Store.deleteWallet, and_assoc] using found
    simp [here]
  | regularDeleted asked made =>
    refine old (by simp [Call.updated, asked]) fun found => ?_
    rw [made.after] at found
    -- A deletion leaves only rows that were there.
    simp only [Store.credit, Store.deleteTransaction, Table.find?_erase] at found
    split at found
    · cases found
    · simp [found]
  | @installmentDeleted input existing _ asked made =>
    refine old (by simp [Call.updated, asked]) fun found => ?_
    rw [made.after] at found
    -- The rows that lose their plan were there as well.
    cases names : existing.installmentId with
    | none =>
      simp only [names, Store.credit, Store.deleteTransaction, Table.find?_erase] at found
      split at found
      · cases found
      · simp [found]
    | some id =>
      simp only [names, Store.credit, Store.deleteInstallment, Store.deleteTransaction,
        Table.find?_mapRows, Table.find?_erase] at found
      split at found
      · cases found
      · intro absent
        simp [absent] at found
  -- The other commits do not touch the transactions.
  | _ asked made =>
    refine old (by simp [Call.updated, asked]) fun found => ?_
    rw [made.after] at found
    simp [found]

/-- A call that runs alone and posts a row has read the store that it writes. -/
theorem Posting.early (posting : Posting Eq zone call seen row s s') :
    ∃ s₀, seen.head? = some s₀ ∧ s₀ = s := by
  -- Each request reads first what it writes later, and alone both stores are one.
  cases posting with
  | regular asked made first => exact first
  | credit asked made first => exact first
  | update asked made =>
    obtain ⟨s₀, here, same, -⟩ := made.read
    exact ⟨s₀, here, same⟩
  | payment asked made =>
    obtain ⟨s₀, here, same, -⟩ := made.read
    exact ⟨s₀, here, same⟩
  | confirmation asked made =>
    obtain ⟨s₀, here, same, -⟩ := made.read
    exact ⟨s₀, here, same⟩

/-- What a write leaves of a row it does not post: all of it, or less of what it names. -/
def Transaction.Remains (row row' : Transaction) : Prop :=
  row' = { row with toWalletId := row'.toWalletId, installmentId := row'.installmentId } ∧
    (∀ id ∈ row'.toWalletId, id ∈ row.toWalletId) ∧
    (∀ id ∈ row'.installmentId, id ∈ row.installmentId)

theorem Transaction.Remains.refl (row : Transaction) : row.Remains row :=
  ⟨rfl, fun _ named => named, fun _ named => named⟩

theorem Transaction.Remains.userId (remains : row.Remains row') : row'.userId = row.userId :=
  (congrArg Transaction.userId remains.1 :)

theorem Transaction.Remains.type (remains : row.Remains row') : row'.type = row.type :=
  (congrArg Transaction.type remains.1 :)

theorem Transaction.Remains.walletId (remains : row.Remains row') : row'.walletId = row.walletId :=
  (congrArg Transaction.walletId remains.1 :)

theorem Transaction.Remains.categoryId (remains : row.Remains row') :
    row'.categoryId = row.categoryId :=
  (congrArg Transaction.categoryId remains.1 :)

/-- After a write every transaction remains from before, or was posted. -/
theorem Commit.rows (commit : Commit between zone call seen s s') :
    ∀ row' ∈ s'.transactions.rows,
      (∃ row ∈ s.transactions.rows, row.Remains row') ∨ Posts call.updated row' s s' := by
  -- A row that stays as it is remains.
  have kept : ∀ row' ∈ s.transactions.rows,
      (∃ row ∈ s.transactions.rows, row.Remains row') ∨ Posts call.updated row' s s' :=
    fun row' member => .inl ⟨row', member, .refl row'⟩
  -- A row that a deletion leaves is one of the old.
  have erased : ∀ {id}, ∀ row' ∈ (s.deleteTransaction id).transactions.rows,
      (∃ row ∈ s.transactions.rows, row.Remains row') ∨ Posts call.updated row' s s' :=
    fun row' member => kept row' (List.mem_filter.mp member).1
  -- The inserted row is posted, and the others stay.
  have added : ∀ {row rows}, s.transactions.insert? row = some rows → s'.transactions = rows →
      ∀ row' ∈ s'.transactions.rows,
        (∃ row ∈ s.transactions.rows, row.Remains row') ∨ Posts call.updated row' s s' := by
    intro row rows inserted after row' member
    rw [after] at member
    rcases (Table.mem_insert inserted).mp member with old | rfl
    · exact kept row' old
    · exact .inr (.insert inserted after)
  intro row' member
  -- Five commits post a row, three remove rows, and the others leave the transactions.
  cases commit with
  | walletDeleted asked made =>
    rw [made.after] at member
    -- A row that a deleted wallet leaves may lose its destination or its plan.
    obtain ⟨row, left, rfl⟩ := List.mem_map.mp member
    exact .inl ⟨row, (List.mem_filter.mp left).1, rfl,
      fun _ named => (Option.filter_eq_some_iff.mp named).1,
      fun _ named => (Option.filter_eq_some_iff.mp named).1⟩
  | regularCreated asked made first =>
    exact added made.inserted (by rw [made.after]; rfl) row' member
  | creditCreated asked made first =>
    exact added made.inserted (by rw [made.after]; rfl) row' member
  | transactionUpdated asked made =>
    -- The rewritten row is posted anew.
    have after := made.after
    rw [made.after] at member
    rcases Table.mem_update (fun _ => by rfl) member with old | ⟨row, found, rfl⟩
    · exact kept row' old
    · simp only [Call.updated, asked]
      exact .inr (.update (fun _ => rfl) found (by rw [after]; rfl))
  | regularDeleted asked made =>
    rw [made.after] at member
    exact erased row' member
  | installmentDeleted asked made =>
    rw [made.after] at member
    simp only [Store.credit] at member
    split at member
    -- A row that a deleted plan leaves may lose its link to it.
    · obtain ⟨row, left, rfl⟩ := List.mem_map.mp member
      exact .inl ⟨row, (List.mem_filter.mp left).1, rfl, fun _ named => named,
        fun _ named => (Option.filter_eq_some_iff.mp named).1⟩
    · exact erased row' member
  | installmentPaid asked made =>
    exact added made.inserted (by rw [made.after]; rfl) row' member
  | reminderConfirmed asked made =>
    exact added made.inserted (by rw [made.after]; rfl) row' member
  | _ asked made =>
    rw [made.after] at member
    exact kept row' member

end PocketMint
