import PocketMint.Store.Evolution

/-! Stores in which every foreign key points to a row of the same user. -/

namespace PocketMint

namespace Table

variable {α : Type} [Keyed α] {table after : Table α} {test : α → Bool} {at_ : Nat}

/-- A row that is found and passes a test is still found after an insertion. -/
theorem owned_insert {row : α} (inserted : table.insert? row = some after)
    (owned : ((table.find? at_).filter test).isSome) : ((after.find? at_).filter test).isSome := by
  rw [find?_insert inserted]
  split
  -- The row found would be the inserted one, whose key was free.
  · rename_i same
    rw [← same, (insert?_eq_some_iff.mp inserted).1] at owned
    simp at owned
  · exact owned

/-- A row that is found and passes a test still does after a rewriting that keeps it passing. -/
theorem owned_mapRows {rewrite : α → α} (kept : ∀ row, test row → test (rewrite row))
    (owned : ((table.find? at_).filter test).isSome)
    (keeps : ∀ row, Keyed.key (rewrite row) = Keyed.key row := by intro _; exact Eq.symm rfl) :
    (((table.mapRows rewrite keeps).find? at_).filter test).isSome := by
  -- The row that is found is rewritten, and it still passes the test.
  obtain ⟨row, found⟩ := Option.isSome_iff_exists.mp owned
  obtain ⟨found, passes⟩ := Option.filter_eq_some_iff.mp found
  simp [found, Option.filter, kept row passes]

/-- A row that is found and passes a test still does after an update that keeps it passing. -/
theorem owned_update {updated : Nat} {rewrite : α → α}
    (keeps : ∀ row, Keyed.key (rewrite row) = Keyed.key row)
    (kept : ∀ row, test row → test (rewrite row)) (owned : ((table.find? at_).filter test).isSome) :
    (((table.update updated rewrite keeps).find? at_).filter test).isSome := by
  -- Only one row is rewritten, and the others pass as before.
  refine owned_mapRows (fun row passes => ?_) owned _
  split
  · exact kept row passes
  · exact passes

end Table

namespace Store

/-! A row is linked when each of its foreign keys names a row of its own user. -/

def TransactionLinks (s : Store) (row : Transaction) : Prop :=
  (s.ownWallet row.walletId row.userId).isSome ∧
  (∀ id ∈ row.toWalletId, (s.ownWallet id row.userId).isSome) ∧
  (∀ id ∈ row.categoryId, (s.ownCategory id row.userId).isSome) ∧
  (∀ id ∈ row.installmentId, (s.ownInstallment id row.userId).isSome)

def InstallmentLinks (s : Store) (row : Installment) : Prop :=
  (s.ownWallet row.walletId row.userId).isSome

def TemplateLinks (s : Store) (row : RecurringTransactionTemplate) : Prop :=
  (s.ownWallet row.walletId row.userId).isSome ∧
  (∀ id ∈ row.categoryId, (s.ownCategory id row.userId).isSome)

def EventLinks (s : Store) (row : RecurringReminderEvent) : Prop :=
  (∀ id ∈ row.templateId, (s.ownTemplate id row.userId).isSome) ∧
  (∀ id ∈ row.installmentId, (s.ownInstallment id row.userId).isSome) ∧
  (∀ id ∈ row.generatedTransactionId, (s.ownTransaction id row.userId).isSome)

/-- Every row is linked. -/
structure Linked (s : Store) : Prop where
  transactions : ∀ row ∈ s.transactions.rows, s.TransactionLinks row
  installments : ∀ row ∈ s.installments.rows, s.InstallmentLinks row
  templates : ∀ row ∈ s.templates.rows, s.TemplateLinks row
  events : ∀ row ∈ s.events.rows, s.EventLinks row

theorem Linked.empty : Store.empty.Linked := by
  constructor <;> exact fun row member => by simp [Store.empty] at member

/-- Every row a user owns is still there for that user. -/
structure Retains (s s' : Store) : Prop where
  categories : ∀ {id userId}, (s.ownCategory id userId).isSome → (s'.ownCategory id userId).isSome :=
    by exact fun owned => owned
  wallets : ∀ {id userId}, (s.ownWallet id userId).isSome → (s'.ownWallet id userId).isSome :=
    by exact fun owned => owned
  transactions : ∀ {id userId}, (s.ownTransaction id userId).isSome →
    (s'.ownTransaction id userId).isSome := by exact fun owned => owned
  installments : ∀ {id userId}, (s.ownInstallment id userId).isSome →
    (s'.ownInstallment id userId).isSome := by exact fun owned => owned
  templates : ∀ {id userId}, (s.ownTemplate id userId).isSome → (s'.ownTemplate id userId).isSome :=
    by exact fun owned => owned

/-- Every row of the later store is an old one, or linked there. -/
structure Changes (s s' : Store) : Prop where
  transactions : ∀ row ∈ s'.transactions.rows, row ∈ s.transactions.rows ∨ s'.TransactionLinks row :=
    by exact fun _ member => .inl member
  installments : ∀ row ∈ s'.installments.rows, row ∈ s.installments.rows ∨ s'.InstallmentLinks row :=
    by exact fun _ member => .inl member
  templates : ∀ row ∈ s'.templates.rows, row ∈ s.templates.rows ∨ s'.TemplateLinks row :=
    by exact fun _ member => .inl member
  events : ∀ row ∈ s'.events.rows, row ∈ s.events.rows ∨ s'.EventLinks row :=
    by exact fun _ member => .inl member

namespace Retains

variable {s s' s'' : Store} (retains : s.Retains s')

include retains

theorem trans (further : s'.Retains s'') : s.Retains s'' where
  categories owned := further.categories (retains.categories owned)
  wallets owned := further.wallets (retains.wallets owned)
  transactions owned := further.transactions (retains.transactions owned)
  installments owned := further.installments (retains.installments owned)
  templates owned := further.templates (retains.templates owned)

theorem transactionLinks {row : Transaction} (links : s.TransactionLinks row) :
    s'.TransactionLinks row :=
  ⟨retains.wallets links.1, fun id named => retains.wallets (links.2.1 id named),
    fun id named => retains.categories (links.2.2.1 id named),
    fun id named => retains.installments (links.2.2.2 id named)⟩

theorem templateLinks {row : RecurringTransactionTemplate} (links : s.TemplateLinks row) :
    s'.TemplateLinks row :=
  ⟨retains.wallets links.1, fun id named => retains.categories (links.2 id named)⟩

theorem eventLinks {row : RecurringReminderEvent} (links : s.EventLinks row) : s'.EventLinks row :=
  ⟨fun id named => retains.templates (links.1 id named),
    fun id named => retains.installments (links.2.1 id named),
    fun id named => retains.transactions (links.2.2 id named)⟩

/-- A store that retains every owned row is linked when its new and changed rows are. -/
theorem linked (linked : s.Linked) (changes : s.Changes s') : s'.Linked where
  transactions row member :=
    (changes.transactions row member).elim (retains.transactionLinks <| linked.transactions row ·) id
  installments row member :=
    (changes.installments row member).elim (retains.wallets <| linked.installments row ·) id
  templates row member :=
    (changes.templates row member).elim (retains.templateLinks <| linked.templates row ·) id
  events row member :=
    (changes.events row member).elim (retains.eventLinks <| linked.events row ·) id

omit retains

theorem credit (s : Store) (deltas : List WalletDelta) : s.Retains (s.credit deltas) where
  wallets owned := by
    refine Table.owned_mapRows (fun row passes => ?_) owned
    exact passes

theorem insertTransaction (next : Id) {row : Transaction} {rows : Table Transaction}
    (inserted : s.transactions.insert? row = some rows) :
    s.Retains { s with nextId := next, transactions := rows } where
  transactions := Table.owned_insert inserted

section Update

variable {id : Id}

theorem updateWallet {rewrite : Wallet → Wallet} {keeps : ∀ row, (rewrite row).id = row.id}
    (kept : ∀ row, (rewrite row).userId = row.userId) :
    s.Retains { s with wallets := s.wallets.update id rewrite keeps } where
  wallets owned := Table.owned_update keeps (fun row passes => by simpa [kept row] using passes) owned

theorem updateTransaction {rewrite : Transaction → Transaction}
    {keeps : ∀ row, (rewrite row).id = row.id} (kept : ∀ row, (rewrite row).userId = row.userId) :
    s.Retains { s with transactions := s.transactions.update id rewrite keeps } where
  transactions owned := Table.owned_update keeps (fun row passes => by simpa [kept row] using passes) owned

theorem updateInstallment {rewrite : Installment → Installment}
    {keeps : ∀ row, (rewrite row).id = row.id} (kept : ∀ row, (rewrite row).userId = row.userId) :
    s.Retains { s with installments := s.installments.update id rewrite keeps } where
  installments owned := Table.owned_update keeps (fun row passes => by simpa [kept row] using passes) owned

theorem updateTemplate {rewrite : RecurringTransactionTemplate → RecurringTransactionTemplate}
    {keeps : ∀ row, (rewrite row).id = row.id} (kept : ∀ row, (rewrite row).userId = row.userId) :
    s.Retains { s with templates := s.templates.update id rewrite keeps } where
  templates owned := Table.owned_update keeps (fun row passes => by simpa [kept row] using passes) owned

end Update

/-- Inserting a row that is linked keeps every row linked. -/
theorem insertTransaction_linked (next : Id) {row : Transaction} {rows : Table Transaction}
    (inserted : s.transactions.insert? row = some rows) (linked : s.Linked)
    (links : s.TransactionLinks row) : { s with nextId := next, transactions := rows }.Linked := by
  have retains := insertTransaction next inserted
  refine retains.linked linked { transactions := fun other member => ?_ }
  -- The old rows keep their links, and the new one comes with its own.
  obtain old | rfl := (Table.mem_insert inserted).mp member
  · exact .inl old
  · exact .inr (retains.transactionLinks links)

end Retains

section DeleteWallet

/-! What a wallet's deletion leaves of the rows that were not on it. -/

variable {s : Store} {id other userId : Id}

theorem ownInstallment_deleteWallet (own : (s.ownInstallment other userId).isSome)
    (apart : s.installmentOn id other = false) :
    ((s.deleteWallet id).ownInstallment other userId).isSome := by
  obtain ⟨row, found⟩ := Option.isSome_iff_exists.mp own
  obtain ⟨found, user⟩ := ownInstallment_eq_some.mp found
  -- The plan is on another wallet, so it stays with the owner that it had.
  have stays : row.walletId ≠ id := by simpa [installmentOn, found] using apart
  simp [ownInstallment, deleteWallet, found, stays, user, Option.filter]

theorem ownTemplate_deleteWallet (own : (s.ownTemplate other userId).isSome)
    (apart : s.templateOn id other = false) :
    ((s.deleteWallet id).ownTemplate other userId).isSome := by
  obtain ⟨row, found⟩ := Option.isSome_iff_exists.mp own
  obtain ⟨found, user⟩ := ownTemplate_eq_some.mp found
  -- The template is on another wallet.
  have stays : row.walletId ≠ id := by simpa [templateOn, found] using apart
  simp [ownTemplate, deleteWallet, found, stays, user, Option.filter]

theorem ownTransaction_deleteWallet (own : (s.ownTransaction other userId).isSome)
    (apart : s.transactionOn id other = false) :
    ((s.deleteWallet id).ownTransaction other userId).isSome := by
  obtain ⟨row, found⟩ := Option.isSome_iff_exists.mp own
  obtain ⟨found, user⟩ := ownTransaction_eq_some.mp found
  -- The transaction is on another wallet, and a row that stays keeps its owner.
  have stays : row.walletId ≠ id := by simpa [transactionOn, found] using apart
  simp [ownTransaction, deleteWallet, found, stays, user, Option.filter]

end DeleteWallet

namespace Linked

variable {s : Store} (linked : s.Linked)

include linked

theorem credit (deltas : List WalletDelta) : (s.credit deltas).Linked :=
  (Retains.credit s deltas).linked linked {}

/-- Reminders forget a deleted transaction. -/
theorem deleteTransaction (id : Id) : (s.deleteTransaction id).Linked where
  transactions row member := linked.transactions row (List.mem_filter.mp member).1
  installments := linked.installments
  templates := linked.templates
  events row member := by
    -- A reminder that named the deleted row names none any more.
    obtain ⟨old, among, rfl⟩ := List.mem_map.mp member
    have links := linked.events old among
    refine ⟨links.1, links.2.1, fun other named => ?_⟩
    obtain ⟨named, apart⟩ := Option.filter_eq_some_iff.mp named
    simpa [ownTransaction, Store.deleteTransaction, of_decide_eq_true apart] using links.2.2 other named

/-- Transactions forget a deleted instalment, and its reminders go with it. -/
theorem deleteInstallment (id : Id) : (s.deleteInstallment id).Linked where
  transactions row member := by
    -- A row that named the deleted plan names none any more.
    obtain ⟨old, among, rfl⟩ := List.mem_map.mp member
    have links := linked.transactions old among
    refine ⟨links.1, links.2.1, links.2.2.1, fun other named => ?_⟩
    obtain ⟨named, apart⟩ := Option.filter_eq_some_iff.mp named
    simpa [ownInstallment, Store.deleteInstallment, of_decide_eq_true apart] using
      links.2.2.2 other named
  installments row member := linked.installments row (List.mem_filter.mp member).1
  templates := linked.templates
  events row member := by
    -- The reminders of the plan go with it, so one that stays names another plan.
    obtain ⟨among, apart⟩ := List.mem_filter.mp member
    have links := linked.events row among
    -- The transactions stay, with their owners.
    have own : ∀ {other userId}, (s.ownTransaction other userId).isSome →
        ((s.deleteInstallment id).ownTransaction other userId).isSome := by
      intro other userId owned
      refine Table.owned_mapRows (fun row passes => ?_) owned
      exact passes
    refine ⟨links.1, fun other named => ?_, fun other named => own (links.2.2 other named)⟩
    have different : other ≠ id := by
      rintro rfl
      exact of_decide_eq_true apart named
    simpa [ownInstallment, Store.deleteInstallment, different] using links.2.1 other named

/-- What stays after a wallet's deletion forgets whatever went with the wallet. -/
theorem deleteWallet (id : Id) : (s.deleteWallet id).Linked where
  transactions row member := by
    -- The row stays because it is on another wallet, and it forgets what was on the deleted one.
    obtain ⟨old, among, rfl⟩ := List.mem_map.mp member
    obtain ⟨among, stays⟩ := List.mem_filter.mp among
    have links := linked.transactions old among
    refine ⟨?_, fun other named => ?_, links.2.2.1, fun other named => ?_⟩
    · simpa [ownWallet, Store.deleteWallet, of_decide_eq_true stays] using links.1
    · obtain ⟨named, apart⟩ := Option.filter_eq_some_iff.mp named
      simpa [ownWallet, Store.deleteWallet, of_decide_eq_true apart] using links.2.1 other named
    · obtain ⟨named, apart⟩ := Option.filter_eq_some_iff.mp named
      exact ownInstallment_deleteWallet (links.2.2.2 other named) (by simpa using apart)
  installments row member := by
    -- The plan stays because it is on another wallet.
    obtain ⟨among, stays⟩ := List.mem_filter.mp member
    simpa [InstallmentLinks, ownWallet, Store.deleteWallet, of_decide_eq_true stays] using
      linked.installments row among
  templates row member := by
    obtain ⟨among, stays⟩ := List.mem_filter.mp member
    have links := linked.templates row among
    refine ⟨?_, links.2⟩
    simpa [ownWallet, Store.deleteWallet, of_decide_eq_true stays] using links.1
  events row member := by
    -- The reminder stays because what it reminds of is on another wallet.
    obtain ⟨old, among, rfl⟩ := List.mem_map.mp member
    obtain ⟨among, stays⟩ := List.mem_filter.mp among
    have links := linked.events old among
    obtain ⟨template, installment⟩ := by simpa using stays
    refine ⟨fun other named => ?_, fun other named => ?_, fun other named => ?_⟩
    · exact ownTemplate_deleteWallet (links.1 other named)
        (by rwa [show old.templateId = some other from named, Option.any_some] at template)
    · exact ownInstallment_deleteWallet (links.2.1 other named)
        (by rwa [show old.installmentId = some other from named, Option.any_some] at installment)
    · obtain ⟨named, apart⟩ := Option.filter_eq_some_iff.mp named
      exact ownTransaction_deleteWallet (links.2.2 other named) (by simpa using apart)

end Linked

end Store

end PocketMint
