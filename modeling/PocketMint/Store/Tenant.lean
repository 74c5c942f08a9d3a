import PocketMint.Relational.Selection
import PocketMint.Store.Linked

/-! What one user has in the database, and the writes that leave it alone. -/

namespace PocketMint

namespace Store

/-- The rows of one user, in every table. -/
def rowsOf (s : Store) (userId : Id) : Store :=
  { nextId := 0
    categories := s.categories.filter fun row => row.userId = userId
    wallets := s.wallets.filter fun row => row.userId = userId
    transactions := s.transactions.filter fun row => row.userId = userId
    installments := s.installments.filter fun row => row.userId = userId
    templates := s.templates.filter fun row => row.userId = userId
    events := s.events.filter fun row => row.userId = userId }

/-- A change that leaves a user's rows as they were, table by table. -/
structure Spares (userId : Id) (s s' : Store) : Prop where
  categories : (s'.categories.filter fun row => row.userId = userId) =
    s.categories.filter fun row => row.userId = userId := by rfl
  wallets : (s'.wallets.filter fun row => row.userId = userId) =
    s.wallets.filter fun row => row.userId = userId := by rfl
  transactions : (s'.transactions.filter fun row => row.userId = userId) =
    s.transactions.filter fun row => row.userId = userId := by rfl
  installments : (s'.installments.filter fun row => row.userId = userId) =
    s.installments.filter fun row => row.userId = userId := by rfl
  templates : (s'.templates.filter fun row => row.userId = userId) =
    s.templates.filter fun row => row.userId = userId := by rfl
  events : (s'.events.filter fun row => row.userId = userId) =
    s.events.filter fun row => row.userId = userId := by rfl

theorem spares_iff {userId : Id} {s s' : Store} :
    Spares userId s s' ↔ s'.rowsOf userId = s.rowsOf userId := by
  constructor
  · intro spares
    -- The six tables agree one by one.
    simp only [rowsOf, spares.categories, spares.wallets, spares.transactions, spares.installments,
      spares.templates, spares.events]
  · intro same
    simp only [rowsOf, Store.mk.injEq, true_and] at same
    exact ⟨same.1, same.2.1, same.2.2.1, same.2.2.2.1, same.2.2.2.2.1, same.2.2.2.2.2⟩

namespace Spares

variable {userId : Id} {s s' s'' : Store}

theorem trans (first : Spares userId s s') (second : Spares userId s' s'') : Spares userId s s'' where
  categories := second.categories.trans first.categories
  wallets := second.wallets.trans first.wallets
  transactions := second.transactions.trans first.transactions
  installments := second.installments.trans first.installments
  templates := second.templates.trans first.templates
  events := second.events.trans first.events

end Spares

/-- A wallet that is gone or belongs to someone else. -/
def OthersWallet (s : Store) (userId id : Id) : Prop :=
  ∀ row, s.wallets.find? id = some row → row.userId ≠ userId

section Writes

variable {s : Store} {userId actor : Id}

/-- A wallet of one user is none of another's. -/
theorem OthersWallet.of_own {id : Id} (own : (s.ownWallet id actor).isSome) (other : actor ≠ userId) :
    s.OthersWallet userId id := by
  -- The wallet is the actor's, and two users do not have one row.
  intro row found mine
  obtain ⟨_, owned⟩ := Option.isSome_iff_exists.mp own
  rcases ownWallet_eq_some.mp owned with ⟨here, user⟩
  rw [found, Option.some.injEq] at here
  rw [← user, ← here] at other
  exact other mine

/-- A wallet that is not the user's is not found as the user's. -/
theorem OthersWallet.not_own {id : Id} (others : s.OthersWallet userId id) :
    ¬(s.ownWallet id userId).isSome := by
  -- A wallet of the user would be found at the identifier.
  intro own
  obtain ⟨row, owned⟩ := Option.isSome_iff_exists.mp own
  rcases ownWallet_eq_some.mp owned with ⟨found, mine⟩
  exact others row found mine

/-- Moving money changes no owner. -/
theorem OthersWallet.credit {id : Id} (others : s.OthersWallet userId id) (deltas : List WalletDelta) :
    (s.credit deltas).OthersWallet userId id := by
  -- Crediting moves balances, and the owners stay.
  intro row found
  simp only [Store.credit, Table.find?_mapRows, Option.map_eq_some_iff] at found
  rcases found with ⟨before, here, rfl⟩
  exact others before here

/-- Money moved between wallets of others leaves a user's rows alone. -/
theorem Spares.credit {deltas : List WalletDelta}
    (others : ∀ delta ∈ deltas, s.OthersWallet userId delta.walletId) :
    Spares userId s (s.credit deltas) where
  wallets := by
    -- None of the deltas is on a wallet of the user.
    refine Table.filter_rewritten_other rfl (fun _ => rfl) fun row member mine => ?_
    -- The balance of a wallet of the user is moved by a sum of zeros.
    have untouched : WalletDelta.on deltas row.id = 0 := by
      apply List.sum_eq_zero
      intro amount among
      obtain ⟨delta, listed, rfl⟩ := List.mem_map.mp among
      split
      · rename_i here
        -- A delta on the row would be on a wallet of the user.
        have found : s.wallets.find? row.id = some row := Table.find?_of_mem member
        exact absurd (of_decide_eq_true mine) (others delta listed row (here ▸ found))
      · rfl
    simp [untouched]

/-! A row of someone else can be rewritten. -/

theorem Spares.updateWallet {id : Id} {rewrite : Wallet → Wallet}
    {keeps : ∀ row, (rewrite row).id = row.id} (user : ∀ row, (rewrite row).userId = row.userId)
    (others : ∀ row, s.wallets.find? id = some row → row.userId ≠ userId) :
    Spares userId s { s with wallets := s.wallets.update id rewrite keeps } where
  wallets := Table.filter_updated_other rfl (fun row => by rw [user row])
    fun row found => decide_eq_false (others row found)

theorem Spares.updateTransaction {id : Id} {rewrite : Transaction → Transaction}
    {keeps : ∀ row, (rewrite row).id = row.id} (user : ∀ row, (rewrite row).userId = row.userId)
    (others : ∀ row, s.transactions.find? id = some row → row.userId ≠ userId) :
    Spares userId s { s with transactions := s.transactions.update id rewrite keeps } where
  transactions := Table.filter_updated_other rfl (fun row => by rw [user row])
    fun row found => decide_eq_false (others row found)

theorem Spares.updateInstallment {id : Id} {rewrite : Installment → Installment}
    {keeps : ∀ row, (rewrite row).id = row.id} (user : ∀ row, (rewrite row).userId = row.userId)
    (others : ∀ row, s.installments.find? id = some row → row.userId ≠ userId) :
    Spares userId s { s with installments := s.installments.update id rewrite keeps } where
  installments := Table.filter_updated_other rfl (fun row => by rw [user row])
    fun row found => decide_eq_false (others row found)

theorem Spares.updateTemplate {id : Id}
    {rewrite : RecurringTransactionTemplate → RecurringTransactionTemplate}
    {keeps : ∀ row, (rewrite row).id = row.id} (user : ∀ row, (rewrite row).userId = row.userId)
    (others : ∀ row, s.templates.find? id = some row → row.userId ≠ userId) :
    Spares userId s { s with templates := s.templates.update id rewrite keeps } where
  templates := Table.filter_updated_other rfl (fun row => by rw [user row])
    fun row found => decide_eq_false (others row found)

theorem Spares.updateEvent {id : Id} {rewrite : RecurringReminderEvent → RecurringReminderEvent}
    {keeps : ∀ row, (rewrite row).id = row.id} (user : ∀ row, (rewrite row).userId = row.userId)
    (others : ∀ row, s.events.find? id = some row → row.userId ≠ userId) :
    Spares userId s { s with events := s.events.update id rewrite keeps } where
  events := Table.filter_updated_other rfl (fun row => by rw [user row])
    fun row found => decide_eq_false (others row found)

/-- A transaction of someone else can be deleted. -/
theorem Spares.deleteTransaction (linked : s.Linked) {id : Id}
    (others : ∀ row, s.transactions.find? id = some row → row.userId ≠ userId) :
    Spares userId s (s.deleteTransaction id) where
  transactions := by
    apply Table.filter_erase_other
    intro row found
    exact decide_eq_false (others row found)
  events := by
    -- A reminder of the user was made into a transaction of the user, if into any.
    refine Table.filter_rewritten_other rfl (fun _ => rfl) fun row member mine => ?_
    -- The reminder names no transaction of another user.
    have apart : row.generatedTransactionId.filter (· ≠ id) = row.generatedTransactionId := by
      refine filter_kept fun other named => ?_
      rcases Option.isSome_iff_exists.mp ((linked.events row member).2.2 other named) with ⟨made, own⟩
      rcases ownTransaction_eq_some.mp own with ⟨found, user⟩
      refine decide_eq_true fun same => ?_
      exact others made (same ▸ found) (user.trans (of_decide_eq_true mine))
    simp only [apart]

/-- An instalment of someone else can be deleted. -/
theorem Spares.deleteInstallment (linked : s.Linked) {id : Id}
    (others : ∀ row, s.installments.find? id = some row → row.userId ≠ userId) :
    Spares userId s (s.deleteInstallment id) := by
  -- Whatever names an instalment has its owner.
  have apart : ¬(s.ownInstallment id userId).isSome := by
    intro own
    obtain ⟨row, owned⟩ := Option.isSome_iff_exists.mp own
    rcases ownInstallment_eq_some.mp owned with ⟨found, mine⟩
    exact others row found mine
  exact
    { installments := by
        apply Table.filter_erase_other
        intro row found
        exact decide_eq_false (others row found)
      transactions := by
        refine Table.filter_rewritten_other rfl (fun _ => rfl) fun row member mine => ?_
        -- The transaction is the user's, so its plan is not the one that goes.
        have kept : row.installmentId.filter (· ≠ id) = row.installmentId := by
          refine filter_kept fun other named => decide_eq_true ?_
          rintro rfl
          exact apart (of_decide_eq_true mine ▸ (linked.transactions row member).2.2.2 other named)
        simp only [kept]
      -- A reminder of the user does not remind of it either.
      events := by
        apply Table.filter_filter_other
        intro row member mine
        refine decide_eq_true fun named => ?_
        exact apart (of_decide_eq_true mine ▸ (linked.events row member).2.1 id named) }

/-- A wallet of someone else can be deleted with all that belongs to it. -/
theorem Spares.deleteWallet (linked : s.Linked) {id : Id} (others : s.OthersWallet userId id) :
    Spares userId s (s.deleteWallet id) := by
  have apart := others.not_own
  -- Nothing of the user is on the wallet.
  -- A row of the user is on a wallet of the user.
  have transaction : ∀ row ∈ s.transactions.rows, row.userId = userId → row.walletId ≠ id := by
    rintro row member rfl rfl
    exact apart (linked.transactions row member).1
  -- A plan of the user is on a wallet of the user.
  have installment : ∀ other, (s.ownInstallment other userId).isSome → s.installmentOn id other = false := by
    intro other own
    obtain ⟨row, owned⟩ := Option.isSome_iff_exists.mp own
    rcases ownInstallment_eq_some.mp owned with ⟨found, rfl⟩
    simp only [installmentOn, found, Option.any_some, decide_eq_false_iff_not]
    rintro rfl
    exact apart (linked.installments row (Table.mem_of_find? found))
  -- So is a template.
  have template : ∀ other, (s.ownTemplate other userId).isSome → s.templateOn id other = false := by
    intro other own
    obtain ⟨row, owned⟩ := Option.isSome_iff_exists.mp own
    rcases ownTemplate_eq_some.mp owned with ⟨found, rfl⟩
    simp only [templateOn, found, Option.any_some, decide_eq_false_iff_not]
    rintro rfl
    exact apart (linked.templates row (Table.mem_of_find? found)).1
  -- And a generated transaction of the user as well.
  have generated : ∀ other, (s.ownTransaction other userId).isSome → s.transactionOn id other = false := by
    intro other own
    obtain ⟨row, owned⟩ := Option.isSome_iff_exists.mp own
    rcases ownTransaction_eq_some.mp owned with ⟨found, mine⟩
    simpa [transactionOn, found] using transaction row (Table.mem_of_find? found) mine
  exact
    { wallets := by
        apply Table.filter_erase_other
        intro row found
        exact decide_eq_false (others row found)
      transactions := by
        -- The others keep their place, and forget nothing that a row of the user names.
        refine Eq.trans (b := (s.transactions.filter fun row => row.walletId ≠ id).filter fun row =>
          row.userId = userId) ?_ (Table.filter_filter_other fun row member mine =>
            decide_eq_true (transaction row member (of_decide_eq_true mine)))
        refine Table.filter_rewritten_other rfl (fun _ => rfl) fun row member mine => ?_
        have links := linked.transactions row (List.mem_filter.mp member).1
        rw [TransactionLinks, of_decide_eq_true mine] at links
        have destination : row.toWalletId.filter (· ≠ id) = row.toWalletId := by
          refine filter_kept fun other named => decide_eq_true ?_
          rintro rfl
          exact apart (links.2.1 other named)
        have backing : row.installmentId.filter (fun other => !s.installmentOn id other) =
            row.installmentId :=
          filter_kept fun other named => by rw [installment other (links.2.2.2 other named), Bool.not_false]
        simp only [destination, backing]
      installments := by
        -- No plan of the user was on the wallet.
        refine Table.filter_filter_other fun row member mine => decide_eq_true ?_
        rintro rfl
        exact apart (of_decide_eq_true mine ▸ linked.installments row member)
      templates := by
        -- No template of the user was on it.
        refine Table.filter_filter_other fun row member mine => decide_eq_true ?_
        rintro rfl
        exact apart (of_decide_eq_true mine ▸ (linked.templates row member).1)
      events := by
        -- What a reminder of the user reminds of stays, so the reminder does.
        have kept : ∀ row ∈ s.events.rows, decide (row.userId = userId) = true →
            (!row.templateId.any (s.templateOn id) && !row.installmentId.any (s.installmentOn id))
                = true := by
          intro row member mine
          have links := linked.events row member
          rw [EventLinks, of_decide_eq_true mine] at links
          cases first : row.templateId <;> cases second : row.installmentId <;>
            simp_all
        refine Eq.trans (b := (s.events.filter fun row =>
          !row.templateId.any (s.templateOn id) && !row.installmentId.any (s.installmentOn id)).filter
              fun row =>
          row.userId = userId) ?_ (Table.filter_filter_other kept)
        refine Table.filter_rewritten_other rfl (fun _ => rfl) fun row member mine => ?_
        have links := linked.events row (List.mem_filter.mp member).1
        rw [EventLinks, of_decide_eq_true mine] at links
        -- And the transaction that it was made into stays too.
        have made : row.generatedTransactionId.filter (fun other => !s.transactionOn id other) =
            row.generatedTransactionId :=
          filter_kept fun other named => by rw [generated other (links.2.2 other named), Bool.not_false]
        simp only [made] }

end Writes

end Store

end PocketMint
