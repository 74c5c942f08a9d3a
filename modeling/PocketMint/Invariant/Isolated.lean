import PocketMint.Invariant.Linked
import PocketMint.Store.Tenant

/-! A request writes to the rows of the user it acts for, and to no one else's. -/

namespace PocketMint

open Prog

/-- The user a request acts for, if it acts for one user. -/
def Request.actor : Request → Option Id
  | .createWallet input => some input.userId
  | .updateWallet input => some input.userId
  | .deleteWallet input => some input.userId
  | .createTransaction input => some input.userId
  | .updateTransaction input => some input.userId
  | .deleteTransaction input => some input.userId
  | .payInstallment input => some input.userId
  | .createRecurringTransaction input => some input.userId
  | .updateRecurringTransaction input => some input.userId
  | .evaluateReminders _ userId => userId
  | .markNotificationRead input => some input.userId
  | .confirmReminder input => some input.userId
  | .ensureDefaultCategories userId => some userId
  | .getNetWorth userId => some userId
  | .getWalletSparkline input => some input.userId
  | .listTransactions input => some input.userId

section Reading

variable {between : Store → Store → Prop} (reading : Reading between) {s : Store} (numbered : s.Numbered)
  {actor userId : Id} (other : actor ≠ userId)

include reading numbered other

/-- A wallet that was read as the actor's is no one else's now. -/
theorem WalletRead.others {id : Id} (read : WalletRead between actor id s) : s.OthersWallet userId id := by
  intro row found
  exact Store.OthersWallet.of_own (read.own reading numbered (by simp [found])) other row found

/-- The wallets of a transaction that was read as the actor's are no one else's now. -/
theorem Store.TransactionLinks.others {s₁ : Store} (moved : between s₁ s) {row : Transaction}
    (links : s₁.TransactionLinks row) (user : row.userId = actor) :
    s.OthersWallet userId row.walletId ∧ ∀ id ∈ row.toWalletId, s.OthersWallet userId id := by
  rw [TransactionLinks, user] at links
  exact ⟨WalletRead.others reading numbered other ⟨s₁, moved, links.1⟩, fun id named =>
    WalletRead.others reading numbered other ⟨s₁, moved, links.2.1 id named⟩⟩

omit other in
/-- The wallet a transaction is moved to is no one else's now. -/
theorem TransactionUpdated.source_others {seen : List Store} {s' : Store} {input : UpdateTransactionInput}
    {existing : Transaction} {type : FinancialTxType} {amount : Decimal} {walletId : Id}
    {date : Option Instant}
    (other : input.userId ≠ userId)
    (made : TransactionUpdated between seen input existing type amount walletId date s s')
    (held : s.OthersWallet userId existing.walletId) : s.OthersWallet userId walletId := by
  have source := made.source
  cases sent : input.walletId with
  | omitted =>
    -- The transaction stays on its wallet.
    simp only [TransactionService.newWalletId, sent, Option.some.injEq] at source
    exact source ▸ held
  | invalid => simp [TransactionService.newWalletId, sent] at source
  | given id =>
    -- A wallet that is sent was read, for a transfer or as the target of another type.
    have read : WalletRead between input.userId walletId s := by
      by_cases transfer : type = .transfer
      · exact .of_property (made.transfer transfer).2.1
      · exact .of_property (made.posted transfer (.inl (by simp [sent, Arg.truthy])))
    exact WalletRead.others reading numbered other read

end Reading

section Movement

variable {s : Store} {userId : Id}

/-- A movement between wallets of others leaves a user's rows alone. -/
theorem Store.Spares.credit_plain {type : FinancialTxType} {amount : Decimal} {walletId : Id}
    {toWalletId : Option Id} (source : s.OthersWallet userId walletId)
    (destination : ∀ id ∈ toWalletId, s.OthersWallet userId id) :
    Spares userId s (s.credit (plainDeltas type amount walletId toWalletId)) :=
  Spares.credit (forall_plainDeltas source source destination)

/-- So does undoing one. -/
theorem Store.Spares.credit_negated {type : FinancialTxType} {amount : Decimal} {walletId : Id}
    {toWalletId : Option Id} (source : s.OthersWallet userId walletId)
    (destination : ∀ id ∈ toWalletId, s.OthersWallet userId id) :
    Spares userId s (s.credit (negated (plainDeltas type amount walletId toWalletId))) := by
  -- Crediting spares the user whose wallets it does not name.
  apply Spares.credit
  intro delta listed
  -- The wallets are those of the movement that is undone.
  obtain ⟨made, among, rfl⟩ := List.mem_map.mp listed
  have others : ∀ delta ∈ plainDeltas type amount walletId toWalletId, s.OthersWallet userId delta.walletId :=
    forall_plainDeltas source source destination
  exact others made among

/-- A transaction of someone else is posted with its movement. -/
theorem Store.Spares.post {s' : Store} {row : Transaction} (written : Spares userId s s')
    (wallets : s'.wallets = s.wallets) (links : s.TransactionLinks row) (other : row.userId ≠ userId) :
    Spares userId s (s'.credit (plainDeltas row.type row.amount row.walletId row.toWalletId)) := by
  -- The written store has the wallets of the old one.
  have same : ∀ id, s.OthersWallet userId id → s'.OthersWallet userId id := by
    intro id others row found
    exact others row (wallets ▸ found)
  exact written.trans (credit_plain (same _ (OthersWallet.of_own links.1 other)) fun id named =>
    same _ (OthersWallet.of_own (links.2.1 id named) other))

end Movement

/-- Every write leaves alone the rows of every user but the one its request acts for. -/
theorem Commit.spares {between : Store → Store → Prop} (reading : Reading between)
    (earlier : ∀ {s₁ s}, between s₁ s → s.Linked → s₁.Linked) {zone : Zone} {call : Call} {seen : List Store}
    {s s' : Store} (commit : Commit between zone call seen s s') (numbered : s.Numbered) (linked : s.Linked)
    {actor userId : Id} (acts : call.request.actor = some actor) (other : actor ≠ userId) :
    Store.Spares userId s s' := by
  -- What a request has read as its own was linked to its user then, and no owner ever changes.
  cases commit with
  | @walletCreated input row rows asked made =>
    obtain rfl : input.userId = actor := by simpa [asked, Request.actor] using acts
    rw [made.after]
    exact { wallets := Table.filter_insert_other made.inserted (decide_eq_false (made.user ▸ other)) }
  | @walletEdited input _ _ _ asked made =>
    obtain rfl : input.userId = actor := by simpa [asked, Request.actor] using acts
    rw [made.after]
    exact .updateWallet (by intro _; rfl) (WalletRead.others reading numbered other made.owned)
  | @walletDeleted input asked made =>
    obtain rfl : input.userId = actor := by simpa [asked, Request.actor] using acts
    rw [made.after]
    exact .deleteWallet linked (WalletRead.others reading numbered other made.owned)
  | @regularCreated input _ _ _ _ row rows asked made =>
    obtain rfl : input.userId = actor := by simpa [asked, Request.actor] using acts
    -- The new row is the actor's, on wallets of the actor.
    have owner : row.userId ≠ userId := by rw [made.shape]; exact other
    rw [made.after]
    exact .post { transactions := Table.filter_insert_other made.inserted (decide_eq_false owner) } rfl
      (made.links reading numbered) owner
  | @creditCreated input _ _ _ _ _ _ _ wallet installment row installments rows asked made =>
    obtain rfl : input.userId = actor := by simpa [asked, Request.actor] using acts
    -- The plan and its row are the actor's.
    rw [made.after]
    have written : Store.Spares userId s
        { s with nextId := s.nextId + 2, installments := installments, transactions := rows } :=
      { installments := Table.filter_insert_other made.backed
          (decide_eq_false (by rw [made.backing]; exact other))
        transactions := Table.filter_insert_other made.inserted
          (decide_eq_false (by rw [made.shape]; exact other)) }
    refine written.trans (.credit fun delta listed => ?_)
    rw [List.mem_singleton.mp listed]
    exact WalletRead.others reading numbered other (walletRead_of_row made.source)
  | @transactionUpdated input existing type amount walletId date asked made =>
    obtain rfl : input.userId = actor := by simpa [asked, Request.actor] using acts
    -- The row that was read is the actor's for good, and so are the wallets that it names.
    obtain ⟨s₁, -, moved, own⟩ := made.read
    have links := (earlier moved linked).transactions existing
      (Table.mem_of_find? (Store.ownTransaction_eq_some.mp own).1)
    have held := links.others reading numbered other moved (Store.ownTransaction_eq_some.mp own).2
    rw [made.after]
    refine .trans (.trans (.updateTransaction (by intro _; rfl) fun row found =>
      (Store.ownTransaction_later reading numbered moved own found).2 ▸ other)
        (.credit_negated held.1 held.2)) (.credit_plain ?_ ?_)
    · exact (made.source_others reading numbered other held.1).credit _
    · -- Only a transfer has a destination, and it was read.
      intro id named
      have transfer : type = .transfer := by
        by_contra regular
        simp [TransactionService.newToWalletId, regular] at named
      obtain ⟨_, _, toWalletId, destination, _, read⟩ := made.transfer transfer
      obtain rfl : toWalletId = id := Option.some.inj (destination.symm.trans named)
      exact (WalletRead.others reading numbered other read).credit _
  | @regularDeleted input existing asked made =>
    obtain rfl : input.userId = actor := by simpa [asked, Request.actor] using acts
    obtain ⟨s₁, -, moved, own⟩ := made.read
    have links := (earlier moved linked).transactions existing
      (Table.mem_of_find? (Store.ownTransaction_eq_some.mp own).1)
    have held := links.others reading numbered other moved (Store.ownTransaction_eq_some.mp own).2
    rw [made.after]
    have written : Store.Spares userId s (s.deleteTransaction input.id) := .deleteTransaction linked
      fun row found => (Store.ownTransaction_later reading numbered moved own found).2 ▸ other
    -- The effect that is taken back was on wallets of the actor.
    exact written.trans (.credit_negated held.1 held.2)
  | @installmentDeleted input existing grandTotal asked made =>
    obtain rfl : input.userId = actor := by simpa [asked, Request.actor] using acts
    obtain ⟨s₁, -, moved, own, -⟩ := made.read
    have links := (earlier moved linked).transactions existing
      (Table.mem_of_find? (Store.ownTransaction_eq_some.mp own).1)
    have user := (Store.ownTransaction_eq_some.mp own).2
    have held := links.others reading numbered other moved user
    -- What goes back to the wallet goes to one of the actor.
    have written : Store.Spares userId s (s.deleteTransaction input.id) := .deleteTransaction linked
      fun row found => (Store.ownTransaction_later reading numbered moved own found).2 ▸ other
    have apart : ∀ delta ∈ [(⟨existing.walletId, grandTotal.getD existing.amount⟩ : WalletDelta)],
        s.OthersWallet userId delta.walletId := by
      intro delta listed
      rw [List.mem_singleton.mp listed]
      exact held.1
    rw [made.after]
    cases named : existing.installmentId with
    | none => exact written.trans (.credit apart)
    | some id =>
      -- The instalment was linked to the transaction that was read.
      obtain ⟨before, backing⟩ := Option.isSome_iff_exists.mp (links.2.2.2 id named)
      rw [user] at backing
      refine (written.trans (.deleteInstallment (linked.deleteTransaction _) fun row found => ?_)).trans
        (.credit apart)
      exact (Store.ownInstallment_later reading numbered moved backing found).2 ▸ other
  | @installmentPaid input installment _ _ _ _ row rows asked made =>
    obtain rfl : input.userId = actor := by simpa [asked, Request.actor] using acts
    obtain ⟨s₁, -, moved, own⟩ := made.read
    -- The instalment was read as the actor's.
    have same : installment.id = input.installmentId :=
      Table.key_of_find? (Store.ownInstallment_eq_some.mp own).1
    have links := made.links reading numbered linked
    have owner : row.userId ≠ userId := by rw [made.shape]; exact other
    rw [made.after]
    exact .post
      { transactions := Table.filter_insert_other made.inserted (decide_eq_false owner)
        installments := (Store.Spares.updateInstallment (by intro _; rfl) fun row found =>
          (Store.ownInstallment_later reading numbered moved own (same ▸ found)).2 ▸ other).installments }
      rfl links owner
  | @templateCreated input _ _ _ _ _ _ _ _ row _ asked made =>
    obtain rfl : input.userId = actor := by simpa [asked, Request.actor] using acts
    rw [made.after]
    have owner : row.userId ≠ userId := by rw [made.shape]; exact other
    -- No edit changes the owner of a template.
    exact { templates := Table.filter_insert_other made.inserted (decide_eq_false owner) }
  | @templateEdited input _ _ _ _ _ asked made =>
    obtain rfl : input.userId = actor := by simpa [asked, Request.actor] using acts
    obtain ⟨s₁, -, moved, own⟩ := made.read
    rw [made.after]
    exact .updateTemplate (by intro _; rfl) fun row found =>
      Store.ownTemplate_later reading numbered moved own found ▸ other
  | @templateReminded evaluationDate owner template _ _ _ row _ asked made =>
    obtain rfl : owner = some actor := by simpa [asked, Request.actor] using acts
    obtain ⟨s₁, -, listed⟩ := made.read
    -- The template was read among those of the actor.
    have user : template.userId = actor := by
      have asked := (List.mem_filter.mp listed).2
      simp only [Bool.and_eq_true, Option.all_some, decide_eq_true_eq] at asked
      exact asked.2
    rw [made.after]
    have owner : row.userId ≠ userId := by
      rw [made.shape]
      exact fun mine => other (user.symm.trans mine)
    exact { events := Table.filter_insert_other made.inserted (decide_eq_false owner) }
  | @installmentReminded evaluationDate owner installment _ _ row _ asked made =>
    obtain rfl : owner = some actor := by simpa [asked, Request.actor] using acts
    obtain ⟨s₁, -, listed⟩ := made.read
    -- The instalment was read among those of the actor.
    have user : installment.userId = actor := by
      have asked := (List.mem_filter.mp listed).2
      simp only [Bool.and_eq_true, Option.all_some, decide_eq_true_eq] at asked
      exact asked.2
    rw [made.after]
    have owner : row.userId ≠ userId := by
      rw [made.shape]
      exact fun mine => other (user.symm.trans mine)
    exact { events := Table.filter_insert_other made.inserted (decide_eq_false owner) }
  | @eventRead input asked made =>
    obtain rfl : input.userId = actor := by simpa [asked, Request.actor] using acts
    -- The owner of a reminder is frozen.
    obtain ⟨s₁, moved, owned⟩ := made.owned
    obtain ⟨before, own⟩ := Option.isSome_iff_exists.mp owned
    rcases Store.ownEvent_eq_some.mp own with ⟨here, user⟩
    rw [made.after]
    refine .updateEvent (by intro _; rfl) fun row found => ?_
    have frozen := (reading.evolves moved).events.frozen ((reading.numbered moved).mpr numbered).events
      here found
    exact fun mine => other (user.symm.trans (frozen.2.2.1.symm.trans mine))
  | @reminderConfirmed input _ _ _ _ row rows asked made =>
    obtain rfl : input.userId = actor := by simpa [asked, Request.actor] using acts
    -- The reminder that waits is the actor's.
    obtain ⟨event, own, -⟩ := made.waiting
    rcases Store.ownEvent_eq_some.mp own with ⟨here, user⟩
    have owner : row.userId ≠ userId := by rw [made.shape]; exact other
    have apart : ∀ row, s.events.find? input.id = some row → row.userId ≠ userId := by
      intro row found
      rw [here, Option.some.injEq] at found
      exact found ▸ user ▸ other
    rw [made.after]
    exact .post
      { transactions := Table.filter_insert_other made.inserted (decide_eq_false owner)
        events := (Store.Spares.updateEvent (by intro _; rfl) apart).events }
      rfl (made.links reading numbered) owner
  | @categoryCreated owner _ _ row _ asked made =>
    obtain rfl : owner = actor := by simpa [asked, Request.actor] using acts
    rw [made.after]
    have user : row.userId ≠ userId := by rw [made.shape]; exact other
    exact { categories := Table.filter_insert_other made.inserted (decide_eq_false user) }

end PocketMint
