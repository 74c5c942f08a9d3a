import PocketMint.Invariant.OwnWrites
import PocketMint.Program.Zoom
import PocketMint.Proofs.PostingRules
import PocketMint.Proofs.Purchases

/-! Stores whose books are in order, and the requests that leave them so. -/

namespace PocketMint

open Prog TransactionService

namespace Store

/-- Every transfer names the wallet that its money goes to. -/
def Aimed (s : Store) : Prop :=
  ∀ row ∈ s.transactions.rows, row.type = .transfer → row.toWalletId.isSome

/--
The books are in order: balances are what rows that fit together add up to, and no transfer lacks a side.
-/
structure Booked (s : Store) : Prop where
  sound : s.Sound
  matched : s.Matched
  balanced : s.Balanced
  aimed : s.Aimed

theorem Booked.empty : Store.empty.Booked where
  sound := .empty
  matched := .empty
  balanced wallet member := by cases member
  aimed row member := by cases member

theorem Booked.intact {s : Store} (booked : s.Booked) : s.Intact :=
  ⟨booked.sound.linked, booked.sound.numbered⟩

/-- Writes apart from the wallets, transactions and instalments leave the books in order. -/
theorem Booked.aside {s s' : Store} (booked : s.Booked) (intact : s'.Intact)
    (wallets : s'.wallets = s.wallets)
    (transactions : s'.transactions = s.transactions) (installments : s'.installments = s.installments) :
    s'.Booked where
  sound :=
    -- The three parts look at the tables that are kept.
    { numbered := intact.numbered
      linked := intact.linked
      paired := booked.sound.paired.derive
        (fun row member => .inl ⟨row, transactions ▸ member, .refl row⟩)
        (fun _ row found => ⟨row, installments ▸ found, rfl⟩) }
  matched := booked.matched.derive booked.sound.paired
    (fun row member => .inl ⟨row, transactions ▸ member, rfl, rfl, fun _ => rfl⟩)
    (fun row member _ _ names => ⟨row, transactions ▸ member, names⟩)
    (fun row member => ⟨row, installments ▸ member, rfl, rfl, rfl⟩)
  balanced := by
    -- The totals are those of the plans, which are the same.
    have same : s'.grandTotal = s.grandTotal := by
      unfold grandTotal
      rw [installments]
    refine booked.balanced.congr (fun wallet member => ⟨wallet, wallets ▸ member, rfl, rfl, rfl⟩)
      fun wallet _ => ?_
    unfold effectOn
    rw [same, transactions]
  aimed row member := booked.aimed row (transactions ▸ member)

/-- A wallet on which its user counts no transfer is the destination of none. -/
theorem Linked.noTransferTo {s : Store} (linked : s.Linked) {userId walletId : Id}
    (own : (s.ownWallet walletId userId).isSome) (none : s.transferCount userId walletId = 0) :
    ∀ row ∈ s.transactions.rows, row.type = .transfer → row.toWalletId ≠ some walletId := by
  intro row member transfer named
  -- The destination of a transfer belongs to the transfer's user.
  have there := (linked.transactions row member).2.1 walletId named
  rcases Option.isSome_iff_exists.mp own with ⟨wallet, here⟩
  rcases Option.isSome_iff_exists.mp there with ⟨other, there⟩
  rcases Store.ownWallet_eq_some.mp here with ⟨found, user⟩
  rcases Store.ownWallet_eq_some.mp there with ⟨found', user'⟩
  -- Both readings find the wallet, so it has one owner.
  obtain rfl : wallet = other := Option.some.inj (found.symm.trans found')
  -- The count of the transfers would include the row.
  have counted := List.countP_eq_zero.mp none row member
  simp [transfer, named, user'.symm.trans user] at counted

/-- No transaction of another user has an effect on a wallet. -/
theorem Linked.effectOn_other {s : Store} (linked : s.Linked) {wallet : Wallet}
    (among : wallet ∈ s.wallets.rows)
    {row : Transaction} (member : row ∈ s.transactions.rows) (apart : row.userId ≠ wallet.userId) :
    s.effectOn wallet.id row = 0 := by
  -- Both sides of a transaction are wallets of its own user.
  have foreign : ∀ id, (s.ownWallet id row.userId).isSome → id ≠ wallet.id := by
    intro id own same
    rcases Option.isSome_iff_exists.mp own with ⟨other, own⟩
    rcases Store.ownWallet_eq_some.mp own with ⟨found, user⟩
    have here := Table.find?_of_mem among
    rw [same] at found
    obtain rfl := Option.some.inj (found.symm.trans here)
    exact apart user.symm
  -- Each wallet that the row names is its user's, and so another one.
  have links := linked.transactions row member
  have source := foreign row.walletId links.1
  cases kind : row.isInstallment with
  | true => simp [effectOn_installment kind, source]
  | false =>
    rw [effectOn_regular kind]
    exact on_plainDeltas_other source fun named => foreign _ (links.2.1 _ named) rfl

/-- What a user's own transactions assign to a wallet of the user is all that any do. -/
theorem Linked.assigned_own {s : Store} (linked : s.Linked) {wallet : Wallet}
    (among : wallet ∈ s.wallets.rows)
    {grandTotals : Id → Option Decimal} (agree : ∀ row ∈ s.transactions.rows, row.userId = wallet.userId →
      ∀ id ∈ row.installmentId, grandTotals id = s.grandTotal id) :
    Reconciliation.assigned grandTotals
        ((s.transactions.rows.filter fun row => row.userId = wallet.userId).map Transaction.ledger)
        wallet.id =
      s.transactions.total (s.effectOn wallet.id) := by
  -- The rows of the other users have no effect on the wallet.
  have rest : ∀ row ∈ s.transactions.rows, decide (row.userId = wallet.userId) = false →
      s.effectOn wallet.id row = 0 :=
    fun row member other => linked.effectOn_other among member (of_decide_eq_false other)
  have own : (s.transactions.filter fun row => row.userId = wallet.userId).total (s.effectOn wallet.id) =
      s.transactions.total (s.effectOn wallet.id) := Table.total_filter _ rest
  rw [← own]
  simp only [Reconciliation.assigned, Table.total, Table.rows_filter, List.map_map]
  -- So the sums agree row by row over the rows of its user.
  refine congrArg List.sum (List.map_congr_left fun row listed => ?_)
  obtain ⟨member, mine⟩ := List.mem_filter.mp listed
  -- An effect depends on the grand totals of the row's own instalment alone.
  have same : row.installmentId.bind grandTotals = row.installmentId.bind s.grandTotal := by
    cases named : row.installmentId with
    | none => rfl
    | some id => exact agree row member (of_decide_eq_true mine) id named
  simp only [Function.comp_apply, effectOn]
  -- A regular row reads no total at all.
  cases kind : row.isInstallment with
  | true =>
    rw [rowDeltas_installment kind, rowDeltas_installment kind]
    simp only [Transaction.ledger, same]
  | false => rw [rowDeltas_regular kind, rowDeltas_regular kind]

end Store

section Commits

variable {zone : Zone} {call : Call} {seen : List Store} {s s' : Store}

/-- Every write leaves each transfer a destination. -/
theorem Commit.aimed (commit : Commit Eq zone call seen s s') (linked : s.Linked) (aimed : s.Aimed) :
    s'.Aimed := by
  -- A new row has a destination if it is a transfer.
  have added : ∀ {row rows}, s.transactions.insert? row = some rows →
      (row.type = .transfer → row.toWalletId.isSome) →
      ∀ row' ∈ rows.rows, row'.type = .transfer → row'.toWalletId.isSome := by
    intro row rows inserted sent row' member
    rcases (Table.mem_insert inserted).mp member with old | rfl
    · exact aimed row' old
    · exact sent
  -- A deletion adds no row.
  have erased : ∀ {id}, ∀ row ∈ (s.deleteTransaction id).transactions.rows,
      row.type = .transfer → row.toWalletId.isSome :=
    fun row member => aimed row (List.mem_filter.mp member).1
  intro row member transfer
  -- Five commits post a row, and the deletion of a wallet alone takes destinations away.
  cases commit with
  | walletDeleted asked made =>
    rw [made.after] at member
    rcases List.mem_map.mp member with ⟨old, left, rfl⟩
    have among := (List.mem_filter.mp left).1
    rcases Option.isSome_iff_exists.mp (aimed old among transfer) with ⟨toWalletId, named⟩
    -- The wallet had no transfer to it, so no destination is lost.
    have other := linked.noTransferTo made.owned.alone made.noTransfer.alone old among transfer
    have apart : toWalletId ≠ _ := fun same => other (named.trans (congrArg some same))
    simp [named, Option.filter, apart]
  | regularCreated asked made =>
    rw [made.after] at member
    refine added made.inserted (fun sent => ?_) row member transfer
    have typed := congrArg Transaction.type made.shape
    -- A transfer was checked to name its destination.
    rcases made.transfer (typed.symm.trans sent) with ⟨-, -, -, toWalletId, named, -⟩
    have stored : _ = some toWalletId := (congrArg Transaction.toWalletId made.shape).trans named
    simp [stored]
  | creditCreated asked made =>
    rw [made.after] at member
    refine added made.inserted (fun sent => ?_) row member transfer
    have typed := congrArg Transaction.type made.shape
    -- A credit purchase is no transfer.
    cases typed.symm.trans sent
  | transactionUpdated asked made =>
    rw [made.after] at member
    rcases Table.mem_update (fun _ => by rfl) member with old | ⟨before, found, rfl⟩
    · exact aimed row old transfer
    · -- The row that is updated is the one that the request has read.
      obtain rfl := Option.some.inj (made.stored.symm.trans found)
      rcases made.transfer (made.typed.trans transfer) with ⟨-, -, toWalletId, named, -⟩
      have stored : _ = some toWalletId := named
      simp [updatedRow, stored]
  | regularDeleted asked made =>
    rw [made.after] at member
    exact erased row member transfer
  | installmentDeleted asked made =>
    rw [made.after] at member
    simp only [Store.credit] at member
    split at member
    · rcases List.mem_map.mp member with ⟨old, left, rfl⟩
      exact erased old left transfer
    · exact erased row member transfer
  | installmentPaid asked made =>
    rw [made.after] at member
    refine added made.inserted (fun _ => ?_) row member transfer
    -- A payment goes to the wallet of the instalment.
    rw [made.shape]
    rfl
  | reminderConfirmed asked made =>
    rw [made.after] at member
    refine added made.inserted (fun sent => ?_) row member transfer
    have typed := congrArg Transaction.type made.shape
    -- A reminder posts no transfer.
    exact absurd (typed.symm.trans sent) made.posted
  | _ asked made =>
    rw [made.after] at member
    exact aimed row member transfer

/-- A write of a request that runs alone leaves the books in order. -/
theorem Commit.booked (commit : Commit Eq zone call seen s s') (booked : s.Booked) : s'.Booked where
  sound := commit.sound .alone booked.sound
  matched := commit.matched booked.sound booked.matched
  balanced := commit.balanced .alone booked.sound.numbered (fun _ same => same ▸ booked.sound.linked.backed)
    (fun _ _ => booked.sound.unnamed) (commit.undisturbed booked.sound) booked.balanced
  aimed := commit.aimed booked.sound.linked booked.aimed

/-- Every call leaves the books in order. -/
theorem handle_booked (zone : Zone) (call : Call) : (handle zone call).Keeps Store.Booked := fun _ booked =>
  serve_preserves booked.sound.numbered (fun _ _ _ _ held commit => commit.booked held) booked

end Commits

end PocketMint
