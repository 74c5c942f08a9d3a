import PocketMint.Invariant.Balanced
import PocketMint.Invariant.Paired

/-! Calls executed one at a time keep every balance equal to what its transactions add up to. -/

namespace PocketMint

open Prog

/-- What holds of the rows of every reachable store, apart from the balances. -/
structure Store.Sound (s : Store) : Prop where
  numbered : s.Numbered
  linked : s.Linked
  paired : s.Paired

theorem Store.Sound.empty : Store.empty.Sound := ⟨.empty, .empty, .empty⟩

/-- Every write keeps rows sound. -/
theorem Commit.sound {between : Store → Store → Prop} (reading : Reading between) {zone : Zone}
    {call : Call} {seen : List Store} {s s' : Store} (commit : Commit between zone call seen s s')
    (sound : s.Sound) : s'.Sound where
  numbered := commit.numbered sound.numbered
  linked := commit.linked reading sound.numbered sound.linked
  paired := commit.paired reading sound.numbered sound.linked sound.paired

theorem Reachable.sound {zone : Zone} {s : Store} (reached : Reachable zone s) : s.Sound :=
  reached.invariant (fun _ sound => sound.numbered) .empty
    fun _ _ _ _ sound commit => commit.sound .alone sound

/-- Every instalment a linked transaction names is there. -/
theorem Store.Linked.backed {s : Store} (linked : s.Linked) : s.Backed := by
  intro row member id named
  obtain ⟨installment, own⟩ := Option.isSome_iff_exists.mp
    ((linked.transactions row member).2.2.2 id named)
  simp [(Store.ownInstallment_eq_some.mp own).1]

/-- A row on a linked wallet belongs to the wallet's user. -/
theorem Store.Linked.user_of_wallet {s : Store} (linked : s.Linked) {row : Transaction}
    (member : row ∈ s.transactions.rows) {userId : Id}
    (own : (s.ownWallet row.walletId userId).isSome) : row.userId = userId := by
  obtain ⟨wallet, here⟩ := Option.isSome_iff_exists.mp own
  obtain ⟨other, there⟩ := Option.isSome_iff_exists.mp (linked.transactions row member).1
  obtain ⟨found, user⟩ := Store.ownWallet_eq_some.mp here
  obtain ⟨found', user'⟩ := Store.ownWallet_eq_some.mp there
  obtain rfl : wallet = other := Option.some.inj (found.symm.trans found')
  exact user'.symm.trans user

/-- No transfer leaves a wallet on which its user counts none. -/
theorem Store.Linked.noTransfer {s : Store} (linked : s.Linked) {userId walletId : Id}
    (own : (s.ownWallet walletId userId).isSome) (none : s.transferCount userId walletId = 0) :
    ∀ row ∈ s.transactions.rows, row.walletId = walletId → row.type ≠ .transfer := by
  rintro row member rfl transfer
  have counted := List.countP_eq_zero.mp none row member
  simp [transfer, linked.user_of_wallet member own] at counted

/-- Only rows on a wallet name its instalments. -/
theorem Store.Paired.onWallet {s : Store} (paired : s.Paired) {walletId : Id} :
    ∀ row ∈ s.transactions.rows, ∀ id ∈ row.installmentId, s.installmentOn walletId id →
      row.walletId = walletId := by
  intro row member id named on
  obtain ⟨installment, found, same⟩ := by simpa [Store.installmentOn, Option.any_eq_true] using on
  exact (paired.wallet row member id named installment found).symm.trans same

/-- A call that is executed alone meets a sound store as it read it. -/
theorem Commit.undisturbed {zone : Zone} {call : Call} {seen : List Store} {s s' : Store}
    (commit : Commit Eq zone call seen s s') (sound : s.Sound) : Undisturbed call seen s := by
  -- A call that runs alone reads the row as it is when it writes.
  have asRead : ∀ {id userId : Id} {existing : Transaction}, (∃ s₁, seen.head? = some s₁ ∧ s₁ = s ∧
      s₁.ownTransaction id userId = some existing) → AsRead id seen s := by
    rintro id userId existing ⟨_, first, rfl, -⟩ s₁ first' existing found row found'
    obtain rfl : _ = s₁ := Option.some.inj (first.symm.trans first')
    rw [Option.some.inj (found'.symm.trans found)]
  -- An instalment has one row, so no other names it.
  have alone : ∀ {at_ : Id}, ∀ row ∈ s.transactions.find? at_, ∀ id ∈ row.installmentId,
      ∀ other ∈ s.transactions.rows, other.installmentId = some id → other.id = at_ := by
    intro at_ row found id named other member names
    have same := sound.paired.alone other member row (Table.mem_of_find? found) id names named
    exact same.trans (Table.key_of_find? found)
  -- Only the deletions and the updates depend on what was read before.
  cases commit with
  | walletDeleted asked made =>
    simp only [Undisturbed, asked]
    obtain ⟨_, rfl, own⟩ := made.owned
    obtain ⟨_, rfl, none⟩ := made.noTransfer
    exact fun row member => ⟨sound.linked.noTransfer own none row member,
      sound.paired.onWallet row member⟩
  | transactionUpdated asked made =>
    simp only [Undisturbed, asked]
    exact asRead made.read
  | regularDeleted asked made =>
    simp only [Undisturbed, asked]
    exact ⟨asRead made.read, alone⟩
  | installmentDeleted asked made =>
    simp only [Undisturbed, asked]
    obtain ⟨s₁, first, same, own, -⟩ := made.read
    exact ⟨asRead ⟨s₁, first, same, own⟩, alone⟩
  | _ asked => simp [Undisturbed, asked]

/-- In a sound store the next identifier is free, so no foreign key has named it. -/
theorem Store.Sound.unnamed {s : Store} (sound : s.Sound) :
    ∀ row ∈ s.transactions.rows, row.walletId ≠ s.nextId ∧ row.toWalletId ≠ some s.nextId := by
  have free : ∀ {id userId}, (s.ownWallet id userId).isSome → id ≠ s.nextId := by
    intro id userId own
    obtain ⟨wallet, own⟩ := Option.isSome_iff_exists.mp own
    exact (sound.numbered.wallets.find? (Store.ownWallet_eq_some.mp own).1).ne
  intro row member
  have links := sound.linked.transactions row member
  exact ⟨free links.1, fun same => free (links.2.1 _ same) rfl⟩

/-- Every reachable store is balanced. -/
theorem Reachable.balanced {zone : Zone} {s : Store} (reached : Reachable zone s) : s.Balanced := by
  -- Soundness is carried along, since the commits need it to keep the balances.
  let holds (s : Store) : Prop := s.Sound ∧ s.Balanced
  have numbers : ∀ s, holds s → s.Numbered := fun _ held => held.1.numbered
  have empty : holds .empty := ⟨.empty, fun _ member => by simp [Store.empty] at member⟩
  have kept : ∀ call seen s s', holds s → Commit Eq zone call seen s s' → holds s' := by
    rintro _ _ _ _ ⟨sound, balanced⟩ commit
    exact ⟨commit.sound .alone sound,
      commit.balanced .alone sound.numbered (fun _ same => same ▸ sound.linked.backed)
        (fun _ _ => sound.unnamed) (commit.undisturbed sound) balanced⟩
  exact (reached.invariant numbers empty kept).2

/-- After any run of calls, accepted or refused, every balance is its wallet's initial balance and
the effects of all stored transactions, and reconciliation reports no drift. -/
theorem serveAll_no_drift (zone : Zone) (calls : List Call) :
    let s := serveAll zone .empty calls
    (∀ wallet ∈ s.wallets.rows, wallet.balance = wallet.initialBalance +
      (s.transactions.rows.map fun row =>
        WalletDelta.on (Reconciliation.rowDeltas s.grandTotal row.ledger) wallet.id).sum) ∧
    ∀ report ∈ s.reconciliation, report.drift = 0 := by
  have balanced : (serveAll zone .empty calls).Balanced := Reachable.balanced ⟨calls, rfl⟩
  exact ⟨balanced, Store.balanced_iff_drift.mp balanced⟩

end PocketMint
