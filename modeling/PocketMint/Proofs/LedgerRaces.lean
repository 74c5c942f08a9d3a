import PocketMint.Proofs.Ledger

/-! Interleaved calls keep every balance as long as no write meets a transaction that has changed. -/

namespace PocketMint

open Prog

/-- Every write keeps the instalments that transactions name. -/
theorem Commit.backed {between : Store → Store → Prop} {zone : Zone} {call : Call}
    {seen : List Store} {s s' : Store} (commit : Commit between zone call seen s s')
    (backed : s.Backed) : s'.Backed := by
  -- A removed row names nothing, and a removed instalment is struck from the rows that stay.
  have deleted : ∀ id, (s.deleteTransaction id).Backed :=
    fun id row member => backed row (List.mem_filter.mp member).1
  cases commit with
  | walletCreated asked made =>
    rw [made.after]
    exact backed
  | walletEdited asked made =>
    rw [made.after]
    exact backed
  | @walletDeleted input asked made =>
    rw [made.after]
    -- A row that stays keeps its instalment unless that goes with the wallet.
    intro row' member id named
    obtain ⟨row, among, rfl⟩ := List.mem_map.mp member
    obtain ⟨names, off⟩ := Option.filter_eq_some_iff.mp named
    obtain ⟨installment, found⟩ := Option.isSome_iff_exists.mp
      (backed row (List.mem_filter.mp among).1 id names)
    have elsewhere : installment.walletId ≠ input.walletId := by
      simpa [Store.installmentOn, found] using off
    simp [Store.deleteWallet, found, Option.filter, elsewhere]
  | regularCreated asked made =>
    rw [made.after]
    intro row member id named
    -- A regular row names no instalment.
    obtain old | rfl := (Table.mem_insert made.inserted).mp member
    · exact backed row old id named
    · simp [made.shape, TransactionService.regularRow] at named
  | creditCreated asked made =>
    have created := made.backed
    rw [made.after]
    intro row member id named
    obtain old | rfl := (Table.mem_insert made.inserted).mp member
    -- The row of a purchase names the instalment that is inserted before it.
    · simp only [Store.credit, Table.find?_insert created]
      split
      · rfl
      · exact backed row old id named
    · have here := Table.find?_inserted created
      rw [made.shape, TransactionService.creditRow, Option.mem_some_iff] at named
      rw [made.backing] at here
      exact Option.isSome_iff_exists.mpr ⟨_, named ▸ here⟩
  | transactionUpdated asked made =>
    rw [made.after]
    intro row' member id named
    -- An update does not touch what the row names.
    obtain old | ⟨row, found, rfl⟩ := Table.mem_update (fun _ => by rfl) member
    · exact backed row' old id named
    · exact backed row (Table.mem_of_find? found) id named
  | regularDeleted asked made =>
    rw [made.after]
    exact deleted _
  | installmentDeleted asked made =>
    rw [made.after]
    split
    -- The rows that stay and named the instalment are struck from it.
    · intro row' member other named
      obtain ⟨row, among, rfl⟩ := List.mem_map.mp member
      obtain ⟨names, apart⟩ := Option.filter_eq_some_iff.mp named
      have stays := deleted _ row among other names
      simp only [Store.credit, Store.deleteInstallment, Table.find?_erase]
      rw [if_neg (of_decide_eq_true apart)]
      exact stays
    · exact deleted _
  | installmentPaid asked made =>
    rw [made.after]
    intro row member id named
    obtain old | rfl := (Table.mem_insert made.inserted).mp member
    -- An instalment that is advanced is still there.
    · have here := backed row old id named
      simp only [Store.credit, Table.find?_update]
      split <;> simpa using here
    · simp [made.shape, InstallmentPaymentService.paymentRow] at named
  | reminderConfirmed asked made =>
    rw [made.after]
    intro row member id named
    obtain old | rfl := (Table.mem_insert made.inserted).mp member
    · exact backed row old id named
    · cases (congrArg Transaction.installmentId made.shape).symm.trans named
  | templateCreated asked made =>
    rw [made.after]
    exact backed
  | templateEdited asked made =>
    rw [made.after]
    exact backed
  | templateReminded asked made =>
    rw [made.after]
    exact backed
  | installmentReminded asked made =>
    rw [made.after]
    exact backed
  | eventRead asked made =>
    rw [made.after]
    exact backed
  | categoryCreated asked made =>
    rw [made.after]
    exact backed

section Interleaved

variable (zone : Zone)

/-- What interleaved calls keep of the ledger. -/
structure Store.LedgerKept (s : Store) : Prop where
  numbered : s.Numbered
  backed : s.Backed
  balanced : s.Balanced

/-- Calls that open no wallet interleave over balanced stores when no write is disturbed. -/
def ledger : Discipline (handle zone) fun thread s =>
    (∀ input, thread.request.request ≠ .createWallet input) ∧
      Undisturbed thread.request thread.seen s :=
  interleaving zone _ Store.LedgerKept
    fun _ _ _ _ kept ⟨opensNone, undisturbed⟩ commit =>
      ⟨commit.numbered kept.numbered, commit.backed kept.backed,
        commit.balanced (.within fun _ kept => kept.numbered) kept.numbered
          (fun _ moved => ((moved.inv_iff).mpr kept).backed)
          (fun input asked => absurd asked (opensNone input)) undisturbed kept.balanced⟩

variable {zone}

end Interleaved

/-- The calls up to a purchase of 100 from the bank account, which is transaction 14. -/
def spent : List Call :=
  onboarding 1 1000 5000 ++
    [{ now := 0, request := .createTransaction
        { userId := 1, type := some .expense, amount := some (.exact 100), walletId := .given 12,
          categoryId := .given 0 } }]

/-- An edit of the amount of the purchase. -/
def respent (amount : Decimal) : Call :=
  { now := 1, request := .updateTransaction { userId := 1, id := 14, amount := some (.exact amount) } }

end PocketMint
