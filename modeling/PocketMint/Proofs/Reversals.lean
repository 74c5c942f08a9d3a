import PocketMint.Proofs.Payments

/-! Deleting the transfer of a bill payment gives the money back, and leaves the instalment as paid. -/

namespace PocketMint

open Prog InstallmentPaymentService

namespace Store

/-- Deltas and their negations together change no balance. -/
theorem credit_negated (s : Store) (deltas : List WalletDelta) :
    (s.credit deltas).credit (negated deltas) = s := by
  -- On each wallet the two sums cancel.
  rw [credit_credit]
  simp [credit, Table.mapRows]

end Store

/-- The wallets that a movement's deltas are on are those that it names. -/
theorem plainDeltas_present {s : Store} {type : FinancialTxType} {amount : Decimal} {walletId : Id}
    {toWalletId : Option Id} (source : (s.wallets.find? walletId).isSome)
    (destination : ∀ id ∈ toWalletId, (s.wallets.find? id).isSome) {delta : WalletDelta}
    (listed : delta ∈ plainDeltas type amount walletId toWalletId) :
    (s.wallets.find? delta.walletId).isSome := by
  have present : ∀ delta ∈ plainDeltas type amount walletId toWalletId,
      (s.wallets.find? delta.walletId).isSome :=
    forall_plainDeltas source source destination
  exact present delta listed

/-- Deltas are applied when all of their wallets are there. -/
theorem applyBalanceDeltas_accepts {s : Store} {deltas : List WalletDelta}
    (present : ∀ delta ∈ deltas, (s.wallets.find? delta.walletId).isSome) :
    (applyBalanceDeltas deltas) s = .ok ((), s.credit deltas) :=
  applyBalanceDeltas_ok.mpr ⟨fun delta listed _ => present delta listed, rfl⟩

/-- The effect of a movement can be taken back where the wallets that it names are there. -/
theorem applyBalanceDeltas_reverses {s : Store} {type : FinancialTxType} {amount : Decimal} {walletId : Id}
    {toWalletId : Option Id} (source : (s.wallets.find? walletId).isSome)
    (destination : ∀ id ∈ toWalletId, (s.wallets.find? id).isSome) :
    (applyBalanceDeltas (negated (plainDeltas type amount walletId toWalletId))) s =
      .ok ((), s.credit (negated (plainDeltas type amount walletId toWalletId))) := by
  -- Negating a delta leaves it on its wallet.
  apply applyBalanceDeltas_accepts
  intro delta listed
  rcases List.mem_map.mp listed with ⟨forward, among, rfl⟩
  have there := plainDeltas_present source destination among
  exact there

/-- A row that is no instalment's is deleted once the deltas that take its effect back are applied. -/
theorem deleteTransaction_accepts {column : Decimal → Decimal} {s : Store} {row : Transaction}
    (found : s.transactions.find? row.id = some row) (regular : row.isInstallment = false)
    (complete : row.type = .transfer → row.toWalletId.isSome)
    (applied : applyBalanceDeltas (negated (plainDeltas row.type row.amount row.walletId row.toWalletId))
      column s =
      .ok ((), s.credit (negated (plainDeltas row.type row.amount row.walletId row.toWalletId)))) :
    (deleteTransaction { userId := row.userId, id := row.id } column).run s =
      (.ok row.id, (s.credit
        (negated (plainDeltas row.type row.amount row.walletId row.toWalletId))).deleteTransaction
            row.id) := by
  have own : s.ownTransaction row.id row.userId = some row := Store.ownTransaction_eq_some.mpr ⟨found, rfl⟩
  -- A transfer without a destination is refused, which this row is not.
  have kept : ¬(row.type = .transfer ∧ row.toWalletId = none) := by
    intro broken
    have given := complete broken.1
    simp [broken.2] at given
  have reversal : reverseBalanceEffect
      { type := row.type, amount := row.amount, walletId := row.walletId, toWalletId := row.toWalletId } =
      .ok (negated (plainDeltas row.type row.amount row.walletId row.toWalletId)) :=
    reverseBalanceEffect_ok.mpr ⟨complete, rfl⟩
  -- The write takes the effect back and then deletes the row, which is still there.
  have written : ∀ grandTotal, TransactionService.writeDelete
      { userId := row.userId, id := row.id } row grandTotal column s =
      .ok (row.id, (s.credit
        (negated (plainDeltas row.type row.amount row.walletId row.toWalletId))).deleteTransaction
            row.id) := by
    intro grandTotal
    simp only [TransactionService.writeDelete, regular]
    apply Tx.bind_ok.mpr ⟨_, s, Tx.lift_ok.mpr ⟨reversal, rfl⟩, ?_⟩
    apply Tx.bind_ok.mpr ⟨(), _, applied, ?_⟩
    have deleted : Tx.deleteTransaction row.id
        (s.credit (negated (plainDeltas row.type row.amount row.walletId row.toWalletId))) = .ok ((), _) :=
      Tx.delete_ok.mpr ⟨Option.isSome_iff_exists.mpr ⟨row, found⟩, rfl⟩
    exact Tx.bind_ok.mpr ⟨(), _, deleted, Tx.pure_ok.mpr ⟨rfl, rfl⟩⟩
  -- The write succeeds, and so does the service.
  have committed : (commit (TransactionService.rethrowMissing row.id) (TransactionService.writeDelete
      { userId := row.userId, id := row.id } row (row.installmentId.bind s.grandTotal) column)).run s = _ :=
    run_commit_ok (written _)
  simp only [deleteTransaction]
  simp [query, orThrow, throwIf, own, kept, run, committed]

/-- A row that moves money between wallets that exist is deleted, and its effect is taken back. -/
theorem serve_deleteTransaction {zone : Zone} {s : Store} {row : Transaction} (now : Instant)
    (found : s.transactions.find? row.id = some row) (regular : row.isInstallment = false)
    (complete : row.type = .transfer → row.toWalletId.isSome) (known : s.TransactionKeys row) :
    serve zone s { now, request := .deleteTransaction { userId := row.userId, id := row.id } } =
      (.ok (.deleted row.id), (s.credit
        (negated (plainDeltas row.type row.amount row.walletId row.toWalletId))).deleteTransaction
            row.id) := by
  -- The reversal names wallets that exist, so it is applied.
  have deleted := deleteTransaction_accepts found regular complete
    (applyBalanceDeltas_reverses known.1 known.2.1)
  rw [serve, handle, run_bind, deleted]
  rfl

/-- The transfer of a payment is stored on wallets that exist. -/
theorem InstallmentPaid.stored {between : Store → Store → Prop} {zone : Zone} {now : Instant}
    {seen : List Store} {s s' : Store} {input : PayInstallmentInput} {installment : Installment}
    {walletName : String} {source : Wallet} {date due : Instant} {row : Transaction}
    {rows : Table Transaction}
    (made : InstallmentPaid between zone now seen input installment walletName source date due row
      rows s s') : s'.transactions.find? row.id = some row ∧ s'.TransactionKeys row := by
  have shape := made.shape
  have keys := made.keys
  constructor
  · rw [made.after]
    exact Table.find?_inserted made.inserted
  · rw [made.after, Store.transactionKeys_credit]
    refine ⟨keys.1, keys.2.1, keys.2.2.1, ?_⟩
    -- A payment's transfer names no instalment.
    intro id named
    rw [shape] at named
    cases named

/--
Deleting the transfer of an accepted bill payment, directly afterwards, is accepted and gives every
wallet its balance back, while the instalment stays one paid term further than before the payment.
-/
theorem deleteTransaction_payment {zone : Zone} {s : Store} (reached : Reachable zone s) {now : Instant}
    {input : PayInstallmentInput} {transfer : Transaction}
    (accepted : reported (serve zone s { now, request := .payInstallment input }).1 = some transfer)
    (later : Instant) :
    let paying := (serve zone s { now, request := .payInstallment input }).2
    let undone := serve zone paying
      { now := later, request := .deleteTransaction { userId := input.userId, id := transfer.id } }
    undone.1 = .ok (.deleted transfer.id) ∧ undone.2.wallets = s.wallets ∧
      undone.2.installments = paying.installments ∧
      ∃ before due, s.installments.find? input.installmentId = some before ∧
        undone.2.installments.find? input.installmentId = some
          { before with
            paidTerms := before.paidTerms + 1
            currentTerm := min (before.paidTerms + 2) before.installmentMonths
            status := if before.installmentMonths ≤ before.paidTerms + 1 then .settled else .active
            nextDueDate := due } := by
  intro paying undone
  rcases serve_posting reached.numbered accepted with ⟨seen, posting⟩
  cases posting with
  | payment asked made =>
    rename_i asInput installment walletName source date due rows
    -- The payment posted a transfer that is no instalment's row.
    cases asked
    rcases made.stored with ⟨stored, keys⟩
    have shape := made.shape
    have regular : transfer.isInstallment = false := by rw [shape]; rfl
    have complete : transfer.type = .transfer → transfer.toWalletId.isSome := by
      intro _
      rw [shape]
      rfl
    have user : transfer.userId = input.userId := by rw [shape]; rfl
    have served : serve zone paying _ = _ := serve_deleteTransaction later stored regular complete keys
    rw [user] at served
    have served : undone = _ := served
    -- The reversal takes back what the payment credited, and deletes nothing but the transfer.
    have wallets : undone.2.wallets = s.wallets := by
      have after : paying = _ := made.after
      rw [served, after]
      show (Store.credit (Store.credit _ _) _).wallets = _
      rw [Store.credit_negated]
    -- The deletion leaves the instalments where the payment put them.
    have installments : undone.2.installments = paying.installments := by rw [served]; rfl
    rcases made.read with ⟨s₁, _, rfl, own⟩
    have here := (Store.ownInstallment_eq_some.mp own).1
    have key : installment.id = input.installmentId := Table.key_of_find? here
    refine ⟨by rw [served], wallets, installments, installment, due, here, ?_⟩
    rw [installments]
    show (serve zone s₁ { now, request := .payInstallment input }).2.installments.find? _ = _
    -- The instalment that the payment read is advanced by one term.
    rw [made.after]
    simp [Store.credit, key, here, advanced, isFinalTerm]
  | _ asked => cases asked

/--
The first payment of the purchase of 300 over three months is deleted: 100 come back, a term stays paid.
-/
theorem deleteTransaction_payment_first :
    let s := serveAll defaultTimezone.zone .empty bought
    let paying := (serve defaultTimezone.zone s payment).2
    let undone := serve defaultTimezone.zone paying
      { now := 2, request := .deleteTransaction { userId := 1, id := 16 } }
    (paying.wallets.find? 12).map Wallet.balance = some 900 ∧ undone.2.wallets = s.wallets ∧
      undone.2.installments = paying.installments := by
  intro s paying undone
  have reached : Reachable defaultTimezone.zone s := ⟨bought, rfl⟩
  have reply : (reported (serve defaultTimezone.zone s payment).1).any (fun row => row.id = 16) := by
    decide +kernel
  rcases (Option.any_eq_true _ _).mp reply with ⟨transfer, accepted, named⟩
  rcases deleteTransaction_payment reached accepted 2 with ⟨_, wallets, installments, _⟩
  rw [of_decide_eq_true named] at wallets installments
  exact ⟨by decide +kernel, wallets, installments⟩

/-- Deleting the transfer of a payment does not take the paid term back. -/
theorem deleteTransaction_keeps_term :
    ¬ ∀ (zone : Zone) (s : Store), Reachable zone s → ∀ (now : Instant) (input : PayInstallmentInput)
      (transfer : Transaction),
      reported (serve zone s { now, request := .payInstallment input }).1 = some transfer →
      ∀ later : Instant,
        ((serve zone (serve zone s { now, request := .payInstallment input }).2
            { now := later
              request := .deleteTransaction { userId := input.userId, id := transfer.id }
                }).2.installments.find?
            input.installmentId).map Installment.paidTerms =
          (s.installments.find? input.installmentId).map Installment.paidTerms := by
  intro claimed
  -- The purchase of 300 has no term paid before the payment, and one after its deletion.
  have reply : (reported (serve defaultTimezone.zone
      (serveAll defaultTimezone.zone .empty bought) payment).1).any (fun row => row.id = 16) := by
    decide +kernel
  rcases (Option.any_eq_true _ _).mp reply with ⟨transfer, accepted, named⟩
  have same := claimed defaultTimezone.zone _ ⟨bought, rfl⟩ 1 _ transfer accepted 2
  rw [of_decide_eq_true named] at same
  exact absurd same (by decide +kernel)

end PocketMint
