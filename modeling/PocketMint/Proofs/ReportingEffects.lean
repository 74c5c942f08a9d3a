import PocketMint.Invariant.Rules
import PocketMint.Proofs.Payments
import PocketMint.Proofs.PostingRules

/-! History reports the effects that reconciliation assigns, as long as no wallet pays itself. -/

namespace PocketMint

open Prog TransactionService

/--
What a call needs of the store so that it moves no money from a wallet to itself: a payment's source
is not the wallet of the instalment, should that wallet have become an asset.
-/
def Call.PaysFromOther (call : Call) (s : Store) : Prop :=
  match call.request with
  | .payInstallment input => ∀ installment ∈ s.ownInstallment input.installmentId input.userId,
      ∀ type ∈ s.walletType installment.walletId, type.isAsset →
        input.sourceWalletId ≠ .given installment.walletId
  | _ => True

instance (call : Call) : DecidablePred call.PaysFromOther := fun s => by
  unfold Call.PaysFromOther
  rcases call with ⟨_, _ | _⟩ <;> infer_instance

namespace Store

variable {s : Store} {row : Transaction} {walletId : Id}

/-- The effect of a transaction on a wallet, as reports show it. -/
def reportedEffect (s : Store) (walletId : Id) (row : Transaction) : Decimal :=
  getWalletReportingEffect (s.sparklineTransaction row).toReportingTransaction walletId

/-- A transaction has no effect on a wallet that is on neither side of it. -/
theorem reportedEffect_other (source : row.walletId ≠ walletId)
    (destination : row.toWalletId ≠ some walletId) : s.reportedEffect walletId row = 0 := by
  simp only [reportedEffect, getWalletReportingEffect, sparklineTransaction]
  cases row.type <;> simp [source, destination]

/-- Both effects of a row agree when an instalment's is an expense and a transfer leaves its wallet. -/
theorem reportedEffect_eq (purchase : row.isInstallment → row.type = .expense)
    (apart : row.type = .transfer → row.toWalletId ≠ some row.walletId) (walletId : Id) :
    s.reportedEffect walletId row = s.effectOn walletId row := by
  simp only [reportedEffect, getWalletReportingEffect, sparklineTransaction, persistedWalletAmount]
  cases kind : row.isInstallment with
  | true =>
    -- An instalment counts with its grand total, or with its own amount when that is gone.
    rw [effectOn_installment kind, purchase kind]
    by_cases on : row.walletId = walletId <;> cases row.installmentId.bind s.grandTotal <;> simp [on]
  | false =>
    rw [effectOn_regular kind]
    -- A regular row has the effect of its type on its own wallet, and of a transfer on the other one.
    by_cases on : row.walletId = walletId
    · cases type : row.type with
      | income => simp [plainDeltas, on]
      | expense => simp [plainDeltas, on]
      | transfer =>
        -- The destination is another wallet, so this one is only debited.
        have apart := apart type
        rw [on] at apart
        simp only [plainDeltas, WalletDelta.on_cons, on, if_true]
        cases dest : row.toWalletId with
        | none => simp
        | some toWalletId =>
          have distinct : toWalletId ≠ walletId := by simpa [dest] using apart
          simp [distinct]
    · cases row.type with
      | income => simp [plainDeltas, on]
      | expense => simp [plainDeltas, on]
      | transfer =>
        -- On another wallet only the credit of a transfer counts.
        by_cases dest : row.toWalletId = some walletId
        · simp [plainDeltas, on, dest]
        · rw [on_plainDeltas_other on dest]
          simp [on, dest]

end Store

/-- A row that is posted by a call from another wallet moves no money from a wallet to itself. -/
theorem Posting.apart {zone : Zone} {call : Call} {seen : List Store} {row : Transaction}
    {s s' : Store} (posting : Posting Eq zone call seen row s s') (other : call.PaysFromOther s)
    (transfer : row.type = .transfer) : row.toWalletId ≠ some row.walletId := by
  cases posting with
  | regular asked made =>
    -- A transfer that is created was checked to have two wallets.
    have typed := congrArg Transaction.type made.shape
    obtain ⟨-, -, -, dest, sent, distinct, -⟩ := made.transfer (typed.symm.trans transfer)
    rw [congrArg Transaction.toWalletId made.shape, congrArg Transaction.walletId made.shape]
    simpa [regularRow, sent] using distinct
  | credit asked made =>
    have typed : row.type = .expense := congrArg Transaction.type made.shape
    -- A purchase on credit is an expense.
    simp [typed] at transfer
  | update asked made stored shape =>
    obtain rfl := Option.some.inj (made.stored.symm.trans stored)
    have typed : row.type = _ := (congrArg Transaction.type shape).trans made.typed.symm
    -- So was one that is updated, with the wallet the update resolves.
    obtain ⟨-, -, dest, sent, distinct, -⟩ := made.transfer (typed.symm.trans transfer)
    have walletOf : row.walletId = _ := (congrArg Transaction.walletId shape).trans made.walletId_eq
    rw [congrArg Transaction.toWalletId shape, walletOf]
    simpa [updatedRow, sent] using distinct
  | payment asked made =>
    obtain ⟨s₁, -, same, own⟩ := made.read
    rw [same] at own
    have held : s.ownWallet _ _ = some _ := made.held.alone
    have onSource := Store.walletType_own held
    have named := made.named
    rw [congrArg Transaction.toWalletId made.shape, congrArg Transaction.walletId made.shape]
    simp only [Call.PaysFromOther, asked] at other
    simp only [InstallmentPaymentService.paymentRow, ne_eq, Option.some.injEq]
    -- The source is an asset, so were it the instalment's wallet, that would be one too.
    intro itself
    rw [← itself] at onSource named
    exact other _ own _ onSource made.asset named
  | confirmation asked made =>
    have typed := congrArg Transaction.type made.shape
    -- A reminder never posts a transfer.
    exact absurd (typed.symm.trans transfer) made.posted

/--
In every run in which no payment's source is the wallet of the instalment it pays, history reports
for every stored transaction and every wallet what reconciliation assigns.
-/
theorem serveAll_effects_agree {zone : Zone} {calls : List Call}
    (meets : RunMeets zone Call.PaysFromOther .empty calls) :
    let s := serveAll zone .empty calls
    ∀ row ∈ s.transactions.rows, ∀ walletId, s.reportedEffect walletId row = s.effectOn walletId row := by
  intro s row member walletId
  have reached : Reachable zone s := ⟨calls, rfl⟩
  refine Store.reportedEffect_eq (reached.sound.paired.expense row member) ?_ walletId
  -- Transfers leave their wallet when they are posted, and a row only ever forgets its destination.
  refine runMeets_rows (fun _ row => row.type = .transfer → row.toWalletId ≠ some row.walletId)
    ?_ (fun posting _ _ met => posting.apart met) meets row member
  intro call seen s s' row row' commit _ _ among member remains follows transfer named
  have before : row.toWalletId = some row'.walletId := remains.2.1 row'.walletId named
  rw [remains.walletId] at before
  exact follows (remains.type.symm.trans transfer) before

/-- A term of a card purchase is paid from the bank account. -/
theorem serveAll_effects_agree_payment :
    let s := serveAll defaultTimezone.zone .empty (bought ++ [payment])
    ∃ row ∈ s.transactions.rows, row.type = .transfer ∧ s.reportedEffect 13 row = 100 ∧
      s.effectOn 13 row = 100 := by
  intro s
  -- The run pays from another wallet, which is all the theorem asks.
  have meets : RunMeets defaultTimezone.zone Call.PaysFromOther .empty (bought ++ [payment]) := by
    decide +kernel
  obtain ⟨row, member, transfer, amount⟩ :
      ∃ row ∈ s.transactions.rows, row.type = .transfer ∧ s.effectOn 13 row = 100 := by
    decide +kernel
  have agree := serveAll_effects_agree meets row member 13
  exact ⟨row, member, transfer, agree.trans amount, amount⟩

/-- The card of a purchase becomes a bank account, receives money, and pays a term of the purchase. -/
def paidFromItself : List Call :=
  bought ++
    [{ now := 1, request := .updateWallet { userId := 1, walletId := 13, type := .given .bank } },
      { now := 1, request := .createTransaction
          { userId := 1, type := some .transfer, amount := some (.exact 500), walletId := .given 12,
            toWalletId := .given 13 } },
      { now := 1, request := .payInstallment
          { userId := 1, installmentId := 14, sourceWalletId := .given 13 } }]

/-- Reports take the payment from a wallet that reconciliation leaves as it was. -/
theorem payInstallment_effects_differ :
    let s := serveAll defaultTimezone.zone .empty paidFromItself
    ∃ row ∈ s.transactions.rows, row.toWalletId = some row.walletId ∧
      s.reportedEffect 13 row = -100 ∧ s.effectOn 13 row = 0 := by
  decide +kernel

end PocketMint
