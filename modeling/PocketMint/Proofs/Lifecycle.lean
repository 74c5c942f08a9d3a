import PocketMint.Domain.FinancialLaws
import PocketMint.Proofs.Payments

/-! A credit purchase and its payments, one at a time, from the full debt to nothing. -/

namespace PocketMint

open Prog InstallmentPaymentService

/-- A debt wallet has received the payments made since the start, and nothing else. -/
def Received (opening : Decimal) (start walletId : Id) (s : Store) : Prop :=
  ∃ wallet, s.wallets.find? walletId = some wallet ∧ wallet.type.isCredit ∧
    wallet.balance = opening + (amountsSince start s).sum

/-- The wallet of an instalment receives what is paid for it. -/
theorem InstallmentPaid.received {zone : Zone} {now : Instant} {seen : List Store} {s s' : Store}
    {input : PayInstallmentInput} {installment : Installment} {walletName : String}
    {source : Wallet} {date due : Instant} {row : Transaction} {rows : Table Transaction}
    {opening : Decimal} {start : Id} (later : start ≤ s.nextId)
    (made : InstallmentPaid Eq zone now seen input installment walletName source date due row rows
      s s') (before : Received opening start installment.walletId s) :
    Received opening start installment.walletId s' := by
  obtain ⟨wallet, found, credit, balance⟩ := before
  -- The source is an asset and this wallet is not, so the payment leaves another wallet.
  have apart : source.id ≠ installment.walletId := by
    intro same
    obtain ⟨_, rfl, own⟩ := made.held
    have here := (Store.ownWallet_eq_some.mp own).1
    obtain rfl : source = wallet := Option.some.inj ((same ▸ here).symm.trans found)
    exact WalletType.isCredit_not_asset credit made.asset
  -- The transfer adds its amount to the wallet of the instalment.
  have named : wallet.id = installment.walletId := Table.key_of_find? found
  have moved : WalletDelta.on (plainDeltas row.type row.amount row.walletId row.toWalletId)
      installment.walletId = row.amount := by
    have shape := made.shape
    rw [shape]
    simp [paymentRow, plainDeltas, apart]
  refine ⟨{ wallet with balance := wallet.balance + row.amount }, ?_, credit, ?_⟩
  -- The wallet is found with what it has received.
  · rw [made.after]
    simp [Store.credit, found, named, moved]
  -- And the new row is the last of those that were received.
  · rw [made.amounts later, List.sum_append, List.sum_singleton, ← add_assoc, ← balance]

/-- No payment of a settled instalment is accepted, and a refused one changes nothing. -/
theorem payInstallment_settled {zone : Zone} {s : Store} {installmentId : Id} {attempt : Call}
    (paying : pays installmentId attempt) {installment : Installment}
    (found : s.installments.find? installmentId = some installment)
    (settled : installment.status = .settled) :
    ∃ failure, serve zone s attempt = (.error failure, s) := by
  obtain ⟨now, request⟩ := attempt
  obtain ⟨input, rfl, rfl⟩ := pays_iff.mp paying
  simp only [serve, handle, payInstallment]
  -- The date of the payment is read first.
  cases TransactionService.businessDate input.date zone now with
  | error failure => exact ⟨failure, rfl⟩
  | ok date =>
    -- An instalment of someone else is not found.
    cases own : s.ownInstallment input.installmentId input.userId with
    | none =>
      refine ⟨.service "Cicilan tidak ditemukan" 404 "NOT_FOUND", ?_⟩
      simp [Prog.ofExcept, query, orThrow, run, own]
    | some read =>
      -- The instalment that the request reads is the settled one.
      have here := (Store.ownInstallment_eq_some.mp own).1
      obtain rfl : installment = read := Option.some.inj (found.symm.trans here)
      refine ⟨.service "Cicilan tidak aktif" 409 "CONFLICT", ?_⟩
      simp [Prog.ofExcept, query, orThrow, throwIf, run, own, settled]

/-- What payments of an instalment keep: they are its terms, and its wallet has received them. -/
structure Repaying (opening : Decimal) (start : Id) (installment : Installment) (s : Store) : Prop where
  terms : TermsPaid start installment.id s
  frozen : ∀ row, s.installments.find? installment.id = some row → installment.Frozen row
  received : Received opening start installment.walletId s

/-- A payment, accepted or refused, keeps what payments keep. -/
theorem Commit.repaying {zone : Zone} {call : Call} {seen : List Store} {s s' : Store}
    {opening : Decimal} {start : Id} {installment : Installment} (paying : pays installment.id call)
    (commit : Commit Eq zone call seen s s') (before : Repaying opening start installment s) :
    Repaying opening start installment s' := by
  have numbered := before.terms.numbered
  have later := commit.numbered numbered
  have evolves := commit.evolves
  obtain ⟨input, asked, same⟩ := pays_iff.mp paying
  -- A payment of the instalment is the only commit that its request makes.
  cases commit with
  | @installmentPaid _ read _ _ _ _ _ _ named made =>
    obtain rfl := Request.payInstallment.inj (asked.symm.trans named)
    obtain ⟨s₁, -, rfl, own⟩ := made.read
    have here := (Store.ownInstallment_eq_some.mp own).1
    have onWallet : read.walletId = installment.walletId := (before.frozen read (same ▸ here)).2.1
    refine ⟨?_, fun row found => ?_, ?_⟩
    · -- Alone, the request has read the row that it writes.
      have terms := before.terms
      rw [← same] at terms ⊢
      refine made.termsPaid .alone later (fun stored found => ?_) terms
      rw [Option.some.inj (found.symm.trans here)]
    -- The plan is frozen, whoever has paid.
    · obtain ⟨row₁, there, kept⟩ :=
        evolves.installments.find? (numbered.installments.find? (same ▸ here)) found
      exact (before.frozen row₁ there).trans kept
    -- The wallet has received the payment.
    · have received := before.received
      rw [← onWallet] at received ⊢
      exact made.received before.terms.later received
  | _ named => simp [asked] at named

/-- A purchase starts with the full debt on its wallet and nothing paid. -/
theorem CreditCreated.repaying {zone : Zone} {now : Instant} {s s' : Store}
    {input : CreateTransactionInput} {principal rate : Decimal} {months : Int} {mode : BillKind}
    {plan : InstallmentPlan} {date nextDueDate : Instant} {wallet : Wallet}
    {installment : Installment} {row : Transaction} {installments : Table Installment}
    {rows : Table Transaction} (numbered : s'.Numbered)
    (made : CreditCreated Eq zone now input principal rate months mode plan date nextDueDate wallet
      installment row installments rows s s') :
    Repaying (wallet.balance - installment.grandTotal) s'.nextId installment s' := by
  -- The new instalment is found, nothing of it is paid, and its wallet owes all of it.
  have found := made.found
  have unpaid : installment.paidTerms = 0 := congrArg Installment.paidTerms made.backing
  have terms := TermsPaid.start numbered found made.isPlanned made.isTracked unpaid
  refine ⟨terms, fun row same => ?_, ?_⟩
  · rw [Option.some.inj (same.symm.trans found)]
    exact .refl installment
  · have onWallet : installment.walletId = wallet.id := congrArg Installment.walletId made.backing
    have total : installment.grandTotal = plan.grandTotal :=
      congrArg Installment.grandTotal made.backing
    obtain ⟨s₁, rfl, own⟩ := made.source
    -- The wallet of the purchase is debited by the total.
    have here := (Store.ownWallet_eq_some.mp own).1
    refine ⟨{ wallet with balance := wallet.balance - installment.grandTotal }, ?_, made.credit, ?_⟩
    · rw [onWallet, total, made.after]
      simp [Store.credit, here, sub_eq_add_neg]
    -- No payment has been booked yet.
    · rw [amountsSince_next numbered, List.sum_nil, add_zero]

/-- A creation that reports an instalment's transaction has made a credit purchase. -/
theorem createTransaction_credit {zone : Zone} {s : Store} {now : Instant}
    {input : CreateTransactionInput} {row : Transaction} (numbered : s.Numbered)
    (posted : reported (serve zone s { now, request := .createTransaction input }).1 = some row)
    (credit : row.isInstallment) :
    ∃ principal rate months mode plan date nextDueDate wallet installment installments rows,
      CreditCreated Eq zone now input principal rate months mode plan date nextDueDate wallet
        installment row installments rows s
        (serve zone s { now, request := .createTransaction input }).2 := by
  obtain ⟨seen, posting⟩ := serve_posting numbered posted
  -- A regular transaction is no instalment, so the purchase was made on credit.
  cases posting with
  | regular asked made =>
    have regular : row.isInstallment = false := congrArg Transaction.isInstallment made.shape
    simp [regular] at credit
  | credit asked made =>
    obtain rfl := Request.createTransaction.inj asked
    exact ⟨_, _, _, _, _, _, _, _, _, _, _, made⟩
  | _ asked => cases asked

/--
After a credit purchase over some months and any payments attempted of it, one at a time, its
progress columns agree, the accepted payments are its paid terms and come to what these cost, the
purchase and its payments have moved its wallet by what is still owed, and once it is settled no
payment is accepted.
-/
theorem createTransaction_lifecycle {zone : Zone} {s : Store} (reached : Reachable zone s)
    {now : Instant} {input : CreateTransactionInput} {bought : Transaction}
    (accepted : reported (serve zone s { now, request := .createTransaction input }).1 = some bought)
    (credit : bought.isInstallment) {installmentId : Id}
    (named : bought.installmentId = some installmentId) {attempts : List Call}
    (paying : ∀ attempt ∈ attempts, pays installmentId attempt) :
    let purchased := (serve zone s { now, request := .createTransaction input }).2
    let s' := serveAll zone purchased attempts
    let paid := amountsSince purchased.nextId s'
    ∃ months row before after,
      TransactionService.resolveMonths input = some months ∧
      s'.installments.find? installmentId = some row ∧ row.installmentMonths = months ∧
      (0 ≤ row.paidTerms ∧ row.paidTerms ≤ months) ∧
      (row.status = .settled ↔ row.paidTerms = months) ∧
      row.currentTerm = min (row.paidTerms + 1) months ∧
      (paid.length : Int) = row.paidTerms ∧
      (row.paidTerms < months → paid.sum = row.paidTerms * row.monthlyAmount) ∧
      (row.paidTerms = months → paid.sum = row.grandTotal) ∧
      s.wallets.find? bought.walletId = some before ∧
      s'.wallets.find? bought.walletId = some after ∧
      after.balance - before.balance = -(row.grandTotal - paid.sum) ∧
      (row.status = .settled → after.balance = before.balance) ∧
      (row.status = .settled → ∀ attempt, pays installmentId attempt →
        ∃ failure, serve zone s' attempt = (.error failure, s')) := by
  intro purchased s' paid
  obtain ⟨principal, rate, months, mode, plan, date, nextDueDate, wallet, installment, installments,
    rows, made⟩ := createTransaction_credit reached.numbered accepted credit
  have numbered : purchased.Numbered := (reached.step _).numbered
  -- The transaction names the instalment that was made with it, on the same wallet.
  obtain rfl : installment.id = installmentId := Option.some.inj (made.names.symm.trans named)
  have onWallet : bought.walletId = installment.walletId :=
    (congrArg Transaction.walletId made.shape).trans
      (congrArg Installment.walletId made.backing).symm
  -- The wallet of the purchase is the user's, in the store before it.
  have source : s.wallets.find? installment.walletId = some wallet := by
    obtain ⟨_, rfl, own⟩ := made.source
    have bought : installment.walletId = wallet.id := congrArg Installment.walletId made.backing
    rw [bought]
    exact (Store.ownWallet_eq_some.mp own).1
  have term : installment.installmentMonths = months :=
    congrArg Installment.installmentMonths made.backing
  -- What holds of the purchase is kept by every attempt.
  have kept : Repaying (wallet.balance - installment.grandTotal) purchased.nextId installment s' :=
    runMeets_preserves (fun _ held => held.terms.numbered)
      (fun _ _ _ _ _ pays _ held commit => commit.repaying pays held)
      (runMeets_kind paying purchased) (made.repaying numbered)
  -- The run has paid some terms, each with the amount that was due.
  obtain ⟨row, found, repaid⟩ := kept.terms.paid
  obtain ⟨after, there, -, balance⟩ := kept.received
  obtain ⟨-, -, total, -, sameTerm⟩ := kept.frozen row found
  rw [term] at sameTerm
  obtain ⟨unpaid, bounded, settled, current⟩ := repaid.tracked
  have ongoing := repaid.ongoing
  have finished := repaid.finished
  rw [sameTerm] at bounded settled current ongoing finished
  -- The wallet lacks what has not been paid.
  have moved : after.balance - wallet.balance = -(row.grandTotal - paid.sum) := by
    rw [balance, total]
    ring
  rw [onWallet]
  refine ⟨months, row, wallet, after, made.term.1, found, sameTerm, ⟨unpaid, bounded⟩, settled,
    current, repaid.count, ongoing, finished, source, there, moved, fun isSettled => ?_,
    fun isSettled attempt pays => payInstallment_settled pays found isSettled⟩
  -- A settled instalment has been paid the whole grand total.
  have whole : paid.sum = row.grandTotal := finished (settled.mp isSettled)
  rw [whole, sub_self, neg_zero, sub_eq_zero] at moved
  exact moved

/-- A user's store before the purchase. -/
def onboarded : Store :=
  serveAll defaultTimezone.zone .empty (onboarding 1 1000 5000)

/-- The store after the purchase and three payments of it. -/
def repaid : Store :=
  serveAll defaultTimezone.zone (serve defaultTimezone.zone onboarded purchase).2
    [payment, payment, payment]

/-- Three payments settle the purchase of 300 over three months, and a fourth is refused. -/
theorem createTransaction_lifecycle_three :
    amountsSince 16 repaid = [100, 100, 100] ∧
      ∃ failure, serve defaultTimezone.zone repaid payment = (.error failure, repaid) := by
  have reached : Reachable defaultTimezone.zone onboarded := ⟨onboarding 1 1000 5000, rfl⟩
  -- The purchase and the status after three payments are evaluated, and the theorem refuses a fourth.
  have reply : (reported (serve defaultTimezone.zone onboarded purchase).1).any (fun row =>
      row.isInstallment && row.installmentId = some 14) := by
    decide +kernel
  have settled : (repaid.installments.find? 14).map Installment.status = some .settled := by
    decide +kernel
  refine ⟨by decide +kernel, ?_⟩
  -- The purchase answers with the instalment.
  obtain ⟨bought, accepted, named⟩ := (Option.any_eq_true _ _).mp reply
  obtain ⟨credit, named⟩ := by simpa using named
  -- Each of the three attempts pays it.
  have paying : ∀ attempt ∈ [payment, payment, payment], pays 14 attempt := by
    simp [payment, pays]
  obtain ⟨_, row, _, _, -, found, -, -, -, -, -, -, -, -, -, -, -, refused⟩ :=
    createTransaction_lifecycle reached accepted credit named paying
  have here : repaid.installments.find? 14 = some row := found
  have status : row.status = .settled := by simpa [here] using settled
  exact refused status payment (by simp [payment, pays])

end PocketMint
