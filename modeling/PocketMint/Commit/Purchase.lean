import PocketMint.Commit.Transaction
import PocketMint.Program.Atomic

/-! What an accepted credit purchase was computed from. -/

namespace PocketMint

open Prog TransactionService

/-! The parts of a creation before its write only read. -/

theorem reads_resolveWalletId (input : CreateTransactionInput) : (resolveWalletId input).Reads := by
  unfold resolveWalletId
  -- A wallet that is named costs no read.
  split
  · exact reads_ret _
  · exact (reads_query _).bind fun _ => (reads_orThrow _ _).bind fun _ => reads_ret _

theorem reads_verifyCategory (userId : Id) (categoryId : Option Id) (type : FinancialTxType) :
    (verifyCategory userId categoryId type).Reads := by
  unfold verifyCategory
  -- Without a category nothing is read.
  split
  · exact reads_ret _
  · exact (reads_query _).bind fun _ => (reads_orThrow _ _).bind fun _ => reads_throwIf _ _

theorem reads_verifyDestination (userId : Id) (toWalletId : Option Id) (type : FinancialTxType) :
    (verifyDestination userId toWalletId type).Reads := by
  unfold verifyDestination
  -- Only a transfer reads its destination.
  split
  · exact (reads_query _).bind fun _ => (reads_orThrow _ _).bind fun _ => reads_ret _
  · exact reads_ret _

/-- The wallet that a creation resolves is the one it is for. -/
theorem resolveWalletId_target {input : CreateTransactionInput} {s s' : Store} {walletId : Id}
    (resolved : (resolveWalletId input).run s = (.ok walletId, s')) :
    targetWallet input s = some walletId := by
  unfold resolveWalletId at resolved
  -- A wallet that is named is the target, and otherwise the first of the user is read.
  split at resolved
  · rename_i id named
    simp only [pure_eq, run, Prod.mk.injEq, Except.ok.injEq] at resolved
    -- The answer is the wallet that was named.
    simp [targetWallet, named, resolved.1]
  · rename_i unnamed
    rw [run_query_bind] at resolved
    rcases run_orThrow_bind.mp resolved with ⟨wallet, found, last⟩
    simp only [pure_eq, run, Prod.mk.injEq, Except.ok.injEq] at last
    -- The answer is the wallet that was found.
    simp [targetWallet, unnamed, found, last.1]

/-- What the amounts and the first due date of a credit purchase are computed from. -/
structure Financed (zone : Zone) (now : Instant) (input : CreateTransactionInput) (wallet : Wallet)
    (principal rate : Decimal) (months : Int) (date due : Instant) : Prop where
  amount : positiveAmount input.amount = some (.finite principal)
  rate : resolveInterestRate input = .finite rate
  months : resolveMonths input = some months
  dated : businessDate input.date zone now = .ok date
  due : ∃ text, resolveFirstDueDate zone input wallet date = .ok text ∧
    businessDate (some text) zone now = .ok due

/-- A commit that answers is a body that does. -/
theorem run_commit_eq_ok {α : Type} {rethrow : Failure → Failure} {body : Tx α} {s s' : Store} {value : α} :
    (commit rethrow body).run s = (.ok value, s') ↔ body s = .ok (value, s') := by
  cases done : body s with
  | error error => simp [commit, transact, run, done, Except.mapError]
  | ok result => simp [commit, transact, run, done, Except.mapError, Prod.ext_iff]

/-- A credit purchase that is accepted writes the plan of what it was sent. -/
theorem createTransaction_financed {zone : Zone} {now : Instant}
    {input : CreateTransactionInput} {s s' : Store}
    {answer : TransactionWithRelations} (ran : (createTransaction zone now input).run s = (.ok answer, s'))
    (credit : answer.transaction.isInstallment) :
    ∃ principal rate months mode plan wallet date due,
      Financed zone now input wallet principal rate months date due ∧
      targetWallet input s = some wallet.id ∧ s.ownWallet wallet.id input.userId = some wallet ∧
      wallet.type.isCredit ∧
      computeInstallmentPlan { principal, interestRatePctPerMonth := rate, months } = .ok plan ∧
      writeCredit now input wallet.id date mode months rate plan due s = .ok (answer, s') := by
  unfold createTransaction at ran
  -- The checks pass in the order of the source, and none of them writes.
  rcases (reads_resolveWalletId input).run_bind.mp ran with ⟨walletId, resolved, ran⟩
  rcases run_orThrow_bind.mp ran with ⟨type, typed, ran⟩
  rcases run_orThrow_bind.mp ran with ⟨amount, given, ran⟩
  rcases run_throwIf_bind.mp ran with ⟨_, ran⟩
  rcases run_throwIf_bind.mp ran with ⟨_, ran⟩
  rcases run_ofExcept_bind.mp ran with ⟨date, dated, ran⟩
  rw [run_query_bind] at ran
  rcases run_orThrow_bind.mp ran with ⟨wallet, held, ran⟩
  rcases run_throwIf_bind.mp ran with ⟨_, ran⟩
  rcases run_throwIf_bind.mp ran with ⟨_, ran⟩
  rcases (reads_verifyDestination _ _ _).run_bind.mp ran with ⟨_, _, ran⟩
  rcases run_throwIf_bind.mp ran with ⟨_, ran⟩
  rcases run_throwIf_bind.mp ran with ⟨_, ran⟩
  rcases (reads_verifyCategory _ _ _).run_bind.mp ran with ⟨_, _, ran⟩
  rcases run_throwIf_bind.mp ran with ⟨_, ran⟩
  rcases run_throwIf_bind.mp ran with ⟨_, ran⟩
  rcases run_throwIf_bind.mp ran with ⟨_, ran⟩
  -- The wallet that was read is the one that was resolved.
  have own : wallet.id = walletId := Table.key_of_find? (Store.ownWallet_eq_some.mp held).1
  split at ran
  · rename_i onCredit
    -- On a credit wallet the purchase needs a term, a rate, a plan and a first due date.
    unfold createCredit at ran
    rcases run_orThrow_bind.mp ran with ⟨months, term, ran⟩
    rcases run_throwIf_bind.mp ran with ⟨_, ran⟩
    rcases run_throwIf_bind.mp ran with ⟨_, ran⟩
    rcases run_throwIf_bind.mp ran with ⟨_, ran⟩
    rcases run_ofExcept_bind.mp ran with ⟨planned, planning, ran⟩
    rcases run_ofExcept_bind.mp ran with ⟨text, first, ran⟩
    rcases run_ofExcept_bind.mp ran with ⟨due, parsed, ran⟩
    rcases run_throwIf_bind.mp ran with ⟨_, ran⟩
    rcases run_orThrow_bind.mp ran with ⟨mode, moded, ran⟩
    rcases run_ofExcept_bind.mp ran with ⟨rate, rated, ran⟩
    rcases run_orThrow_bind.mp ran with ⟨plan, same, ran⟩
    have written := run_commit_eq_ok.mp ran
    subst same
    have charged := columnValue_ok.mp rated
    -- Only a finite amount at a finite rate has a plan.
    rw [charged] at planning
    cases amount with
    | finite principal =>
      have computed : computeInstallmentPlan
          { principal, interestRatePctPerMonth := rate, months } = .ok plan := by
        cases result : computeInstallmentPlan { principal, interestRatePctPerMonth := rate, months } with
        | error message => simp [creditPlan, result] at planning
        | ok other => simpa [creditPlan, result] using planning
      exact ⟨principal, rate, months, mode, plan, wallet, date, due,
        ⟨given, charged, term, dated, text, first, parsed⟩, own ▸ resolveWalletId_target resolved,
        own ▸ held, onCredit.2, computed, own ▸ written⟩
    | _ => simp [creditPlan] at planning
  · -- A regular row is no instalment's.
    -- It would have been answered as it was written, without an instalment.
    rcases run_ofExcept_bind.mp ran with ⟨value, _, ran⟩
    have written := run_commit_eq_ok.mp ran
    rcases writeRegular_ok written with ⟨row, rows, shape, _, _, answered, _⟩
    rw [answered, shape] at credit
    cases credit

end PocketMint
