import PocketMint.Invariant.Planned
import PocketMint.Proofs.Ledger

/-! Payments of an instalment are its paid terms, as long as no payment read a term that was since paid. -/

namespace PocketMint

open Prog InstallmentPaymentService

/-- Whether a call pays a term of an instalment, for whichever user. -/
def pays (installmentId : Id) (call : Call) : Bool :=
  match call.request with
  | .payInstallment input => input.installmentId = installmentId
  | _ => false

theorem pays_iff {installmentId : Id} {call : Call} :
    pays installmentId call ↔
      ∃ input, call.request = .payInstallment input ∧ input.installmentId = installmentId := by
  obtain ⟨now, request⟩ := call
  cases request <;> simp [pays]

/-- The amounts of the transactions inserted from an identifier on. -/
def amountsSince (start : Id) (s : Store) : List Decimal :=
  (s.transactions.rows.filter fun row => start ≤ row.id).map Transaction.amount

/-- Payments that were each made for the next term, in turn. -/
structure Installment.Repaid (row : Installment) (payments : List Decimal) : Prop where
  planned : row.Planned
  tracked : row.Tracked
  count : (payments.length : Int) = row.paidTerms
  ongoing : row.paidTerms < row.installmentMonths →
    payments.sum = row.paidTerms * row.monthlyAmount
  finished : row.paidTerms = row.installmentMonths → payments.sum = row.grandTotal

namespace Installment

/-- Before the first payment nothing is repaid. -/
theorem Repaid.start {row : Installment} (planned : row.Planned) (tracked : row.Tracked)
    (unpaid : row.paidTerms = 0) : row.Repaid [] := by
  have started := planned.started
  refine ⟨planned, tracked, unpaid.symm, fun _ => ?_, fun finished => ?_⟩
  · simp [unpaid]
  · omega

/-- Paying the next term for what it comes to repays one term more. -/
theorem Repaid.advance {row : Installment} {payments : List Decimal} (repaid : row.Repaid payments)
    (unpaid : row.paidTerms < row.installmentMonths) (due : Instant) :
    (advanced row due row).Repaid (payments ++ [expectedAmount row]) := by
  -- So far every payment was the monthly amount, and there were as many as paid terms.
  have paid := repaid.ongoing unpaid
  have count := repaid.count
  constructor
  · exact repaid.planned.advance row due
  · exact repaid.tracked.advance unpaid due
  · simp only [List.length_append, List.length_singleton, Nat.cast_add, Nat.cast_one, count]
    rfl
  · -- Another term is left, so this one is not the last and comes to the monthly amount.
    intro left
    have more : row.paidTerms + 1 < row.installmentMonths := left
    have notFinal : isFinalTerm row = false := by simp [isFinalTerm, more]
    rw [List.sum_append, List.sum_singleton, paid, expectedAmount, notFinal]
    simp only [advanced]
    push_cast
    ring
  · -- The last term makes up for what rounding the ones before it left behind.
    intro last
    have none_ : row.paidTerms + 1 = row.installmentMonths := last
    have final : isFinalTerm row := by simp [isFinalTerm, none_]
    have terms : (row.installmentMonths : ℚ) = row.paidTerms + 1 := by exact_mod_cast none_.symm
    rw [List.sum_append, List.sum_singleton, paid, repaid.planned.final final, terms]
    simp only [advanced]
    ring

/-- Payments never come to more than the grand total, unless the terms before the last already do. -/
theorem Repaid.within {row : Installment} {payments : List Decimal} (repaid : row.Repaid payments)
    (fits : row.monthlyAmount * (row.installmentMonths - 1) ≤ row.grandTotal) :
    payments.sum ≤ row.grandTotal := by
  rcases lt_or_eq_of_le repaid.tracked.bounded with left | finished
  · have before : (row.paidTerms : ℚ) ≤ row.installmentMonths - 1 := by
      have : row.paidTerms ≤ row.installmentMonths - 1 := by omega
      exact_mod_cast this
    rw [repaid.ongoing left, mul_comm]
    exact (mul_le_mul_of_nonneg_left before repaid.planned.share).trans fits
  · exact (repaid.finished finished).le

end Installment

/-- The amount of the next term depends on what payments do not change, and on the paid terms. -/
theorem expectedAmount_congr {row row' : Installment} (frozen : row.Frozen row')
    (terms : row'.paidTerms = row.paidTerms) : expectedAmount row' = expectedAmount row := by
  obtain ⟨-, -, grandTotal, monthlyAmount, months⟩ := frozen
  rw [expectedAmount, expectedAmount, isFinalTerm, isFinalTerm, grandTotal, monthlyAmount, months, terms]

/-- So does what a payment makes of the row it is written to. -/
theorem advanced_congr {row row' : Installment} (frozen : row.Frozen row')
    (terms : row'.paidTerms = row.paidTerms) (due : Instant) :
    advanced row due row' = advanced row' due row' := by
  obtain ⟨-, -, -, -, months⟩ := frozen
  rw [advanced, advanced, isFinalTerm, isFinalTerm, months, terms]

/-- The transactions since the start are payments of the terms of an instalment, in turn. -/
structure TermsPaid (start installmentId : Id) (s : Store) : Prop where
  numbered : s.Numbered
  later : start ≤ s.nextId
  paid : ∃ row, s.installments.find? installmentId = some row ∧ row.Repaid (amountsSince start s)

/-- Identifiers come from a counter, so none that is not yet drawn has a transaction. -/
theorem amountsSince_next {s : Store} (numbered : s.Numbered) : amountsSince s.nextId s = [] := by
  have old : s.transactions.rows.filter (fun row => s.nextId ≤ row.id) = [] := by
    rw [List.filter_eq_nil_iff]
    intro row member
    have below : row.id < s.nextId := numbered.transactions row member
    simpa using below
  rw [amountsSince, old, List.map_nil]

/-- Before the first payment nothing is paid. -/
theorem TermsPaid.start {s : Store} (numbered : s.Numbered) {installment : Installment}
    (found : s.installments.find? installment.id = some installment) (planned : installment.Planned)
    (tracked : installment.Tracked) (unpaid : installment.paidTerms = 0) :
    TermsPaid s.nextId installment.id s := by
  refine ⟨numbered, Nat.le_refl _, installment, found, ?_⟩
  rw [amountsSince_next numbered]
  exact .start planned tracked unpaid

/-- A payment adds its amount to those made since the start. -/
theorem InstallmentPaid.amounts {between : Store → Store → Prop} {zone : Zone} {now : Instant}
    {seen : List Store} {s s' : Store} {input : PayInstallmentInput} {installment : Installment}
    {walletName : String} {source : Wallet} {date due : Instant} {row : Transaction}
    {rows : Table Transaction} {start : Id} (later : start ≤ s.nextId)
    (made : InstallmentPaid between zone now seen input installment walletName source date due row
      rows s s') : amountsSince start s' = amountsSince start s ++ [row.amount] := by
  -- The new row has the next identifier, so it is counted.
  have id : row.id = s.nextId := congrArg Transaction.id made.shape
  have new : start ≤ row.id := id ▸ later
  rw [made.after]
  simp [amountsSince, Store.credit, (Table.insert?_eq_some_iff.mp made.inserted).2,
    List.filter_append, new]

/-- A payment that meets the term it read keeps payments and paid terms equal. -/
theorem InstallmentPaid.termsPaid {between : Store → Store → Prop} (reading : Reading between)
    {zone : Zone} {now : Instant} {seen : List Store} {s s' : Store} {input : PayInstallmentInput}
    {installment : Installment} {walletName : String} {source : Wallet} {date due : Instant}
    {row : Transaction} {rows : Table Transaction} {start : Id}
    (made : InstallmentPaid between zone now seen input installment walletName source date due row
      rows s s') (numbered : s'.Numbered)
    (undisturbed : ∀ stored ∈ s.installments.find? input.installmentId,
      stored.paidTerms = installment.paidTerms)
    (before : TermsPaid start input.installmentId s) : TermsPaid start input.installmentId s' := by
  obtain ⟨stored, found, repaid⟩ := before.paid
  obtain ⟨s₁, first, moved, own⟩ := made.read
  have here := (Store.ownInstallment_eq_some.mp own).1
  -- The instalment that is written to has the columns the request computed from.
  obtain ⟨frozen, -⟩ := Store.ownInstallment_later reading before.numbered moved own found
  have terms : stored.paidTerms = installment.paidTerms := undisturbed stored found
  have unpaid : stored.paidTerms < stored.installmentMonths := by
    rw [terms, frozen.2.2.2.2]
    exact made.unpaid
  -- What was paid is the amount expected from the stored row.
  have amount : row.amount = expectedAmount stored := by
    rw [expectedAmount_congr frozen terms]
    exact congrArg Transaction.amount made.shape
  -- The stored row is advanced by one term.
  have written : s'.installments.find? input.installmentId = some (advanced stored due stored) := by
    have key : installment.id = input.installmentId := Table.key_of_find? here
    rw [made.after, ← advanced_congr frozen terms due]
    simp [Store.credit, key, found]
  refine ⟨numbered, ?_, _, written, ?_⟩
  · rw [made.after]
    exact Nat.le_succ_of_le before.later
  -- The payments since the start grow by this one.
  · rw [made.amounts before.later, amount]
    exact repaid.advance unpaid due

/--
What a payment needs of the instalment its write meets: no term was paid since the request read it.
-/
def TermDue (installmentId : Id) (seen : List Store) (s : Store) : Prop :=
  ∀ row ∈ s.installments.find? installmentId, ∀ s₁ ∈ seen.head?,
    ∀ read ∈ s₁.installments.find? installmentId, row.paidTerms = read.paidTerms

instance (installmentId : Id) (seen : List Store) (s : Store) :
    Decidable (TermDue installmentId seen s) := by
  unfold TermDue
  infer_instance

section Interleaved

variable (zone : Zone) (start installmentId : Id)

/-- Payments of one instalment interleave over stores whose payments are its paid terms. -/
def payments : Discipline (handle zone) fun thread s =>
    pays installmentId thread.request ∧ TermDue installmentId thread.seen s :=
  interleaving zone _ (TermsPaid start installmentId) (by
    intro call seen s s' kept due commit
    obtain ⟨payment, termDue⟩ : pays installmentId call ∧ TermDue installmentId seen s := due
    obtain ⟨input, asked, rfl⟩ := pays_iff.mp payment
    have numbered := commit.numbered kept.numbered
    cases commit with
    | installmentPaid named made =>
      obtain rfl := Request.payInstallment.inj (asked.symm.trans named)
      refine made.termsPaid (.within fun _ kept => kept.numbered) numbered ?_ kept
      intro stored found
      obtain ⟨s₁, first, -, own⟩ := made.read
      exact termDue stored found s₁ first _ (Store.ownInstallment_eq_some.mp own).1
    | _ named => simp [asked] at named)

variable {zone installmentId}

/--
However payments of an unpaid instalment interleave, after every step the transactions made since
are as many as its paid terms and add up to no more than its grand total, as long as every payment
meets the term it read and the terms before the last come to no more than the grand total.
-/
theorem payInstallment_no_double {s : Store} (reached : Reachable zone s)
    {installment : Installment} (found : s.installments.find? installmentId = some installment)
    (unpaid : installment.paidTerms = 0)
    (fits : installment.monthlyAmount * (installment.installmentMonths - 1) ≤ installment.grandTotal)
    {calls : List Call} (paying : ∀ call ∈ calls, pays installmentId call) (schedule : List Nat)
    (meets : (Pool.start s calls).Meets (handle zone)
      (fun thread s => TermDue installmentId thread.seen s) schedule) :
    ∀ earlier later, schedule = earlier ++ later →
      let s' := (interleave zone s calls earlier).store
      ∃ row, s'.installments.find? installmentId = some row ∧
        ((amountsSince s.nextId s').length : Int) = row.paidTerms ∧
        (amountsSince s.nextId s').sum ≤ row.grandTotal := by
  intro earlier later split
  subst split
  obtain rfl : installment.id = installmentId := Table.key_of_find? found
  -- At the start the plan is sound and nothing is paid.
  have member := Table.mem_of_find? found
  obtain ⟨planned, tracked⟩ := reached.planned
  have kept : TermsPaid s.nextId installment.id s :=
    .start reached.numbered found (planned _ member) (tracked _ member) unpaid
  have good : (payments zone s.nextId installment.id).Good (Pool.start s calls) :=
    interleaving_start (fun _ kept => kept.numbered) kept calls
  -- Every request of the pool pays the instalment.
  have requests : ∀ call ∈ (Pool.start s calls).threads.map Thread.request,
      pays installment.id call := by
    simpa [Pool.start] using paying
  obtain ⟨-, last, evolves⟩ :=
    interleaving_exec good kept earlier (meets.earlier.and (handle zone) requests)
  obtain ⟨row, here, repaid⟩ := last.paid
  refine ⟨row, here, repaid.count, repaid.within ?_⟩
  -- The plan is the one the instalment had at the start.
  have frozen := evolves.installments.frozen reached.numbered.installments found here
  rw [frozen.2.2.1, frozen.2.2.2.1, frozen.2.2.2.2]
  exact fits

end Interleaved

/-- A purchase of 300 on the card over three months. -/
def purchase : Call :=
  { now := 0, request := .createTransaction
      { userId := 1, type := some .expense, amount := some (.exact 300), walletId := .given 13,
        categoryId := .given 0, isInstallment := true, installmentMonths := some (.finite 3),
        firstDueDate := some "1970-02-01" } }

/-- The calls up to the purchase, which is instalment 14. -/
def bought : List Call :=
  onboarding 1 1000 5000 ++ [purchase]

/-- A payment of the next term from the bank account. -/
def payment : Call :=
  { now := 1, request := .payInstallment
      { userId := 1, installmentId := 14, sourceWalletId := .given 12 } }

/-- Two payments that take turns, the second reading once the first has committed. -/
theorem payInstallment_no_double_turns :
    let s := serveAll defaultTimezone.zone .empty bought
    let s' := (interleave defaultTimezone.zone s [payment, payment] [0, 0, 0, 1, 1, 1]).store
    amountsSince s.nextId s' = [100, 100] ∧
      ∃ row, s'.installments.find? 14 = some row ∧
        ((amountsSince s.nextId s').length : Int) = row.paidTerms ∧
        (amountsSince s.nextId s').sum ≤ row.grandTotal := by
  intro s s'
  have reached : Reachable defaultTimezone.zone s := ⟨bought, rfl⟩
  obtain ⟨installment, found, unpaid, fits⟩ : ∃ installment,
      s.installments.find? 14 = some installment ∧ installment.paidTerms = 0 ∧
      installment.monthlyAmount * (installment.installmentMonths - 1) ≤ installment.grandTotal := by
    refine ⟨(s.installments.find? 14).get (by decide +kernel), by simp, ?_, ?_⟩ <;> decide +kernel
  -- The two payments take turns, so each finds its term due.
  have passes : (Pool.start s [payment, payment]).Passes (handle defaultTimezone.zone)
      (fun thread s => TermDue 14 thread.seen s) [0, 0, 0, 1, 1, 1] := by
    decide +kernel
  refine ⟨by decide +kernel, ?_⟩
  exact payInstallment_no_double reached found unpaid fits (by simp [payment, pays])
    [0, 0, 0, 1, 1, 1] passes.meets [0, 0, 0, 1, 1, 1] [] rfl

/-- Two payments that both read the first term before either commits pay it twice. -/
theorem payInstallment_double :
    let s := serveAll defaultTimezone.zone .empty bought
    let s' := (interleave defaultTimezone.zone s [payment, payment] [0, 1, 0, 1, 0, 1]).store
    amountsSince s.nextId s' = [100, 100] ∧
      (s'.installments.find? 14).map Installment.paidTerms = some 1 := by
  decide +kernel

end PocketMint
