import PocketMint.Commit.Runs
import PocketMint.Domain.InstallmentLaws

/-! Every instalment of a reachable store follows a plan whose terms add up to its grand total. -/

namespace PocketMint

open Prog InstallmentPaymentService

open Decimal (AtScale)

/-- An instalment has a plan: a term, and amounts that its columns hold exactly. -/
structure Installment.Planned (row : Installment) : Prop where
  started : 1 ≤ row.installmentMonths
  ended : row.installmentMonths ≤ 120
  fits : row.Fits
  total : AtScale row.grandTotal
  monthly : AtScale row.monthlyAmount
  owed : 0 ≤ row.grandTotal
  share : 0 ≤ row.monthlyAmount

namespace Installment

/-- A row as it was, or one term on from what a payment had read of it. -/
def Continued (between : Store → Store → Prop) (s : Store) (row row' : Installment) : Prop :=
  row' = row ∨ ∃ installment due,
    Before between (fun s₁ => s₁.installments.find? row.id = some installment) s ∧
    installment.paidTerms < installment.installmentMonths ∧ row' = advanced installment due row

/-- A payment writes no column of the plan. -/
theorem Planned.advance {row : Installment} (planned : row.Planned) (installment : Installment)
    (due : Instant) : (advanced installment due row).Planned :=
  ⟨planned.started, planned.ended, planned.fits, planned.total, planned.monthly, planned.owed,
    planned.share⟩

/-- A row that is continued keeps its plan. -/
theorem Planned.continued {between : Store → Store → Prop} {s : Store} {row row' : Installment}
    (planned : row.Planned) (continued : row.Continued between s row') : row'.Planned := by
  rcases continued with rfl | ⟨installment, due, -, -, rfl⟩
  · exact planned
  · exact planned.advance installment due

/-- The columns that track how much of an instalment is paid agree with each other. -/
structure Tracked (row : Installment) : Prop where
  unpaid : 0 ≤ row.paidTerms
  bounded : row.paidTerms ≤ row.installmentMonths
  settled : row.status = .settled ↔ row.paidTerms = row.installmentMonths
  current : row.currentTerm = min (row.paidTerms + 1) row.installmentMonths

/-- Paying a term of the row that was read keeps the columns in agreement. -/
theorem Tracked.advance {row : Installment} (tracked : row.Tracked)
    (unpaid : row.paidTerms < row.installmentMonths) (due : Instant) :
    (advanced row due row).Tracked := by
  have started := tracked.unpaid
  constructor
  · exact Int.add_nonneg started (by decide)
  · exact unpaid
  · -- The last term settles the instalment, and any other leaves it active.
    by_cases final : row.installmentMonths ≤ row.paidTerms + 1
    · simp [advanced, isFinalTerm, final]
      omega
    · simp [advanced, isFinalTerm, final]
      omega
  -- Both sides count one more paid term than before.
  · show min (row.paidTerms + 2) row.installmentMonths =
      min (row.paidTerms + 1 + 1) row.installmentMonths
    rw [add_assoc]
    rfl

/-- Where payments read what they write, a continued row's columns stay in agreement. -/
theorem Tracked.continued {s : Store} {row row' : Installment} (tracked : row.Tracked)
    (found : s.installments.find? row.id = some row) (continued : row.Continued Eq s row') :
    row'.Tracked := by
  -- The row is left or advanced, and nothing was written since it was read.
  rcases continued with rfl | ⟨installment, due, ⟨_, rfl, here⟩, unpaid, rfl⟩
  · exact tracked
  · obtain rfl : installment = row := Option.some.inj (here.symm.trans found)
    exact tracked.advance unpaid due

/-- All terms but the last come to an amount that is computed exactly. -/
theorem Planned.bounded {row : Installment} (planned : row.Planned) :
    |row.monthlyAmount * (row.installmentMonths - 1 : ℤ)| < 10 ^ 18 := by
  -- Both factors are bounded, the amount by its column and the terms by their check.
  have monthly : |row.monthlyAmount| < 10 ^ 13 := planned.fits _ (by simp)
  have terms : |((row.installmentMonths - 1 : ℤ) : ℚ)| ≤ 120 := by
    have started : (1 : ℚ) ≤ row.installmentMonths := by exact_mod_cast planned.started
    have ended : (row.installmentMonths : ℚ) ≤ 120 := by exact_mod_cast planned.ended
    push_cast
    rw [abs_le]
    constructor <;> linarith
  rw [abs_mul]
  calc |row.monthlyAmount| * |((row.installmentMonths - 1 : ℤ) : ℚ)|
      ≤ 10 ^ 13 * 120 := mul_le_mul monthly.le terms (abs_nonneg _) (by norm_num)
    _ < 10 ^ 18 := by norm_num

/-- The last term pays what the terms before it leave of the grand total. -/
theorem Planned.final {row : Installment} (planned : row.Planned) (final : isFinalTerm row) :
    expectedAmount row = row.grandTotal - row.monthlyAmount * (row.installmentMonths - 1) := by
  rw [expectedAmount, if_pos final]
  exact computeFinalMonthlyAmount_eq planned.total planned.monthly planned.bounded

end Installment

section Bought

variable {between : Store → Store → Prop} {zone : Zone} {now : Instant} {s s' : Store}
  {input : CreateTransactionInput} {principal rate : Decimal} {months : Int} {mode : BillKind}
  {plan : InstallmentPlan} {date nextDueDate : Instant} {wallet : Wallet} {installment : Installment}
  {row : Transaction} {installments : Table Installment} {rows : Table Transaction}

/-- A credit purchase makes an instalment that follows its plan. -/
theorem CreditCreated.isPlanned
    (made : CreditCreated between zone now input principal rate months mode plan date nextDueDate
      wallet installment row installments rows s s') : installment.Planned := by
  obtain ⟨positive, total, monthly, owed, share⟩ := computeInstallmentPlan_ok made.planned
  -- The number of terms was checked when it was resolved.
  have term : 1 ≤ months ∧ months ≤ 120 := by
    have resolved := made.term.1
    unfold TransactionService.resolveMonths at resolved
    split at resolved
    · -- A purchase that is billed in full has one term.
      obtain rfl := Option.some.inj resolved
      exact ⟨by decide, by decide⟩
    · simpa using (Option.filter_eq_some_iff.mp resolved).2
  have fits := made.fits
  obtain rfl := made.backing
  exact ⟨term.1, term.2, fits, total, monthly, owed, share⟩

/-- A new instalment has nothing paid. -/
theorem CreditCreated.isTracked
    (made : CreditCreated between zone now input principal rate months mode plan date nextDueDate
      wallet installment row installments rows s s') : installment.Tracked := by
  -- A new instalment has paid nothing, and it has a term to pay.
  have started : 1 ≤ installment.installmentMonths := made.isPlanned.started
  obtain rfl := made.backing
  have more : 1 ≤ months := started
  constructor
  · exact Int.le_refl 0
  · show (0 : Int) ≤ months
    omega
  · simp [TransactionService.creditInstallment]
    omega
  · show (1 : Int) = min (0 + 1) months
    omega

end Bought

/-- A purchase of a call that made an instalment. -/
def Bought (between : Store → Store → Prop) (zone : Zone) (call : Call) (s s' : Store)
    (installment : Installment) : Prop :=
  ∃ input principal rate months mode plan date nextDueDate wallet row installments rows,
    CreditCreated between zone call.now input principal rate months mode plan date nextDueDate wallet
      installment row installments rows s s'

/-- After a write every instalment continues an old one, or was just bought. -/
theorem Commit.installments {between : Store → Store → Prop} {zone : Zone} {call : Call}
    {seen : List Store} {s s' : Store} (commit : Commit between zone call seen s s') :
    ∀ row' ∈ s'.installments.rows,
      (∃ row ∈ s.installments.rows, row.Continued between s row') ∨
        Bought between zone call s s' row' := by
  have kept : ∀ row' ∈ s.installments.rows,
      (∃ row ∈ s.installments.rows, row.Continued between s row') ∨
        Bought between zone call s s' row' := fun row' member => .inl ⟨row', member, .inl rfl⟩
  intro row' member
  -- Only a purchase inserts instalments, and only a payment rewrites one.
  cases commit with
  | walletDeleted asked made =>
    rw [made.after] at member
    exact kept row' (List.mem_filter.mp member).1
  | creditCreated asked made =>
    -- An instalment that stays was there before.
    have created := made
    rw [made.after] at member
    rcases (Table.mem_insert made.backed).mp member with old | rfl
    · exact kept row' old
    · exact .inr ⟨_, _, _, _, _, _, _, _, _, _, _, _, created⟩
  | installmentDeleted asked made =>
    -- Only the plan of the row is deleted.
    rw [made.after] at member
    simp only [Store.credit] at member
    split at member
    · exact kept row' (List.mem_filter.mp member).1
    · exact kept row' member
  | @installmentPaid input installment _ _ _ due _ _ asked made =>
    rw [made.after] at member
    rcases Table.mem_update (fun _ => by rfl) member with old | ⟨row, found, rfl⟩
    · exact kept row' old
    · -- The row that is written is the one the request has read, perhaps before other writes.
      obtain ⟨s₁, -, moved, own⟩ := made.read
      have read := (Store.ownInstallment_eq_some.mp own).1
      have named : row.id = input.installmentId :=
        (Table.key_of_find? found).trans (Table.key_of_find? read)
      exact .inl ⟨row, Table.mem_of_find? found, .inr ⟨installment, due, ⟨s₁, moved, named ▸ read⟩,
        made.unpaid, rfl⟩⟩
  | _ _ made =>
    rw [made.after] at member
    exact kept row' member

/-- Every instalment follows its plan. -/
def Store.Planned (s : Store) : Prop := ∀ row ∈ s.installments.rows, row.Planned

theorem Commit.planned {between : Store → Store → Prop} {zone : Zone} {call : Call}
    {seen : List Store} {s s' : Store} (commit : Commit between zone call seen s s')
    (planned : s.Planned) : s'.Planned := by
  intro row' member
  -- A planned row is continued or has just been bought.
  rcases commit.installments row' member with
    ⟨row, among, continued⟩ | ⟨_, _, _, _, _, _, _, _, _, _, _, _, made⟩
  · exact (planned row among).continued continued
  · exact made.isPlanned

/-- Every instalment's columns agree on how much of it is paid. -/
def Store.Tracked (s : Store) : Prop := ∀ row ∈ s.installments.rows, row.Tracked

theorem Commit.tracked {zone : Zone} {call : Call} {seen : List Store} {s s' : Store}
    (commit : Commit Eq zone call seen s s') (tracked : s.Tracked) : s'.Tracked := by
  intro row' member
  -- In a run of one request at a time the row that is advanced is the one that was read.
  rcases commit.installments row' member with
    ⟨row, among, continued⟩ | ⟨_, _, _, _, _, _, _, _, _, _, _, _, made⟩
  · exact (tracked row among).continued (Table.find?_of_mem among) continued
  · exact made.isTracked

/-- Every instalment of a reachable store follows its plan, and is paid as its columns say. -/
theorem Reachable.planned {zone : Zone} {s : Store} (reached : Reachable zone s) :
    s.Planned ∧ s.Tracked := by
  -- What is stored matches its plan and its payments, whatever the run has done.
  let holds (s : Store) : Prop := s.Numbered ∧ s.Planned ∧ s.Tracked
  have nothing : ∀ {row : Installment}, row ∉ Store.empty.installments.rows := by
    simp [Store.empty]
  have empty : holds .empty :=
    ⟨.empty, fun row member => absurd member nothing, fun row member => absurd member nothing⟩
  -- Each commit keeps the three parts.
  have kept : ∀ call seen s s', holds s → Commit Eq zone call seen s s' → holds s' :=
    fun _ _ _ _ held commit =>
      ⟨commit.numbered held.1, commit.planned held.2.1, commit.tracked held.2.2⟩
  exact (reached.invariant (fun _ held => held.1) empty kept).2

end PocketMint
