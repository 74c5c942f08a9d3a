import PocketMint.Program.Atomic
import PocketMint.Proofs.Payments

/-! Along any run, the row of an instalment is what the accepted payments have made of it. -/

namespace PocketMint

open Prog InstallmentPaymentService

/-- A payment that is refused changes nothing. -/
theorem payInstallment_atomic (zone : Zone) (now : Instant) (input : PayInstallmentInput) :
    (payInstallment zone now input).Atomic := by
  -- Everything before the one write only reads and checks.
  unfold payInstallment
  refine (reads_ofExcept _).bind_atomic fun _ => ?_
  refine (reads_query _).bind_atomic fun _ => (reads_orThrow _ _).bind_atomic fun _ => ?_
  refine (reads_throwIf _ _).bind_atomic fun _ => (reads_throwIf _ _).bind_atomic fun _ => ?_
  refine (reads_ofExcept _).bind_atomic fun _ => (reads_query _).bind_atomic fun _ => ?_
  refine (reads_orThrow _ _).bind_atomic fun _ => (reads_throwIf _ _).bind_atomic fun _ => ?_
  refine (reads_throwIf _ _).bind_atomic fun _ => (reads_ofExcept _).bind_atomic fun _ => ?_
  exact atomic_transact _

/-- Whether a call is accepted, rather than refused. -/
def accepts (zone : Zone) (s : Store) (call : Call) : Bool := (serve zone s call).1.toBool

/-- How many payments of an instalment a run of calls accepts. -/
def paymentsMade (zone : Zone) (installmentId : Id) : Store → List Call → Nat
  | _, [] => 0
  | s, call :: calls =>
    (if pays installmentId call ∧ accepts zone s call then 1 else 0) +
      paymentsMade zone installmentId (serve zone s call).2 calls

/-- A payment that is refused leaves the store as it was. -/
theorem serve_pays_refused {zone : Zone} {s : Store} {installmentId : Id} {call : Call}
    (paying : pays installmentId call) (refused : ¬accepts zone s call) : (serve zone s call).2 = s := by
  rcases call with ⟨now, request⟩
  rcases pays_iff.mp paying with ⟨input, rfl, _⟩
  cases answered : (serve zone s { now, request := .payInstallment input }).1 with
  | ok response => simp [accepts, answered, Except.toBool] at refused
  | error failure => exact (payInstallment_atomic zone now input).map _ s failure answered

/-- A payment that is accepted reports its transfer. -/
theorem serve_pays_accepted {zone : Zone} {s : Store} {installmentId : Id} {call : Call}
    (paying : pays installmentId call) (accepted : accepts zone s call) :
    ∃ row, reported (serve zone s call).1 = some row := by
  rcases call with ⟨now, request⟩
  rcases pays_iff.mp paying with ⟨input, rfl, _⟩
  simp only [accepts, serve, handle, run_bind] at accepted ⊢
  -- What is accepted is answered with the transfer of the payment.
  cases ran : (payInstallment zone now input).run s with
  | mk answer s' =>
    rw [ran] at accepted
    cases answer with
    | error failure => cases accepted
    | ok paid => exact ⟨paid.transaction, rfl⟩

/-- Writes of other calls leave an instalment alone, or delete it. -/
theorem Commit.installment_kept {between : Store → Store → Prop} {zone : Zone} {call : Call}
    {seen : List Store} {s s' : Store} {installmentId : Id}
    (commit : Commit between zone call seen s s') (other : ¬pays installmentId call)
    (early : installmentId < s.nextId) {row : Installment}
    (found : s'.installments.find? installmentId = some row) :
    s.installments.find? installmentId = some row := by
  -- Only purchases, payments and deletions write instalments.
  cases commit with
  | walletDeleted asked made =>
    rw [made.after] at found
    simp only [Store.deleteWallet, Table.find?_filter, Option.filter_eq_some_iff] at found
    exact found.1
  | creditCreated asked made =>
    -- A purchase draws a key that was not handed out yet, so its instalment is another one.
    have drawn := congrArg Installment.id made.backing
    rw [made.after] at found
    simp only [Store.credit, Table.find?_insert made.backed] at found
    split at found
    · rename_i same
      exact absurd (drawn.symm.trans same) early.ne'
    · exact found
  | installmentDeleted asked made =>
    rw [made.after] at found
    -- Deleting the purchase may erase its instalment, and then nothing is found under the key.
    split at found
    · simp only [Store.credit, Store.deleteInstallment, Table.find?_erase] at found
      split at found
      · cases found
      · exact found
    · exact found
  | @installmentPaid input installment _ _ _ _ _ _ asked made =>
    rcases made.read with ⟨s₁, _, _, own⟩
    have key : installment.id = input.installmentId :=
      Table.key_of_find? (Store.ownInstallment_eq_some.mp own).1
    -- A payment advances the instalment it names, which is not this one.
    have apart : installmentId ≠ installment.id := by
      intro same
      exact other (pays_iff.mpr ⟨input, asked, (same.trans key).symm⟩)
    rw [made.after] at found
    simpa [Store.credit, apart] using found
  | _ asked made =>
    rw [made.after] at found
    exact found

/-- What a run's payments keep of an instalment, by the number of those made. -/
structure Billed (installmentId : Id) (holds : Nat → Installment → Prop) (count : Nat) (s : Store) :
    Prop where
  numbered : s.Numbered
  early : installmentId < s.nextId
  billed : ∀ row, s.installments.find? installmentId = some row → holds count row

section Run

variable {zone : Zone} {installmentId : Id} {holds : Nat → Installment → Prop}

/-- A call keeps what payments keep, and counts if it is one that is accepted. -/
theorem Billed.step {count : Nat} {s : Store}
    (advance : ∀ count row now due, holds count row → row.paidTerms < row.installmentMonths →
      nextDueDate zone now row = .ok due → holds (count + 1) (advanced row due row))
    (before : Billed installmentId holds count s) (call : Call) :
    Billed installmentId holds (count + if pays installmentId call ∧ accepts zone s call then 1 else 0)
      (serve zone s call).2 := by
  -- A call pays the instalment and is accepted, pays it and is refused, or does something else.
  by_cases paying : pays installmentId call
  · by_cases accepted : accepts zone s call
    · -- An accepted payment has advanced the row that it read.
      rw [if_pos ⟨paying, accepted⟩]
      rcases serve_pays_accepted paying accepted with ⟨transfer, answered⟩
      rcases serve_posting before.numbered answered with ⟨seen, posting⟩
      rcases pays_iff.mp paying with ⟨input, asked, same⟩
      have numbered : (serve zone s call).2.Numbered := serve_numbered call before.numbered
      cases posting with
      | @payment _ installment _ _ _ _ _ named made =>
        obtain rfl := Request.payInstallment.inj (asked.symm.trans named)
        rcases made.read with ⟨s₁, _, rfl, own⟩
        have here := (Store.ownInstallment_eq_some.mp own).1
        rw [same] at here
        have key : installment.id = installmentId := Table.key_of_find? here
        refine ⟨numbered, ?_, ?_⟩
        · rw [made.after]
          exact Nat.lt_succ_of_lt before.early
        · intro row found
          rw [made.after] at found
          simp only [Store.credit, Table.find?_update] at found
          rw [if_pos key.symm, here] at found
          cases found
          exact advance count _ _ _ (before.billed _ here) made.unpaid made.dated
      | _ named => cases asked.symm.trans named
    -- A refused payment changes nothing.
    · rw [if_neg fun both => accepted both.2, serve_pays_refused paying accepted]
      exact before
  · -- Any other call leaves the row that is there.
    rw [if_neg fun both => paying both.1]
    let kept (s' : Store) : Prop := s'.Numbered ∧ installmentId < s'.nextId ∧
      ∀ row, s'.installments.find? installmentId = some row → s.installments.find? installmentId = some row
    have after : kept (serve zone s call).2 := by
      refine serve_preserves before.numbered ?_ ⟨before.numbered, before.early, fun _ found => found⟩
      -- What holds after every write is that the row, if it is found, is the one that was there.
      intro seen s₁ s' _ held commit
      have grows := commit.evolves.nextId
      refine ⟨commit.numbered held.1, Nat.lt_of_lt_of_le held.2.1 grows, ?_⟩
      intro row found
      exact held.2.2 row (commit.installment_kept paying held.2.1 found)
    exact ⟨after.1, after.2.1, fun row found => before.billed row (after.2.2 row found)⟩

/-- A run keeps what payments keep, for as many payments as it accepts. -/
theorem Billed.run {count : Nat} {s : Store}
    (advance : ∀ count row now due, holds count row → row.paidTerms < row.installmentMonths →
      nextDueDate zone now row = .ok due → holds (count + 1) (advanced row due row))
    (before : Billed installmentId holds count s) (calls : List Call) :
    Billed installmentId holds (count + paymentsMade zone installmentId s calls) (serveAll zone s calls) := by
  induction calls generalizing count s with
  | nil => exact before
  | cons call calls ih =>
    have later := ih (before.step advance call)
    rw [paymentsMade, ← Nat.add_assoc]
    exact later

end Run

end PocketMint
