import PocketMint.Relational.Selection
import PocketMint.Services.SavingGoal

/-! Every write of a user's request about saving goals, as the other users see it. -/

namespace PocketMint

open Prog SavingGoalService

namespace SavingGoalStore

/-- Every goal is still there, and still its user's. -/
def KeepsOwners (s s' : SavingGoalStore) : Prop :=
  ∀ id row, s.savingGoals.find? id = some row →
    ∃ later, s'.savingGoals.find? id = some later ∧ later.userId = row.userId

/-- A write of one user: goals keep their owners, and no one else's goal changes. -/
structure OwnWrite (userId : Id) (s s' : SavingGoalStore) : Prop where
  owners : s.KeepsOwners s'
  spares : ∀ other, userId ≠ other →
    (s'.savingGoals.filter fun row => row.userId = other) = s.savingGoals.filter fun row => row.userId = other

theorem KeepsOwners.refl (s : SavingGoalStore) : s.KeepsOwners s := fun _ row found => ⟨row, found, rfl⟩

theorem KeepsOwners.trans {a b c : SavingGoalStore} (first : a.KeepsOwners b) (second : b.KeepsOwners c) :
    a.KeepsOwners c := by
  -- The goal of the first store is found in the second, and then in the third.
  intro id row found
  obtain ⟨between, found', user⟩ := first id row found
  obtain ⟨later, found'', user'⟩ := second id between found'
  exact ⟨later, found'', user'.trans user⟩

variable {s : SavingGoalStore} {row : SavingGoal}

/-- A new goal of the user leaves the others as they are. -/
theorem OwnWrite.created {rows : Table SavingGoal} {nextId : Id}
    (inserted : s.savingGoals.insert? row = some rows) :
    OwnWrite row.userId s { nextId, savingGoals := rows } where
  owners id old found := by
    refine ⟨old, ?_, rfl⟩
    show rows.find? id = some old
    rw [Table.find?_insert inserted, if_neg]
    · exact found
    · -- The identifier of the new goal was free.
      rintro rfl
      rw [(Table.insert?_eq_some_iff.mp inserted).1] at found
      cases found
  spares other apart := Table.filter_insert_other inserted (decide_eq_false apart)

/-- A goal of the user is rewritten, and stays the user's. -/
theorem OwnWrite.updated {userId id : Id} {rewrite : SavingGoal → SavingGoal}
    {keeps : ∀ row, (rewrite row).id = row.id} (user : ∀ row, (rewrite row).userId = row.userId)
    (own : ∀ row, s.savingGoals.find? id = some row → row.userId = userId) :
    OwnWrite userId s { s with savingGoals := s.savingGoals.update id rewrite keeps } where
  owners other old found := by
    -- Only the goal of the identifier is rewritten, and it keeps its owner.
    by_cases here : other = id
    · exact ⟨rewrite old, by simp [here, here ▸ found], user old⟩
    · exact ⟨old, by simp [here, found], rfl⟩
  spares other apart :=
    Table.filter_updated_other rfl (fun row => by rw [user row]) fun row found =>
      decide_eq_false (own row found ▸ apart)

end SavingGoalStore

open SavingGoalStore

/-- The user a request acts for. -/
def SavingGoalRequest.userId : SavingGoalRequest → Id
  | .getSavingGoal input => input.userId
  | .createSavingGoal input => input.userId
  | .updateSavingGoal input => input.userId
  | .updateSavingGoalProgress input => input.userId
  | .archiveSavingGoal input => input.userId

section Outline

variable {history : List SavingGoalStore} {s : SavingGoalStore} {userId id : Id}

/-- A goal that is found is the user's, and a rewriting of it that keeps its user is a write of that user. -/
theorem findOwned_own {rest : SavingGoal → Prog SavingGoalStore Failure SavingGoal}
    (next : ∀ existing s₁ seen, s₁.ownGoal id userId = some existing →
      (rest existing).Sat KeepsOwners (fun _ s s' => s' = s ∨ OwnWrite userId s s')
      (fun _ _ _ => True) seen s₁) :
    (findOwned userId id >>= rest).Sat KeepsOwners (fun _ s s' => s' = s ∨ OwnWrite userId s s')
      (fun _ _ _ => True) history s := by
  unfold findOwned
  rw [bind_bind]
  exact sat_query_bind fun s₁ _ => sat_orThrow_bind fun existing own => next existing s₁ _ own

theorem updateGoal_own {rewrite : SavingGoal → SavingGoal} {keeps : ∀ row, (rewrite row).id = row.id}
    {existing : SavingGoal} (user : ∀ row, (rewrite row).userId = row.userId)
    (own : s.ownGoal id userId = some existing) :
    (updateGoal id rewrite keeps).Sat KeepsOwners (fun _ s s' => s' = s ∨ OwnWrite userId s s')
      (fun _ _ _ => True) history s := by
  refine sat_transact (fun _ _ => .inl rfl) fun s₁ value s' moved done => ⟨?_, trivial⟩
  have read : s.savingGoals.find? id = some existing ∧ existing.userId = userId := by
    simpa [ownGoal, Option.filter_eq_some_iff] using own
  -- The goal that was read is still there and still the user's.
  obtain ⟨later, found, same⟩ := moved id existing read.1
  rw [found] at done
  simp only at done
  split at done
  · cases done
  · cases done
    refine .inr (OwnWrite.updated user fun row here => ?_)
    obtain rfl : later = row := Option.some.inj (found.symm.trans here)
    exact same.trans read.2

/-- A request about saving goals makes only writes of its user. -/
theorem handleSavingGoal_own (zone : Zone) (call : SavingGoalCall) :
    (handleSavingGoal zone call).Sat KeepsOwners (fun _ s s' => s' = s ∨ OwnWrite call.request.userId s s')
      (fun _ _ _ => True) history s := by
  rcases call with ⟨now, request⟩
  cases request with
  -- Reading writes nothing.
  | getSavingGoal input =>
    refine sat_query_bind fun s₁ _ => ?_
    cases s₁.ownGoal input.id input.userId with
    | none => exact sat_fail
    | some goal => exact sat_ret.mpr trivial
  | createSavingGoal input =>
    show (createSavingGoal zone now input).Sat _ _ _ _ _
    -- The input is checked before the goal is inserted.
    unfold createSavingGoal
    refine sat_throwIf_bind fun _ => sat_ofExcept_bind fun _ _ => sat_ofExcept_bind fun _ _ => ?_
    refine sat_ofExcept_bind fun targetDate _ => sat_ofExcept_bind fun targetAmount _ => ?_
    refine sat_ofExcept_bind fun currentAmount _ => ?_
    refine sat_transact (fun _ _ => .inl rfl) fun s₁ value s' _ done => ⟨?_, trivial⟩
    -- The key of the user and the free identifier are checked in the transaction.
    split at done
    · cases done
    · split at done
      · cases done
      · rename_i rows inserted
        cases done
        exact .inr (OwnWrite.created inserted)
  | updateSavingGoal input =>
    -- The other requests read the goal of the user first, and then rewrite it.
    refine findOwned_own fun existing s₁ seen own => sat_throwIf_bind fun _ => sat_throwIf_bind fun _ => ?_
    refine sat_ofExcept_bind fun _ _ => sat_ofExcept_bind fun _ _ => sat_ofExcept_bind fun _ _ => ?_
    exact updateGoal_own (fun _ => rfl) own
  | updateSavingGoalProgress input =>
    refine findOwned_own fun existing s₁ seen own => sat_throwIf_bind fun _ => ?_
    refine sat_ofExcept_bind fun _ _ => sat_ofExcept_bind fun _ _ => ?_
    exact updateGoal_own (fun _ => rfl) own
  | archiveSavingGoal input =>
    refine findOwned_own fun existing s₁ seen own => sat_throwIf_bind fun _ => ?_
    exact updateGoal_own (fun _ => rfl) own

end Outline

end PocketMint
