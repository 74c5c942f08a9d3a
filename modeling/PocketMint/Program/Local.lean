import PocketMint.Program.Atomic

/-! Programs that run in a store as they run in a projection of it. -/

namespace PocketMint

namespace Prog

variable {σ ε α β : Type} {project : σ → σ}

/--
A program that answers the same where the store is projected, and whose result there is the projected result.
-/
def Local (project : σ → σ) (program : Prog σ ε α) (s : σ) : Prop :=
  program.run (project s) = ((program.run s).1, project (program.run s).2)

section Rules

variable {s : σ}

theorem local_ret (value : α) : (ret value : Prog σ ε α).Local project s := rfl

theorem local_fail (error : ε) : (fail error : Prog σ ε α).Local project s := rfl

/-- A query is local when its view is the same in the projection. -/
theorem local_query {view : σ → α} (same : view (project s) = view s) :
    (query view : Prog σ ε α).Local project s := by
  simp [Local, query, run, same]

/-- A sequence is local when both of its parts are, the second where the first has left the store. -/
theorem local_seq {first : Prog σ ε β} {rest : β → Prog σ ε α} (here : first.Local project s)
    (next : ∀ value s', first.run s = (.ok value, s') → (rest value).Local project s') :
    (first >>= rest).Local project s := by
  -- The first part answers alike and leaves the same projection to the rest.
  unfold Local at here ⊢
  rw [run_bind, run_bind, here]
  cases ran : first.run s with
  | mk answer s' =>
    cases answer with
    | error error => rfl
    | ok value => exact next value s' ran

theorem local_query_bind {view : σ → β} {rest : β → Prog σ ε α} (same : view (project s) = view s)
    (next : (rest (view s)).Local project s) : (query view >>= rest).Local project s := by
  refine local_seq (local_query same) fun value s' ran => ?_
  obtain ⟨rfl, rfl⟩ := by simpa [query, run] using ran
  exact next

theorem local_throwIf_bind {guard : Prop} [Decidable guard] {error : ε} {rest : Unit → Prog σ ε α}
    (next : ¬guard → (rest ()).Local project s) : (throwIf guard error >>= rest).Local project s := by
  unfold throwIf
  split
  · exact local_fail error
  · rename_i passed
    exact next passed

theorem local_orThrow_bind {found : Option β} {error : ε} {rest : β → Prog σ ε α}
    (next : ∀ value, found = some value → (rest value).Local project s) :
    (orThrow found error >>= rest).Local project s := by
  cases found with
  | none => exact local_fail error
  | some value => exact next value rfl

theorem local_ofExcept_bind {computed : Except ε β} {rest : β → Prog σ ε α}
    (next : ∀ value, computed = .ok value → (rest value).Local project s) :
    (ofExcept computed >>= rest).Local project s := by
  cases computed with
  | error error => exact local_fail error
  | ok value => exact next value rfl

/-- A transaction is local when its body is. -/
theorem local_transact {body : σ → Except ε (α × σ)}
    (same : body (project s) = (body s).map fun result => (result.1, project result.2)) :
    (transact body).Local project s := by
  simp only [Local, transact, run, same]
  cases body s <;> rfl

end Rules

/-- A program that is local, and keeps an invariant under which it is. -/
def Confined (project : σ → σ) (inv : σ → Prop) (program : Prog σ ε α) : Prop :=
  ∀ s, inv s → program.Local project s ∧ inv (program.run s).2

namespace Confined

variable {inv : σ → Prop}

theorem ret (value : α) : Confined project inv (ret value : Prog σ ε α) :=
  fun _ held => ⟨local_ret value, held⟩

theorem ofExcept (computed : Except ε α) : Confined project inv (ofExcept computed : Prog σ ε α) := by
  cases computed with
  | error error => exact fun _ held => ⟨local_fail error, held⟩
  | ok value => exact ret value

theorem query {view : σ → α} (same : ∀ s, inv s → view (project s) = view s) :
    Confined project inv (query view : Prog σ ε α) := fun s held => ⟨local_query (same s held), held⟩

theorem bind {first : Prog σ ε β} {rest : β → Prog σ ε α} (confined : Confined project inv first)
    (next : ∀ value, Confined project inv (rest value)) : Confined project inv (first >>= rest) := by
  intro s held
  obtain ⟨here, kept⟩ := confined s held
  -- Each part answers alike where the invariant holds, and leaves it in force.
  refine ⟨local_seq here fun value s' ran => ?_, ?_⟩
  · rw [ran] at kept
    exact (next value s' kept).1
  · rw [run_bind]
    cases ran : first.run s with
    | mk answer s' =>
      rw [ran] at kept
      cases answer with
      | error error => exact kept
      | ok value => exact (next value s' kept).2

end Confined

/-- Stores with one projection give a local program one answer, and are left with one projection. -/
theorem Local.agree {program : Prog σ ε α} {s t : σ} (first : program.Local project s)
    (second : program.Local project t) (same : project s = project t) :
    (program.run s).1 = (program.run t).1 ∧ project (program.run s).2 = project (program.run t).2 := by
  rw [Local, same, second, Prod.mk.injEq] at first
  exact ⟨first.1.symm, first.2.symm⟩

end Prog

end PocketMint
