import PocketMint.Proofs.Ledger

/-! Rules that single transactions follow, from what each posting gives to what whole runs keep. -/

namespace PocketMint

open Prog TransactionService

variable {zone : Zone} {call : Call} {seen : List Store} {row : Transaction} {s s' : Store}

/-- A call that posts a row has read the store it was given, so it writes to that store. -/
theorem Posting.here {s₀ : Store} (posting : Posting Eq zone call seen row s s')
    (first : (seen ++ [s]).head? = some s₀) : s₀ = s := by
  obtain ⟨s₁, early, rfl⟩ := posting.early
  simpa [List.head?_append, early] using first.symm

/--
In a run whose calls meet a condition every transaction follows a rule, when rows that remain keep
following it and a call that meets the condition posts rows that do.
-/
theorem runMeets_rows {condition : Call → Store → Prop} (rule : Store → Transaction → Prop)
    (remains : ∀ {call seen s s' row row'}, Commit Eq zone call seen s s' → s.Sound → s'.Sound →
      row ∈ s.transactions.rows → row' ∈ s'.transactions.rows → row.Remains row' → rule s row →
      rule s' row')
    (posted : ∀ {call seen s s' row}, Posting Eq zone call seen row s s' → s.Sound →
      (∀ other ∈ s.transactions.rows, rule s other) → condition call s → rule s' row)
    {calls : List Call} (meets : RunMeets zone condition .empty calls) :
    let s := serveAll zone .empty calls
    ∀ row ∈ s.transactions.rows, rule s row := by
  -- A commit either keeps a row or posts one, and the condition is only needed for the posted ones.
  let holds (s : Store) : Prop := s.Sound ∧ ∀ row ∈ s.transactions.rows, rule s row
  have numbers : ∀ s, holds s → s.Numbered := fun _ held => held.1.numbered
  have empty : holds .empty := ⟨.empty, fun row member => by simp [Store.empty] at member⟩
  refine (runMeets_preserves numbers ?_ meets empty).2
  rintro s₀ call seen s s' met first ⟨sound, follows⟩ commit
  have soundAfter := commit.sound .alone sound
  refine ⟨soundAfter, fun row' member => ?_⟩
  rcases commit.rows row' member with ⟨row, among, remained⟩ | posts
  · exact remains commit sound soundAfter among member remained (follows row among)
  · -- The condition was met by the store that the call was given, which is the one it writes to.
    have posting := commit.posting posts
    obtain rfl := posting.here first
    exact posted posting sound follows met

end PocketMint
