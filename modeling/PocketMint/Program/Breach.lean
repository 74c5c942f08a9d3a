import PocketMint.Program.Pool

/-! A run stays safe exactly when each of its writes does. -/

namespace PocketMint

variable {ρ σ ε α : Type} {handle : ρ → Prog σ ε α}

/-- What a write may do, when nothing is asked of the other requests. -/
def Discipline.unrestricted (handle : ρ → Prog σ ε α) (guar : ρ → List σ → σ → σ → Prop) :
    Discipline handle (fun _ _ => True) where
  inv _ := True
  rely _ _ _ := True
  guar := guar
  post _ _ _ _ := True
  refl _ _ := trivial
  trans _ _ _ _ _ _ := trivial
  stable _ _ _ _ _ _ _ := trivial
  compatible _ _ _ _ _ _ _ := ⟨trivial, fun _ => trivial⟩

/-- Every store along a schedule is safe, and each keeps what is to be kept of the ones before it. -/
def Pool.StaysSafe (handle : ρ → Prog σ ε α) (safe : σ → Prop) (kept : σ → σ → Prop) (pool : Pool ρ σ)
    (schedule : List Nat) : Prop :=
  -- The schedule is cut twice: at the earlier of two moments, and at the later one.
  ∀ earlier middle, earlier ++ middle <+: schedule →
    safe (pool.exec handle earlier).store ∧
    kept (pool.exec handle earlier).store (pool.exec handle (earlier ++ middle)).store

section Safe

variable {safe : σ → Prop} {kept : σ → σ → Prop}

/-- A run stays safe from its second store on. -/
theorem Pool.StaysSafe.tail {pool : Pool ρ σ} {position : Nat} {schedule : List Nat}
    (stays : pool.StaysSafe handle safe kept (position :: schedule)) :
    (pool.step handle position).StaysSafe handle safe kept schedule := by
  -- Every pair of later moments is one of the whole schedule.
  intro earlier middle within
  exact stays (position :: earlier) middle (List.cons_prefix_cons.mpr ⟨rfl, within⟩)

/-- The first step of a run that stays safe leaves a safe store that keeps what it has to. -/
theorem Pool.StaysSafe.first {pool : Pool ρ σ} {position : Nat} {schedule : List Nat}
    (stays : pool.StaysSafe handle safe kept (position :: schedule)) :
    safe (pool.step handle position).store ∧ kept pool.store (pool.step handle position).store := by
  -- The step makes its store safe, and leads from the store before it.
  constructor
  · have after := stays [position] [] (List.cons_prefix_cons.mpr ⟨rfl, List.nil_prefix⟩)
    exact after.1
  · have before := stays [] [position] (List.cons_prefix_cons.mpr ⟨rfl, List.nil_prefix⟩)
    exact before.2

/-- A safe step that keeps what it has to goes before any run that stays safe. -/
theorem Pool.StaysSafe.cons (refl : ∀ s, kept s s) (trans : ∀ {a b c}, kept a b → kept b c → kept a c)
    {pool : Pool ρ σ} {position : Nat} {schedule : List Nat} (start : safe pool.store)
    (step : kept pool.store (pool.step handle position).store)
    (rest : (pool.step handle position).StaysSafe handle safe kept schedule) :
    pool.StaysSafe handle safe kept (position :: schedule) := by
  -- Two moments of the run are either both after the first step, or one is the start.
  intro earlier middle within
  cases earlier with
  | nil =>
    -- From the start on, either nothing has happened yet or the step has.
    cases middle with
    | nil => exact ⟨start, refl _⟩
    | cons next middle =>
      -- The later moment is past the step, and the step goes before what is kept from there on.
      rcases List.cons_prefix_cons.mp within with ⟨rfl, further⟩
      exact ⟨start, trans step (rest [] middle further).2⟩
  | cons next earlier =>
    rcases List.cons_prefix_cons.mp within with ⟨rfl, further⟩
    exact rest earlier middle further

/--
A run stays safe exactly when every write meets the condition.

The condition has to decide whether a write that is taken in a safe store leaves a safe one and keeps what is
to be kept.
-/
theorem Pool.staysSafe_iff_meets {guar : ρ → List σ → σ → σ → Prop} {condition : Thread ρ σ → σ → Prop}
    (refl : ∀ s, kept s s) (trans : ∀ {a b c}, kept a b → kept b c → kept a c)
    (decides : ∀ request seen s s', safe s → s' ≠ s → guar request seen s s' →
      (safe s' ∧ kept s s' ↔ condition ⟨request, seen⟩ s))
    {pool : Pool ρ σ} (good : (Discipline.unrestricted handle guar).Good pool) (start : safe pool.store)
    (schedule : List Nat) :
    pool.StaysSafe handle safe kept schedule ↔ pool.Meets handle condition schedule := by
  -- The induction takes the schedule one step at a time, from one safe store to the next.
  induction schedule generalizing pool with
  | nil =>
    constructor
    · intro _
      trivial
    · intro _ earlier middle within
      rcases List.append_eq_nil_iff.mp (List.prefix_nil.mp within) with ⟨rfl, rfl⟩
      exact ⟨start, refl _⟩
  | cons position schedule ih =>
    have goodNext : (Discipline.unrestricted handle guar).Good (pool.step handle position) :=
      ((Discipline.unrestricted handle guar).good_step good trivial position fun _ _ _ => trivial).1
    constructor
    -- In a run that stays safe each write was such that the condition held.
    · intro stays
      rcases stays.first with ⟨next, keeps⟩
      refine ⟨?_, (ih goodNext next).mp stays.tail⟩
      intro thread located changed
      have wrote := ((Discipline.unrestricted handle guar).guar_of_good good located).resolve_left changed
      exact (decides _ _ _ _ start changed wrote).mp ⟨next, keeps⟩
    -- In a run that meets the condition each write leads to a safe store.
    · intro meets
      have step : safe (pool.step handle position).store ∧
          kept pool.store (pool.step handle position).store := by
        by_cases same : (pool.step handle position).store = pool.store
        · rw [same]
          exact ⟨start, refl _⟩
        · -- Only a request in flight changes the store.
          cases located : pool.threads[position]? with
          | none => exact absurd (by simp [Pool.step, located]) same
          | some thread =>
            have wrote := ((Discipline.unrestricted handle guar).guar_of_good good located).resolve_left same
            exact (decides _ _ _ _ start same wrote).mpr (meets.1 thread located same)
      exact .cons refl trans start step.2 ((ih goodNext step.1).mpr meets.2)

end Safe

end PocketMint
