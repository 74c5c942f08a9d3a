import PocketMint.Program.Atomic
import PocketMint.Program.Pool

/-! Interleavings that leave the store of a serial run, one request after the other. -/

namespace PocketMint

namespace Prog

variable {σ ε α β : Type}

/-- A program that has no write ahead of it. -/
def Silent : Prog σ ε α → Prop
  | ret _ => True
  | fail _ => True
  | read next => ∀ s, (next s).Silent
  | write _ _ => False

/-- A program that writes at most once, whatever it reads. -/
def WritesOnce : Prog σ ε α → Prop
  | ret _ => True
  | fail _ => True
  | read next => ∀ s, (next s).WritesOnce
  | write _ next => ∀ s, (next s).Silent

section Rules

variable {program : Prog σ ε α}

theorem Silent.writesOnce (silent : program.Silent) : program.WritesOnce := by
  -- A program that only reads has no write to make.
  induction program with
  | ret value => trivial
  | fail error => trivial
  | read next ih => exact fun s => ih s (silent s)
  | write effect next => exact silent.elim

/-- What is left of a silent program is silent. -/
theorem Silent.resume (silent : program.Silent) (seen : List σ) : (program.resume seen).Silent := by
  -- Each store that was seen takes one read off the program.
  induction seen generalizing program with
  | nil => cases program <;> exact silent
  | cons s seen ih =>
    cases program with
    | ret value => trivial
    | fail error => trivial
    | read next => exact ih (silent s)
    | write effect next => exact silent.elim

theorem writesOnce_query_bind {view : σ → β} {rest : β → Prog σ ε α}
    (next : ∀ value, (rest value).WritesOnce) : (query view >>= rest).WritesOnce :=
  fun s => next (view s)

theorem writesOnce_throwIf_bind {guard : Prop} [Decidable guard] {error : ε} {rest : Unit → Prog σ ε α}
    (next : (rest ()).WritesOnce) : (throwIf guard error >>= rest).WritesOnce := by
  unfold throwIf
  split
  · trivial
  · exact next

theorem writesOnce_orThrow_bind {found : Option β} {error : ε} {rest : β → Prog σ ε α}
    (next : ∀ value, (rest value).WritesOnce) : (orThrow found error >>= rest).WritesOnce := by
  cases found with
  | none => trivial
  | some value => exact next value

theorem writesOnce_ofExcept_bind {computed : Except ε β} {rest : β → Prog σ ε α}
    (next : ∀ value, (rest value).WritesOnce) : (ofExcept computed >>= rest).WritesOnce := by
  cases computed with
  | error error => trivial
  | ok value => exact next value

/-- A transaction writes once, and nothing follows its write. -/
theorem writesOnce_transact (body : σ → Except ε (α × σ)) : (transact body).WritesOnce := by
  -- The commit is the one write, and what follows it answers or throws.
  intro s
  cases outcome : body s with
  | error error => simp [outcome, Silent]
  | ok result => simp [outcome, Silent]

end Rules

end Prog

variable {ρ σ ε α : Type} (handle : ρ → Prog σ ε α)

/-- Whether the next step of a position is a write. -/
def Pool.writes (pool : Pool ρ σ) (position : Nat) : Bool :=
  match pool.threads[position]? with
  | none => false
  | some thread =>
    match thread.prog handle with
    | .write _ _ => true
    | _ => false

/-- The positions whose requests write along a schedule, in the order of their writes. -/
def Pool.writers : Pool ρ σ → List Nat → List Nat
  | _, [] => []
  | pool, position :: schedule =>
    if pool.writes handle position then position :: (pool.step handle position).writers schedule
    else (pool.step handle position).writers schedule

/-- The store after the request at a position has run alone. -/
def serveAt (requests : List ρ) (s : σ) (position : Nat) : σ :=
  match requests[position]? with
  | none => s
  | some request => ((handle request).run s).2

/-- The store after the requests at some positions have run alone, one after the other. -/
def serially (requests : List ρ) (s : σ) (positions : List Nat) : σ :=
  positions.foldl (serveAt handle requests) s

variable {handle}

theorem Pool.writers_cons (pool : Pool ρ σ) (position : Nat) (schedule : List Nat) :
    pool.writers handle (position :: schedule) =
      if pool.writes handle position then position :: (pool.step handle position).writers handle schedule
      else (pool.step handle position).writers handle schedule := rfl

/-- A step that is no write leaves the store alone. -/
theorem Pool.step_quiet {pool : Pool ρ σ} {position : Nat} (quiet : pool.writes handle position = false) :
    (pool.step handle position).store = pool.store := by
  -- Where the thread has ended or reads, the store stays as it is.
  rcases Pool.step_cases handle pool position with unchanged | ⟨thread, located, step⟩
  · rw [unchanged]
  · rcases step with ⟨next, _, stepped⟩ | ⟨effect, next, remaining, _⟩
    · rw [stepped]
    · simp [Pool.writes, located, remaining] at quiet

/-- A step that is a write is one of a request in flight. -/
theorem Pool.writes_iff {pool : Pool ρ σ} {position : Nat} :
    pool.writes handle position = true ↔ ∃ thread effect next, pool.threads[position]? = some thread ∧
      thread.prog handle = .write effect next ∧ pool.step handle position =
        { store := effect pool.store, threads := pool.threads.set position (thread.saw pool.store) } := by
  -- A position writes when its thread is there and a write comes next.
  unfold Pool.writes Pool.step
  cases located : pool.threads[position]? with
  | none => simp
  | some thread => cases remaining : thread.prog handle <;> simp [remaining]

/-- Requests that write at most once leave each position at most one write. -/
theorem Pool.writers_nodup (once : ∀ request, (handle request).WritesOnce) (s : σ) (requests : List ρ)
    (schedule : List Nat) : ((Pool.start s requests).writers handle schedule).Nodup := by
  -- A thread still has its one write ahead, or has none; a position that wrote has none.
  suffices general : ∀ (pool : Pool ρ σ),
      (∀ thread ∈ pool.threads, (thread.prog handle).WritesOnce) →
      (pool.writers handle schedule).Nodup ∧ ∀ position thread, pool.threads[position]? = some thread →
        (thread.prog handle).Silent → position ∉ pool.writers handle schedule by
    refine (general _ fun thread member => ?_).1
    rcases List.mem_map.mp member with ⟨request, _, rfl⟩
    have whole : (Thread.mk (σ := σ) request []).prog handle = handle request := by
      cases shape : handle request <;> simp [Thread.prog, Prog.resume, shape]
    rw [whole]
    exact once request
  intro pool left
  induction schedule generalizing pool with
  | nil => exact ⟨List.nodup_nil, fun _ _ _ _ => List.not_mem_nil⟩
  | cons position schedule ih =>
    have resumed : ∀ thread : Thread ρ σ,
        (thread.saw pool.store).prog handle = (thread.prog handle).resume [pool.store] :=
      fun thread => Prog.resume_snoc _ _ _
    -- A thread has at most one write left after every step.
    have leftNext : ∀ thread ∈ (pool.step handle position).threads, (thread.prog handle).WritesOnce := by
      intro thread member
      rcases Pool.step_cases handle pool position with unchanged | ⟨before, located, step⟩
      · exact left thread (unchanged ▸ member)
      · have own := left before (List.mem_of_getElem? located)
        rcases step with ⟨next, remaining, stepped⟩ | ⟨effect, next, remaining, stepped⟩ <;>
        · rw [stepped] at member
          rcases List.mem_or_eq_of_mem_set member with kept | rfl
          · exact left thread kept
          · rw [resumed, remaining]
            rw [remaining] at own
            first
            | simpa [Prog.resume] using own pool.store
            | simpa [Prog.resume] using (own pool.store).writesOnce
    rcases ih _ leftNext with ⟨distinct, silent⟩
    have silentNext : ∀ at_ thread, pool.threads[at_]? = some thread → (thread.prog handle).Silent →
        at_ ∉ (pool.step handle position).writers handle schedule := by
      intro at_ thread located quiet
      -- The thread that has stepped is silent as it was, and the others did not step.
      by_cases here : at_ = position
      · subst here
        rcases Pool.step_cases handle pool at_ with unchanged | ⟨before, located', step⟩
        · refine silent at_ thread ?_ quiet
          rw [unchanged]
          exact located
        · obtain rfl : thread = before := Option.some.inj (located.symm.trans located')
          have bound := (List.getElem?_eq_some_iff.mp located).1
          refine silent at_ (thread.saw pool.store) ?_ ?_
          · rcases step with ⟨_, _, stepped⟩ | ⟨_, _, _, stepped⟩ <;> simp [stepped, bound]
          · rw [resumed]
            exact quiet.resume _
      · exact silent at_ thread ((Pool.step_other handle pool here).trans located) quiet
    rw [Pool.writers_cons]
    by_cases wrote : pool.writes handle position = true
    · rw [if_pos wrote]
      rcases Pool.writes_iff.mp wrote with ⟨thread, effect, next, located, remaining, stepped⟩
      have own := left thread (List.mem_of_getElem? located)
      rw [remaining] at own
      have bound := (List.getElem?_eq_some_iff.mp located).1
      -- What follows the one write of a position is silent.
      have done : position ∉ (pool.step handle position).writers handle schedule := by
        refine silent position (thread.saw pool.store) (by simp [stepped, bound]) ?_
        rw [resumed, remaining]
        simpa [Prog.resume] using own pool.store
      refine ⟨List.nodup_cons.mpr ⟨done, distinct⟩, fun at_ other here quiet => ?_⟩
      refine List.not_mem_cons_of_ne_of_not_mem ?_ (silentNext at_ other here quiet)
      rintro rfl
      obtain rfl : thread = other := Option.some.inj (located.symm.trans here)
      -- The thread at this position was about to write, so it was not silent.
      rw [remaining] at quiet
      exact quiet
    · rw [if_neg wrote]
      exact ⟨distinct, silentNext⟩

/-- Serial runs from alike stores end in alike stores, when single requests do. -/
theorem serially_alike {alike : σ → σ → Prop}
    (respects : ∀ request s s', alike s s' → alike ((handle request).run s).2 ((handle request).run s').2)
    {s s' : σ} (start : alike s s') (requests : List ρ) (positions : List Nat) :
    alike (serially handle requests s positions) (serially handle requests s' positions) := by
  induction positions generalizing s s' with
  | nil => exact start
  | cons position positions ih =>
    -- One request moves both stores, or none does.
    refine ih ?_
    unfold serveAt
    cases requests[position]? with
    | none => exact start
    | some request => exact respects request s s' start

/--
An interleaving in which every write does what its request does alone is serializable.

Up to a likeness of stores, it leaves what the writing requests leave when they run alone in the order of
their writes.
-/
theorem Discipline.serial_exec (discipline : Discipline handle fun _ _ => True) {alike : σ → σ → Prop}
    (refl : ∀ s, alike s s) (trans : ∀ {a b c}, alike a b → alike b c → alike a c)
    (respects : ∀ request s s', alike s s' → alike ((handle request).run s).2 ((handle request).run s').2)
    (alone : ∀ request seen s s', discipline.inv s → discipline.guar request seen s s' →
      alike s' ((handle request).run s).2)
    {pool : Pool ρ σ} (good : discipline.Good pool) (held : discipline.inv pool.store) (schedule : List Nat) :
    alike (pool.exec handle schedule).store
      (serially handle (pool.threads.map Thread.request) pool.store (pool.writers handle schedule)) := by
  -- The serial run takes one request for each write, and none for any other step.
  induction schedule generalizing pool with
  | nil => exact refl _
  | cons position schedule ih =>
    rcases discipline.good_step good held position fun _ _ _ => trivial with ⟨goodNext, heldNext, _⟩
    have later := ih goodNext heldNext
    rw [Pool.step_requests] at later
    rw [Pool.exec_cons, Pool.writers_cons]
    by_cases wrote : pool.writes handle position = true
    · rw [if_pos wrote]
      rcases Pool.writes_iff.mp wrote with ⟨thread, effect, next, located, remaining, stepped⟩
      have own := good thread (List.mem_of_getElem? located)
      rw [remaining] at own
      -- The write does to the store what its request does alone.
      have same := alone _ _ _ _ held (Prog.sat_write.mp own pool.store (discipline.refl _ _)).1
      have served : serveAt handle (pool.threads.map Thread.request) pool.store position =
          ((handle thread.request).run pool.store).2 := by
        simp [serveAt, located]
      refine trans later ?_
      rw [stepped, serially, serially, List.foldl_cons, served]
      exact serially_alike respects same _ _
    · rw [if_neg wrote]
      rwa [Pool.step_quiet (by simpa using wrote)] at later

end PocketMint
