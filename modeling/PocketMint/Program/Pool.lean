import PocketMint.Program.Rely
import Mathlib.Data.List.Basic
import Mathlib.Tactic.ByContra

/-! Requests in flight over one store, stepped one atomic step at a time in any order. -/

namespace PocketMint

variable {ρ σ ε α : Type}

/-- What remains of a program after steps taken in the given stores. -/
def Prog.resume : Prog σ ε α → List σ → Prog σ ε α
  | .read next, s :: seen => (next s).resume seen
  | .write _ next, s :: seen => (next s).resume seen
  | program, _ => program

/-- Resuming once more is resuming with one more store. -/
theorem Prog.resume_snoc (program : Prog σ ε α) (seen : List σ) (s : σ) :
    program.resume (seen ++ [s]) = (program.resume seen).resume [s] := by
  -- Each earlier store moves the program on by one node.
  induction seen generalizing program with
  | nil => cases program <;> simp [resume]
  | cons first seen ih => cases program <;> simp [resume, ih]

/-- What holds of an answer and of the store that the answering write left, wherever it has moved since. -/
def Prog.AnsweredBy (program : Prog σ ε α) (concludes : α → List σ → σ → Prop) (value : α)
    (history : List σ) : Prop :=
  ∀ seen s effect next, history = seen ++ [s] → program.resume seen = .write effect next →
    concludes value history (effect s)

/-- An answer that is right when it is given was right in the store that the answering write left. -/
theorem Prog.Sat.answeredBy {rely : σ → σ → Prop} {guar : List σ → σ → σ → Prop}
    {post : α → List σ → σ → Prop} {program : Prog σ ε α} {s : σ}
    (sat : program.Sat rely guar post [] s) :
    program.Sat rely guar (fun value history s => post value history s ∧
      program.AnsweredBy post value history) [] s := by
  -- Generalized to a part of the program that the stores so far have led to.
  suffices general : ∀ {part : Prog σ ε α} {history : List σ} {s : σ},
      part.Sat rely guar post history s → program.resume history = part →
      (∀ seen s₁ effect next, history = seen ++ [s₁] → program.resume seen = .write effect next →
        s = effect s₁) →
      part.Sat rely guar (fun value history s => post value history s ∧
        program.AnsweredBy post value history) history s by
    refine general sat ?_ fun _ _ _ _ empty => by simp at empty
    cases program <;> rfl
  intro part history s sat led left
  induction part generalizing history s with
  | ret value =>
    have concluded := Prog.sat_ret.mp sat
    refine Prog.sat_ret.mpr ⟨concluded, fun seen s₁ effect next grown writes => ?_⟩
    rw [← left seen s₁ effect next grown writes]
    -- A program that has answered stepped last by the write before, if it has stepped.
    exact concluded
  | fail error => exact Prog.sat_fail
  | read next ih =>
    refine Prog.sat_read.mpr fun s' moved => ?_
    refine ih s' (Prog.sat_read.mp sat s' moved) ?_ fun seen s₁ effect after grown writes => ?_
    · rw [Prog.resume_snoc, led]
      simp [Prog.resume]
    · -- The last step was this one, and no write.
      rw [← (List.append_inj' grown rfl).1, led] at writes
      cases writes
  | write effect next ih =>
    refine Prog.sat_write.mpr fun s' moved => ?_
    -- A write that is the last step leaves the store that it makes.
    obtain ⟨made, rest⟩ := Prog.sat_write.mp sat s' moved
    refine ⟨made, ih s' rest ?_ fun seen s₁ effect' after grown writes => ?_⟩
    · rw [Prog.resume_snoc, led]
      simp [Prog.resume]
    · obtain ⟨same, last⟩ := List.append_inj' grown rfl
      rw [← same, led] at writes
      rw [(Prog.write.inj writes).1, List.singleton_inj.mp last]

/-- A request in flight, with the stores in which its steps so far were taken. -/
structure Thread (ρ σ : Type) where
  request : ρ
  seen : List σ

/-- The thread after one more step, taken in the given store. -/
def Thread.saw (thread : Thread ρ σ) (s : σ) : Thread ρ σ :=
  { thread with seen := thread.seen ++ [s] }

@[simp] theorem Thread.saw_request (thread : Thread ρ σ) (s : σ) :
    (thread.saw s).request = thread.request := rfl

@[simp] theorem Thread.saw_seen (thread : Thread ρ σ) (s : σ) :
    (thread.saw s).seen = thread.seen ++ [s] := rfl

/-- A shared store and the requests in flight over it. -/
structure Pool (ρ σ : Type) where
  store : σ
  threads : List (Thread ρ σ)

/-- Requests that have arrived and taken no step yet. -/
def Pool.start (s : σ) (requests : List ρ) : Pool ρ σ :=
  { store := s, threads := requests.map fun request => { request, seen := [] } }

section Handler

variable (handle : ρ → Prog σ ε α)

/-- What a request in flight still has to do. -/
def Thread.prog (thread : Thread ρ σ) : Prog σ ε α :=
  (handle thread.request).resume thread.seen

/-- One atomic step of the request at a position, or nothing when it has finished. -/
def Pool.step (pool : Pool ρ σ) (position : Nat) : Pool ρ σ :=
  match pool.threads[position]? with
  | none => pool
  | some thread =>
    match thread.prog handle with
    | .ret _ => pool
    | .fail _ => pool
    | .read _ => { pool with threads := pool.threads.set position (thread.saw pool.store) }
    | .write effect _ =>
      { store := effect pool.store, threads := pool.threads.set position (thread.saw pool.store) }

/-- The pool after a schedule: the position whose request takes each successive step. -/
def Pool.exec (pool : Pool ρ σ) (schedule : List Nat) : Pool ρ σ :=
  schedule.foldl (Pool.step handle) pool

@[simp] theorem Pool.exec_nil (pool : Pool ρ σ) : pool.exec handle [] = pool := rfl

@[simp] theorem Pool.exec_cons (pool : Pool ρ σ) (position : Nat) (schedule : List Nat) :
    pool.exec handle (position :: schedule) = (pool.step handle position).exec handle schedule := rfl

theorem Pool.exec_append (pool : Pool ρ σ) (first second : List Nat) :
    pool.exec handle (first ++ second) = (pool.exec handle first).exec handle second :=
  List.foldl_append

/-- What the request at a position has answered, if it has answered. -/
def Pool.answerOf (pool : Pool ρ σ) (position : Nat) : Option α :=
  match pool.threads[position]? with
  | none => none
  | some thread =>
    match thread.prog handle with
    | .ret value => some value
    | _ => none

/-- The request whose write is the next step of a position and gives its answer, with that answer. -/
def Pool.answering (pool : Pool ρ σ) (position : Nat) : Option (Thread ρ σ × α) :=
  match pool.threads[position]? with
  | none => none
  | some thread =>
    match thread.prog handle with
    | .write _ next =>
      match next pool.store with
      | .ret value => some (thread, value)
      | _ => none
    | _ => none

/-- Every step along the schedule that changes the store is taken in a store meeting the condition. -/
def Pool.Meets (condition : Thread ρ σ → σ → Prop) : Pool ρ σ → List Nat → Prop
  | _, [] => True
  | pool, position :: schedule =>
    (∀ thread, pool.threads[position]? = some thread →
      (pool.step handle position).store ≠ pool.store → condition thread pool.store) ∧
    (pool.step handle position).Meets condition schedule

/-- Every step along the schedule is taken in a store meeting the condition. -/
def Pool.Passes (condition : Thread ρ σ → σ → Prop) : Pool ρ σ → List Nat → Prop
  | _, [] => True
  | pool, position :: schedule =>
    (∀ thread ∈ pool.threads[position]?, condition thread pool.store) ∧
    (pool.step handle position).Passes condition schedule

instance Pool.decidablePasses (condition : Thread ρ σ → σ → Prop)
    [∀ thread s, Decidable (condition thread s)] (pool : Pool ρ σ) (schedule : List Nat) :
    Decidable (pool.Passes handle condition schedule) := by
  induction schedule generalizing pool with unfold Pool.Passes
  | nil => infer_instance
  | cons position schedule ih =>
    have : Decidable ((pool.step handle position).Passes handle condition schedule) := ih _
    infer_instance

variable {handle}

theorem Pool.Passes.meets {condition : Thread ρ σ → σ → Prop} {pool : Pool ρ σ}
    {schedule : List Nat} (passes : pool.Passes handle condition schedule) :
    pool.Meets handle condition schedule := by
  -- The condition holds at each step whatever the step does, and so also where it writes.
  induction schedule generalizing pool with
  | nil => trivial
  | cons position schedule ih =>
    exact ⟨fun thread located _ => passes.1 thread located, ih passes.2⟩

/-- A schedule that meets a condition met it up to every moment. -/
theorem Pool.Meets.earlier {condition : Thread ρ σ → σ → Prop} {pool : Pool ρ σ}
    {earlier later : List Nat} (meets : pool.Meets handle condition (earlier ++ later)) :
    pool.Meets handle condition earlier := by
  induction earlier generalizing pool with
  | nil => trivial
  | cons position earlier ih => exact ⟨meets.1, ih meets.2⟩

/-- Every schedule meets the condition that asks for nothing. -/
theorem Pool.meets_trivial (pool : Pool ρ σ) (schedule : List Nat) :
    pool.Meets handle (fun _ _ => True) schedule := by
  induction schedule generalizing pool with
  | nil => trivial
  | cons position schedule ih => exact ⟨fun _ _ _ => trivial, ih _⟩

variable (handle)

/-- The ways one position can step: not at all, by a read, or by a write. -/
theorem Pool.step_cases (pool : Pool ρ σ) (position : Nat) :
    pool.step handle position = pool ∨
    ∃ thread, pool.threads[position]? = some thread ∧
      ((∃ next, thread.prog handle = .read next ∧ pool.step handle position =
        { pool with threads := pool.threads.set position (thread.saw pool.store) }) ∨
      (∃ effect next, thread.prog handle = .write effect next ∧ pool.step handle position =
        { store := effect pool.store,
          threads := pool.threads.set position (thread.saw pool.store) })) := by
  -- A thread that is missing or done does nothing, and any other takes one step.
  unfold Pool.step
  cases located : pool.threads[position]? with
  | none => exact .inl rfl
  | some thread =>
    cases remaining : thread.prog handle with
    | ret value => exact .inl (by simp [remaining])
    | fail error => exact .inl (by simp [remaining])
    | read next => exact .inr ⟨thread, rfl, .inl ⟨next, remaining, by simp [remaining]⟩⟩
    | write effect next =>
      exact .inr ⟨thread, rfl, .inr ⟨effect, next, remaining, by simp [remaining]⟩⟩

/-- A step changes at most the stores its own request has seen. -/
theorem Pool.step_requests (pool : Pool ρ σ) (position : Nat) :
    (pool.step handle position).threads.map Thread.request = pool.threads.map Thread.request := by
  -- A step replaces a thread by one of the same request.
  have same : ∀ thread, pool.threads[position]? = some thread →
      (pool.threads.set position (thread.saw pool.store)).map Thread.request =
        pool.threads.map Thread.request := by
    intro thread located
    -- The place of the step holds the same request as before, and the others are as they were.
    obtain ⟨bound, own⟩ := List.getElem?_eq_some_iff.mp located
    refine List.ext_getElem? fun other => ?_
    rw [List.getElem?_map, List.getElem?_map, List.getElem?_set]
    split
    · rename_i here
      simp [← here, own, bound]
    · rfl
  rcases Pool.step_cases handle pool position with unchanged | ⟨thread, located, step⟩
  · rw [unchanged]
  · rcases step with ⟨_, _, stepped⟩ | ⟨_, _, _, stepped⟩ <;> rw [stepped] <;>
      exact same thread located

/-- A schedule changes at most the stores that the requests have seen. -/
theorem Pool.exec_requests (pool : Pool ρ σ) (schedule : List Nat) :
    (pool.exec handle schedule).threads.map Thread.request = pool.threads.map Thread.request := by
  induction schedule generalizing pool with
  | nil => rfl
  | cons position schedule ih => rw [Pool.exec_cons, ih, Pool.step_requests]

/-- The thread at each position of a run is that of the request at the position. -/
theorem Pool.exec_thread {s : σ} {requests : List ρ} (schedule : List Nat) {position : Nat} {request : ρ}
    (asked : requests[position]? = some request) :
    ∃ seen, ((Pool.start s requests).exec handle schedule).threads[position]? = some ⟨request, seen⟩ := by
  -- Requests keep their places from the start of the run on.
  have same := Pool.exec_requests handle (Pool.start s requests) schedule
  have started : (Pool.start s requests).threads.map Thread.request = requests := by
    simp [Pool.start, Function.comp_def]
  have here := congrArg (fun requests => requests[position]?) (same.trans started)
  simp only [List.getElem?_map, asked, Option.map_eq_some_iff] at here
  obtain ⟨⟨_, seen⟩, located, rfl⟩ := here
  exact ⟨seen, located⟩

/-- A condition that holds of every request in flight holds of each along the schedule. -/
theorem Pool.Meets.and {claims : ρ → Prop} {condition : Thread ρ σ → σ → Prop} {pool : Pool ρ σ}
    {schedule : List Nat} (meets : pool.Meets handle condition schedule)
    (all : ∀ request ∈ pool.threads.map Thread.request, claims request) :
    pool.Meets handle (fun thread s => claims thread.request ∧ condition thread s) schedule := by
  -- The condition is added at each step, and the requests are the same after it.
  induction schedule generalizing pool with
  | nil => trivial
  | cons position schedule ih =>
    refine ⟨fun thread located changed => ⟨?_, meets.1 thread located changed⟩, ih meets.2 ?_⟩
    · exact all _ (List.mem_map_of_mem (List.mem_of_getElem? located))
    · rwa [Pool.step_requests]

/-- A step leaves every other position alone. -/
theorem Pool.step_other (pool : Pool ρ σ) {position other : Nat} (apart : other ≠ position) :
    (pool.step handle position).threads[other]? = pool.threads[other]? := by
  -- A step writes into its own place of the list alone.
  rcases Pool.step_cases handle pool position with unchanged | ⟨thread, _, step⟩
  · rw [unchanged]
  · rcases step with ⟨_, _, stepped⟩ | ⟨_, _, _, stepped⟩ <;> rw [stepped] <;>
      exact List.getElem?_set_ne (Ne.symm apart)

/-- No two requests of a kind have both answered. -/
def Pool.AtMostOne (claims : ρ → Prop) (pool : Pool ρ σ) : Prop :=
  ∀ (first second : Nat) (thread other : Thread ρ σ), pool.threads[first]? = some thread →
    pool.threads[second]? = some other → claims thread.request → claims other.request →
    (∃ value, thread.prog handle = .ret value) → (∃ value, other.prog handle = .ret value) →
    first = second

end Handler

/--
Relations under which requests may interleave.

A write taken where the condition holds must keep the invariant of the store, and must move the
store only along what every request relies on.
-/
structure Discipline (handle : ρ → Prog σ ε α) (condition : Thread ρ σ → σ → Prop) where
  inv : σ → Prop
  rely : ρ → σ → σ → Prop
  guar : ρ → List σ → σ → σ → Prop
  post : ρ → α → List σ → σ → Prop
  refl : ∀ request s, rely request s s
  trans : ∀ request {a b c}, rely request a b → rely request b c → rely request a c
  stable : ∀ request value history s s',
    post request value history s → rely request s s' → post request value history s'
  compatible : ∀ request history s s', inv s → (s' ≠ s → condition ⟨request, history⟩ s) →
    guar request history s s' → inv s' ∧ ∀ other, rely other s s'

namespace Discipline

variable {handle : ρ → Prog σ ε α} {condition : Thread ρ σ → σ → Prop}
  (discipline : Discipline handle condition)

/-- Every request in flight still meets its outline. -/
def Good (pool : Pool ρ σ) : Prop :=
  ∀ thread ∈ pool.threads, (thread.prog handle).Sat (discipline.rely thread.request)
    (discipline.guar thread.request) (discipline.post thread.request) thread.seen pool.store

/-- Requests whose handlers meet their outlines start a good pool. -/
theorem good_start {s : σ} {requests : List ρ}
    (sat : ∀ request ∈ requests, (handle request).Sat (discipline.rely request)
      (discipline.guar request) (discipline.post request) [] s) :
    discipline.Good (Pool.start s requests) := by
  -- A request that has taken no step is its whole handler.
  intro thread member
  obtain ⟨request, among, rfl⟩ := List.mem_map.mp member
  have whole : (Thread.mk (σ := σ) request []).prog handle = handle request := by
    cases shape : handle request <;> simp [Thread.prog, Prog.resume, shape]
  rw [whole]
  exact sat request among

/-- A step leaves the store alone, or makes a write that its request guarantees. -/
theorem guar_of_good {pool : Pool ρ σ} (good : discipline.Good pool) {position : Nat}
    {thread : Thread ρ σ} (located : pool.threads[position]? = some thread) :
    (pool.step handle position).store = pool.store ∨
    discipline.guar thread.request thread.seen pool.store (pool.step handle position).store := by
  -- Only the step of a write changes the store, and its guarantee covers it.
  -- A thread that is not there, or has ended, changes nothing.
  rcases Pool.step_cases handle pool position with unchanged | ⟨other, at_, step⟩
  · exact .inl (congrArg Pool.store unchanged)
  · obtain rfl : thread = other := Option.some.inj (located.symm.trans at_)
    rcases step with ⟨next, _, stepped⟩ | ⟨effect, next, remaining, stepped⟩
    · exact .inl (by rw [stepped])
    -- The invariant of a good pool speaks of this very write.
    · have own := good thread (List.mem_of_getElem? located)
      rw [remaining] at own
      rw [stepped]
      exact .inr (Prog.sat_write.mp own pool.store (discipline.refl _ _)).1

/-- The store moves along the rely relations, and the stepping request keeps its outline. -/
theorem good_step {pool : Pool ρ σ} (good : discipline.Good pool) (held : discipline.inv pool.store)
    (position : Nat) (meets : ∀ thread, pool.threads[position]? = some thread →
      (pool.step handle position).store ≠ pool.store → condition thread pool.store) :
    discipline.Good (pool.step handle position) ∧
    discipline.inv (pool.step handle position).store ∧
    ∀ request, discipline.rely request pool.store (pool.step handle position).store := by
  -- A step is a read, a write or nothing, and only a write concerns the other threads.
  rcases Pool.step_cases handle pool position with unchanged | ⟨thread, located, step⟩
  · rw [unchanged]
    exact ⟨good, held, fun request => discipline.refl request _⟩
  · have own := good thread (List.mem_of_getElem? located)
    have resumed : (thread.saw pool.store).prog handle =
        (thread.prog handle).resume [pool.store] := Prog.resume_snoc _ _ _
    rcases step with ⟨next, remaining, stepped⟩ | ⟨effect, next, remaining, stepped⟩
    · -- A read changes only what its own request has seen.
      rw [stepped]
      refine ⟨fun other member => ?_, held, fun request => discipline.refl request _⟩
      rcases List.mem_or_eq_of_mem_set member with kept | rfl
      · exact good other kept
      · rw [remaining] at own resumed
        rw [resumed]
        simpa [Prog.resume] using Prog.sat_read.mp own pool.store (discipline.refl _ _)
    · -- A write moves the store for the others and continues its own request.
      rw [remaining] at own resumed
      have wrote := Prog.sat_write.mp own pool.store (discipline.refl _ _)
      rw [stepped] at meets ⊢
      obtain ⟨kept, moved⟩ := discipline.compatible thread.request thread.seen _ _ held
        (meets thread located) wrote.1
      refine ⟨fun other member => ?_, kept, moved⟩
      rcases List.mem_or_eq_of_mem_set member with among | rfl
      · have others : discipline.rely other.request pool.store (effect pool.store) :=
          moved other.request
        refine (good other among).stable ?_ ?_ others
        · exact discipline.trans other.request
        · exact discipline.stable other.request
      · rw [resumed]
        simpa [Prog.resume] using wrote.2

/-- Any schedule whose changing steps meet the condition keeps the invariant and every outline. -/
theorem good_exec {pool : Pool ρ σ} (good : discipline.Good pool) (held : discipline.inv pool.store)
    (schedule : List Nat) (meets : pool.Meets handle condition schedule) :
    discipline.Good (pool.exec handle schedule) ∧
    discipline.inv (pool.exec handle schedule).store ∧
    ∀ request, discipline.rely request pool.store (pool.exec handle schedule).store := by
  induction schedule generalizing pool with
  -- The invariant goes from one step to the next, and what every request relies on adds up.
  | nil => exact ⟨good, held, fun request => discipline.refl request _⟩
  | cons position schedule ih =>
    obtain ⟨goodNext, heldNext, moved⟩ := discipline.good_step good held position meets.1
    obtain ⟨goodLast, heldLast, movedLast⟩ := ih goodNext heldNext meets.2
    exact ⟨goodLast, heldLast, fun request => discipline.trans _ (moved request) (movedLast request)⟩

/-- Along a run each step is one that the request at its position guarantees. -/
theorem guar_of_exec {s : σ} {requests : List ρ} (good : discipline.Good (Pool.start s requests))
    (held : discipline.inv s) (schedule : List Nat)
    (meets : (Pool.start s requests).Meets handle condition schedule) {position : Nat} {request : ρ}
    (asked : requests[position]? = some request) :
    ((Pool.start s requests).exec handle (schedule ++ [position])).store =
      ((Pool.start s requests).exec handle schedule).store ∨
    ∃ seen, discipline.guar request seen ((Pool.start s requests).exec handle schedule).store
      ((Pool.start s requests).exec handle (schedule ++ [position])).store := by
  -- The schedule leads to a good pool, in which the request takes its step.
  obtain ⟨goodNow, _, _⟩ := discipline.good_exec good held schedule meets
  obtain ⟨seen, located⟩ := Pool.exec_thread handle (s := s) schedule asked
  rw [Pool.exec_append, Pool.exec_cons, Pool.exec_nil]
  exact (discipline.guar_of_good goodNow located).imp_right fun made => ⟨seen, made⟩

/-- A request that has answered still satisfies its postcondition. -/
theorem post_of_good {pool : Pool ρ σ} (good : discipline.Good pool) {thread : Thread ρ σ}
    (member : thread ∈ pool.threads) {value : α} (answered : thread.prog handle = .ret value) :
    discipline.post thread.request value thread.seen pool.store := by
  have sat := good thread member
  rw [answered] at sat
  exact Prog.sat_ret.mp sat

/-- What an answered request of a run concludes holds of the store. -/
theorem post_of_answer {s : σ} {requests : List ρ} {schedule : List Nat}
    (good : discipline.Good ((Pool.start s requests).exec handle schedule)) {position : Nat} {request : ρ}
    (asked : requests[position]? = some request) {value : α}
    (answered : ((Pool.start s requests).exec handle schedule).answerOf handle position = some value) :
    ∃ seen, discipline.post request value seen ((Pool.start s requests).exec handle schedule).store := by
  -- The thread of the request is still at its position, with more stores seen.
  obtain ⟨seen, located⟩ := Pool.exec_thread handle (s := s) schedule asked
  refine ⟨seen, ?_⟩
  unfold Pool.answerOf at answered
  simp only [located] at answered
  split at answered
  · rename_i given finished
    obtain rfl := Option.some.inj answered
    exact discipline.post_of_good good (List.mem_of_getElem? located) finished
  · cases answered

/-- A write that gives an answer does what its request guarantees, and what its answer concludes. -/
theorem answering {pool : Pool ρ σ} (good : discipline.Good pool) {position : Nat}
    {thread : Thread ρ σ} {value : α} (answers : pool.answering handle position = some (thread, value))
    {concludes : ρ → α → List σ → σ → Prop} (grounded : ∀ value history s,
      discipline.post thread.request value history s →
      (handle thread.request).AnsweredBy (concludes thread.request) value history) :
    pool.threads[position]? = some thread ∧
    concludes thread.request value (thread.seen ++ [pool.store]) (pool.step handle position).store := by
  -- An answer follows the last write of a thread, whose postcondition then holds.
  unfold Pool.answering at answers
  cases located : pool.threads[position]? with
  | none => simp [located] at answers
  | some other =>
    simp only [located] at answers
    cases remaining : other.prog handle with
    -- Only a write that ends its program answers at this step.
    | write effect next =>
      simp only [remaining] at answers
      cases answer : next pool.store with
      | ret given =>
        simp only [answer, Option.some.injEq, Prod.mk.injEq] at answers
        obtain ⟨rfl, rfl⟩ := answers
        have own := good other (List.mem_of_getElem? located)
        rw [remaining] at own
        have done := (Prog.sat_write.mp own pool.store (discipline.refl _ _)).2
        rw [answer] at done
        refine ⟨rfl, ?_⟩
        have left : (pool.step handle position).store = effect pool.store := by
          simp [Pool.step, located, remaining]
        rw [left]
        exact grounded _ _ _ (Prog.sat_ret.mp done) other.seen pool.store effect next rfl remaining
      | _ => simp [answer] at answers
    | _ => simp [remaining] at answers

/--
Claims that the store grants only while it is free, and that leave it taken, are granted once.

An answered claim was granted in the store of its last step.
-/
theorem unique_answer (claims : ρ → Prop) (Free : σ → Prop)
    (granted : ∀ request value history s, claims request →
      discipline.post request value history s →
      (∃ s₀, history.getLast? = some s₀ ∧ Free s₀) ∧ ¬Free s)
    {pool : Pool ρ σ} (good : discipline.Good pool) (held : discipline.inv pool.store)
    (schedule : List Nat) (meets : pool.Meets handle condition schedule)
    (start : pool.AtMostOne handle claims) :
    (pool.exec handle schedule).AtMostOne handle claims := by
  induction schedule generalizing pool with
  | nil => exact start
  | cons position schedule ih =>
    obtain ⟨goodNext, heldNext, _⟩ := discipline.good_step good held position meets.1
    refine ih goodNext heldNext meets.2 ?_
    -- A thread that answers at this step saw the store free, so no other had answered.
    have fresh : ∀ (at_ : Nat) (thread : Thread ρ σ),
        (pool.step handle position).threads[at_]? = some thread → claims thread.request →
        (∃ value, thread.prog handle = .ret value) →
        pool.threads[at_]? = some thread ∨ (at_ = position ∧ Free pool.store) := by
      intro at_ thread located claimed ⟨value, answered⟩
      by_cases here : at_ = position
      -- A thread that did not step had answered before.
      · subst here
        have concluded := (granted _ _ _ _ claimed (discipline.post_of_good goodNext
          (List.mem_of_getElem? located) answered)).1
        rcases Pool.step_cases handle pool at_ with unchanged | ⟨before, at', step⟩
        · exact .inl (unchanged ▸ located)
        · have bound := (List.getElem?_eq_some_iff.mp at').1
          -- The thread that has stepped saw the store before the step, which was free.
          have saw : thread = before.saw pool.store := by
            rcases step with ⟨_, _, stepped⟩ | ⟨_, _, _, stepped⟩ <;>
              simpa [stepped, bound, eq_comm] using located
          subst saw
          obtain ⟨s₀, last, free⟩ := concluded
          obtain rfl : pool.store = s₀ := by simpa using last
          exact .inr ⟨rfl, free⟩
      · exact .inl (by rwa [Pool.step_other handle pool here] at located)
    intro first second thread other located located' claimed claimed' answered answered'
    -- Whoever answered before leaves the store taken.
    have taken : ∀ (at_ : Nat) (thread : Thread ρ σ), pool.threads[at_]? = some thread →
        claims thread.request → (∃ value, thread.prog handle = .ret value) → ¬Free pool.store := by
      intro at_ thread here claim ⟨value, done⟩
      exact (granted _ _ _ _ claim
        (discipline.post_of_good good (List.mem_of_getElem? here) done)).2
    -- Two threads cannot both have answered, unless they are one.
    rcases fresh first thread located claimed answered with old | ⟨here, free⟩
    · rcases fresh second other located' claimed' answered' with old' | ⟨here', free'⟩
      · exact start first second thread other old old' claimed claimed' answered answered'
      · exact absurd free' (taken first thread old claimed answered)
    · rcases fresh second other located' claimed' answered' with old' | ⟨here', free'⟩
      · exact absurd free (taken second other old' claimed' answered')
      · exact here.trans here'.symm

end Discipline

/-! Steps that leave the store alone can be struck from a schedule. -/

section Erasure

variable (handle : ρ → Prog σ ε α)

/-- Two pools share a store and agree on the requests outside a set of positions. -/
def Pool.AgreeOff (erased : Nat → Prop) (pool other : Pool ρ σ) : Prop :=
  pool.store = other.store ∧ ∀ position, ¬erased position →
    pool.threads[position]? = other.threads[position]?

/-- Every step taken at an erased position along the schedule leaves the store as it was. -/
def Pool.Idle (erased : Nat → Prop) : Pool ρ σ → List Nat → Prop
  | _, [] => True
  | pool, position :: schedule =>
    (erased position → (pool.step handle position).store = pool.store) ∧
    (pool.step handle position).Idle erased schedule

/-- Agreeing pools stay in agreement when both take a step outside the erased positions. -/
theorem Pool.AgreeOff.step {erased : Nat → Prop} {pool other : Pool ρ σ}
    (agree : pool.AgreeOff erased other) {position : Nat} (kept : ¬erased position) :
    (pool.step handle position).AgreeOff erased (other.step handle position) := by
  have same := agree.2 position kept
  have store := agree.1
  constructor
  -- Both pools let the same thread step in the same store.
  · simp only [Pool.step, ← same, ← store]
    split
    · exact store
    · split <;> first | exact store | rfl
  · intro at_ outside
    -- The step changes its own position alone, and both pools hold the same thread there.
    by_cases here : at_ = position
    · subst here
      have bound : at_ < pool.threads.length ↔ at_ < other.threads.length := by
        rw [← Nat.not_le, ← Nat.not_le, ← List.getElem?_eq_none_iff, ← List.getElem?_eq_none_iff, same]
      simp only [Pool.step, ← same, ← store]
      split
      · exact same
      · split <;> first | exact same | simp [List.getElem?_set, bound]
    · rw [Pool.step_other handle pool here, Pool.step_other handle other here]
      exact agree.2 at_ outside

/-- Erasing idle positions from a schedule leaves the final store unchanged. -/
theorem Pool.exec_erase (erased : Nat → Prop) [DecidablePred erased] {pool other : Pool ρ σ}
    (agree : pool.AgreeOff erased other) (schedule : List Nat)
    (idle : pool.Idle handle erased schedule) :
    (pool.exec handle schedule).store =
      (other.exec handle (schedule.filter fun position => ¬erased position)).store := by
  -- The second pool takes only the kept steps, and agreement holds after each of them.
  induction schedule generalizing pool other with
  | nil => exact agree.1
  | cons position schedule ih =>
    rw [Pool.exec_cons]
    -- A step that is erased left the store alone, and its thread is not compared.
    by_cases gone : erased position
    · rw [List.filter_cons_of_neg (by simpa using gone)]
      refine ih ⟨(idle.1 gone).trans agree.1, fun at_ outside => ?_⟩ idle.2
      have apart : at_ ≠ position := fun same => outside (same ▸ gone)
      rw [Pool.step_other handle pool apart]
      exact agree.2 at_ outside
    · rw [List.filter_cons_of_pos (by simpa using gone), Pool.exec_cons]
      exact ih (agree.step handle gone) idle.2

/-- A step keeps the request at each position. -/
theorem Pool.step_request (pool : Pool ρ σ) (position at_ : Nat) {thread : Thread ρ σ}
    (located : (pool.step handle position).threads[at_]? = some thread) :
    ∃ before, pool.threads[at_]? = some before ∧ before.request = thread.request := by
  have same := congrArg (fun requests => requests[at_]?) (Pool.step_requests handle pool position)
  simp only [List.getElem?_map, located, Option.map_some] at same
  exact Option.map_eq_some_iff.mp same.symm

end Erasure

/-- Where certain requests' writes leave a lasting mark, a run that ends unmarked had none of them. -/
theorem Discipline.idle_of_unmarked {handle : ρ → Prog σ ε α} {condition : Thread ρ σ → σ → Prop}
    (discipline : Discipline handle condition) (claims : ρ → Prop) (Marked : σ → Prop)
    (marks : ∀ request history s s', claims request → discipline.inv s → s' ≠ s →
      discipline.guar request history s s' → Marked s')
    (lasts : ∀ request s s', discipline.rely request s s' → Marked s → Marked s')
    {erased : Nat → Prop} {pool : Pool ρ σ} (good : discipline.Good pool)
    (held : discipline.inv pool.store) (schedule : List Nat)
    (meets : pool.Meets handle condition schedule)
    (claimed : ∀ (position : Nat) (thread : Thread ρ σ), erased position →
      pool.threads[position]? = some thread → claims thread.request)
    (unmarked : ¬Marked (pool.exec handle schedule).store) : pool.Idle handle erased schedule := by
  -- A write of a claimed thread marks the store, and the mark lasts to the end of the schedule.
  induction schedule generalizing pool with
  | nil => trivial
  | cons position schedule ih =>
    obtain ⟨goodNext, heldNext, _⟩ := discipline.good_step good held position meets.1
    refine ⟨fun gone => ?_, ih goodNext heldNext meets.2 (fun at_ thread outside located => ?_) unmarked⟩
    -- A write at this step would have left a mark that is never wiped out.
    · by_contra changed
      cases located : pool.threads[position]? with
      | none => exact changed (by simp [Pool.step, located])
      | some thread =>
        rcases discipline.guar_of_good good located with same | wrote
        · exact changed same
        · have mark := marks _ _ _ _ (claimed position thread gone located) held changed wrote
          have later := (discipline.good_exec goodNext heldNext schedule meets.2).2.2 thread.request
          exact unmarked (lasts _ _ _ later mark)
    · obtain ⟨before, here, same⟩ := Pool.step_request handle pool position at_ located
      exact same ▸ claimed at_ before outside here

end PocketMint
