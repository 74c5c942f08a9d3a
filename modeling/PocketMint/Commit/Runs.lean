import PocketMint.Commit.Evolution
import PocketMint.Commit.Posting

/-! From what one write keeps to what whole runs keep, one at a time or interleaved. -/

namespace PocketMint

open Prog

variable {zone : Zone}

/-! Calls executed one at a time. -/

/-- A call keeps what each of its writes keeps; the store of its first step is the one it is given. -/
theorem serve_preserves {holds : Store → Prop} {s : Store} {call : Call} (numbered : s.Numbered)
    (kept : ∀ seen s₁ s', (seen ++ [s₁]).head? = some s → holds s₁ →
      Commit Eq zone call seen s₁ s' → holds s') (start : holds s) :
    holds (serve zone s call).2 := by
  -- Alone, a request sees no writes but its own, and each of them is a commit.
  have outline : (handle zone call).Sat Eq
      (fun seen s₁ s' => (seen ++ [s₁]).head? = some s → holds s₁ → holds s')
      (Replied Eq zone call) [] s := by
    refine (handle_sat Reading.alone numbered).mono (fun _ _ same => same) ?_ fun _ _ _ done => done
    rintro seen s₁ s' (rfl | commit) first held
    · exact held
    · exact kept seen s₁ s' first held commit
  exact run_preserves outline rfl start

/-- A call that posts transactions writes at most once, to the store it is given. -/
theorem serve_posts_once {s : Store} {call : Call} (numbered : s.Numbered)
    (posts : (∃ input, call.request = .createTransaction input) ∨
      ∃ input, call.request = .payInstallment input) :
    (serve zone s call).2 = s ∨ ∃ seen, Commit Eq zone call seen s (serve zone s call).2 := by
  -- The store is untouched, or it is the outcome of one commit.
  let holds (s' : Store) : Prop := s' = s ∨ ∃ seen, Commit Eq zone call seen s s'
  suffices kept : ∀ seen s₁ s', (seen ++ [s₁]).head? = some s → holds s₁ →
      Commit Eq zone call seen s₁ s' → holds s' from serve_preserves numbered kept (.inl rfl)
  refine fun seen s₁ s' first _ commit => .inr ⟨seen, ?_⟩
  -- What the call read first it read in the store it writes to.
  suffices early : ∃ s₀, seen.head? = some s₀ ∧ s₀ = s₁ by
    obtain ⟨_, here, rfl⟩ := early
    obtain rfl : _ = s := by simpa [List.head?_append, here] using first
    exact commit
  cases commit with
  | regularCreated asked made early => exact early
  | creditCreated asked made early => exact early
  -- A payment reads its instalment first.
  | installmentPaid asked made =>
    obtain ⟨s₀, here, same, -⟩ := made.read
    exact ⟨s₀, here, same⟩
  -- No other request creates a row of the two kinds.
  | _ asked => simp [asked] at posts

/-- A call that reports a transaction as written has posted it to the store it was given. -/
theorem serve_posting {s : Store} {call : Call} {row : Transaction} (numbered : s.Numbered)
    (posted : reported (serve zone s call).1 = some row) :
    ∃ seen, Posting Eq zone call seen row s (serve zone s call).2 := by
  obtain ⟨response, accepted, posted⟩ := reported_eq_some.mp posted
  -- An answer that reports a row is that of a run which ended.
  have ran : (handle zone call).run s = (.ok response, (serve zone s call).2) :=
    Prod.ext accepted rfl
  -- The outline says which commit has written the reported row.
  have outline : (handle zone call).Sat Eq _ (Replied Eq zone call) [] s :=
    handle_sat Reading.alone numbered
  obtain ⟨history, first, -, wrote⟩ := run_answers outline rfl ran
  obtain ⟨seen, before, rfl, commit, posts⟩ := wrote row posted
  have posting := commit.posting posts
  obtain ⟨s₀, here, rfl⟩ := posting.early
  -- What the call saw first is what it was given.
  obtain rfl : s₀ = s := by simpa [List.head?_append, here] using first
  exact ⟨seen, posting⟩

/-- Calls draw the identifiers of new rows from the counter. -/
theorem serve_numbered {s : Store} (call : Call) (numbered : s.Numbered) :
    (serve zone s call).2.Numbered :=
  serve_preserves numbered (fun _ _ _ _ held commit => commit.numbered held) numbered

/-- Every call of a run is made in a store that meets a condition. -/
def RunMeets (zone : Zone) (condition : Call → Store → Prop) : Store → List Call → Prop
  | _, [] => True
  | s, call :: calls => condition call s ∧ RunMeets zone condition (serve zone s call).2 calls

instance RunMeets.decidable {condition : Call → Store → Prop}
    [∀ call, DecidablePred (condition call)] :
    ∀ s calls, Decidable (RunMeets zone condition s calls)
  | _, [] => .isTrue trivial
  | s, call :: calls =>
    have : Decidable (RunMeets zone condition (serve zone s call).2 calls) :=
      RunMeets.decidable _ calls
    inferInstanceAs (Decidable (_ ∧ _))

/-- A run of calls of one kind meets the condition that a call is of that kind. -/
theorem runMeets_kind {kind : Call → Prop} {calls : List Call} (all : ∀ call ∈ calls, kind call)
    (s : Store) : RunMeets zone (fun call _ => kind call) s calls := by
  induction calls generalizing s with
  | nil => trivial
  | cons call calls ih =>
    -- The condition is about the call alone, so no store changes it.
    exact ⟨all call List.mem_cons_self, ih (fun other among => all other (.tail _ among)) _⟩

/-- A run whose calls meet a condition keeps what their writes keep. -/
theorem runMeets_preserves {condition : Call → Store → Prop} {holds : Store → Prop}
    (numbers : ∀ s, holds s → s.Numbered)
    (kept : ∀ s call seen s₁ s', condition call s → (seen ++ [s₁]).head? = some s → holds s₁ →
      Commit Eq zone call seen s₁ s' → holds s') {s : Store} {calls : List Call}
    (meets : RunMeets zone condition s calls) (start : holds s) : holds (serveAll zone s calls) := by
  induction calls generalizing s with
  | nil => exact start
  | cons call calls ih =>
    -- One call keeps it, and the rest of the run starts from there.
    exact ih meets.2 (serve_preserves (numbers s start) (kept s call · · · meets.1) start)

/-- Every reachable store satisfies what the empty one does and each write keeps. -/
theorem Reachable.invariant {holds : Store → Prop} (numbers : ∀ s, holds s → s.Numbered)
    (empty : holds .empty)
    (kept : ∀ call seen s s', holds s → Commit Eq zone call seen s s' → holds s') {s : Store}
    (reached : Reachable zone s) : holds s :=
  reached.induct empty fun s call held =>
    serve_preserves (numbers s held) (fun seen s₁ s' _ => kept call seen s₁ s') held

theorem Reachable.numbered {s : Store} (reached : Reachable zone s) : s.Numbered :=
  reached.invariant (fun _ held => held) .empty fun _ _ _ _ held commit => commit.numbered held

/-! Calls whose steps interleave. -/

/-- The pool after some calls have interleaved along a schedule. -/
def interleave (zone : Zone) (s : Store) (calls : List Call) (schedule : List Nat) :
    Pool Call Store :=
  (Pool.start s calls).exec (handle zone) schedule

/-- An answered call stays answered. -/
theorem Answered.later {call : Call} {history : List Store} {s s' : Store}
    (answered : Answered call history s) (evolves : s.Evolves s') : Answered call history s' :=
  fun input asked => ⟨(answered input asked).1, evolves.processed (answered input asked).2⟩

/-- Interleaved calls keep an invariant of the store that each of their writes keeps. -/
def interleaving (zone : Zone) (condition : Thread Call Store → Store → Prop) (inv : Store → Prop)
    (kept : ∀ call seen s s', inv s → condition ⟨call, seen⟩ s →
      Commit (Within inv Store.Evolves) zone call seen s s' → inv s') :
    Discipline (handle zone) condition where
  inv := inv
  rely _ := Within inv Store.Evolves
  guar call seen s s' := s' = s ∨ Commit (Within inv Store.Evolves) zone call seen s s'
  post call response history s := Answered call history s ∧ (handle zone call).AnsweredBy
    (Replied (Within inv Store.Evolves) zone call) response history
  refl _ := .refl
  trans _ := .trans .trans
  stable _ _ _ _ _ answered moved := ⟨answered.1.later (moved.moved .refl), answered.2⟩
  compatible call seen s s' held meets made := by
    by_cases unchanged : s' = s
    · exact ⟨unchanged ▸ held, fun _ => .inl unchanged⟩
    · obtain same | commit := made
      · exact absurd same unchanged
      · have heldNext := kept call seen s s' held (meets unchanged) commit
        exact ⟨heldNext, fun _ => .inr ⟨held, heldNext, commit.evolves⟩⟩

/-- Calls that have just arrived start a good pool. -/
theorem interleaving_start {condition : Thread Call Store → Store → Prop} {inv : Store → Prop}
    {kept} (numbers : ∀ s, inv s → s.Numbered) {s : Store} (held : inv s) (calls : List Call) :
    (interleaving zone condition inv kept).Good (Pool.start s calls) :=
  Discipline.good_start _ fun _ _ => (handle_sat (.within numbers) (numbers s held)).answeredBy.mono
    (fun _ _ same => same) (fun _ _ _ done => done) fun _ _ _ replied => ⟨replied.1.1, replied.2⟩

/-- A step that answers with a transaction has posted it. -/
theorem interleaving_posting {condition : Thread Call Store → Store → Prop} {inv : Store → Prop}
    {kept} {pool : Pool Call Store}
    (good : (interleaving zone condition inv kept).Good pool) {position : Nat}
    {thread : Thread Call Store} {response : Response} {row : Transaction}
    (answers : pool.answering (handle zone) position = some (thread, response))
    (posted : response.posted = some row) :
    Posting (Within inv Store.Evolves) zone thread.request thread.seen row pool.store
      (pool.step (handle zone) position).store := by
  obtain ⟨-, -, wrote⟩ := Discipline.answering _ good answers fun _ _ _ answered => answered.2
  obtain ⟨seen, before, last, commit, posts⟩ := wrote row posted
  -- The store that was seen last is the one before the step.
  obtain ⟨rfl, same⟩ := List.append_inj' last rfl
  obtain rfl := List.singleton_inj.mp same
  exact commit.posting posts

/-- A good pool stays good, and its store keeps the invariant and evolves. -/
theorem interleaving_exec {condition : Thread Call Store → Store → Prop} {inv : Store → Prop}
    {kept} {pool : Pool Call Store}
    (good : (interleaving zone condition inv kept).Good pool) (held : inv pool.store)
    (schedule : List Nat) (meets : pool.Meets (handle zone) condition schedule) :
    (interleaving zone condition inv kept).Good (pool.exec (handle zone) schedule) ∧
    inv (pool.exec (handle zone) schedule).store ∧
    pool.store.Evolves (pool.exec (handle zone) schedule).store := by
  obtain ⟨goodLast, heldLast, moved⟩ := Discipline.good_exec _ good held schedule meets
  -- Every request relies on the same moves, so any one of them tells how the store moved.
  exact ⟨goodLast, heldLast, (moved { now := 0, request := .getNetWorth 0 }).moved .refl⟩

end PocketMint
