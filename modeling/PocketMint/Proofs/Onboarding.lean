import PocketMint.Proofs.Isolation

/-! Whoever has signed up has every default category once, in any interleaving of requests. -/

namespace PocketMint

open Prog ApiStore

/-- How many categories of a type and a name a user has. -/
def ApiStore.categoryCount (t : ApiStore) (userId : Id) (entry : CategoryType × String) : Nat :=
  t.records.toStore.categoryKeys.count (userId, entry)

/-- A user signs up twice at once, and asks for the categories in the meantime. -/
def signUps : List HttpRequest :=
  [{ now := 0, authorization := some "Bearer alice", target := .syncUser none (some "Alice") },
    { now := 1, authorization := some "Bearer alice", target := .syncUser none (some "Alice") },
    { now := 2, authorization := some "Bearer alice", target := .endpoint .getCategories }]

/--
Neither synchronization has found the user when the first creates it; the categories are then added by turns.
-/
def signUpSchedule : List Nat := [0, 1, 0, 1, 2] ++ (List.replicate 12 [0, 2]).flatten ++ [2]

section Onboarding

variable (jwtVerify : Instant → String → Option JwtPayload) (zone : Zone) {t : ApiStore} (sound : t.Sound)
  (requests : List HttpRequest) (schedule : List Nat)

include sound

/--
In every interleaving of requests, also of requests that sign the same user up at once, no user ever has a
category twice; and once a synchronization or a list of categories has answered, its caller has every default
category exactly once from then on.
-/
theorem defaults_exactly_once (position : Nat) {request : HttpRequest}
    (asked : requests[position]? = some request)
    (onboards : request.Onboards) {userId : Id} (caller : request.caller jwtVerify = some userId)
    {answer : Answer}
    (answered : (interleaveHttp jwtVerify zone t requests schedule).answerOf
      (handleHttp jwtVerify zone) position =
      some answer) (further : List Nat) :
    let later := (interleaveHttp jwtVerify zone t requests (schedule ++ further)).store
    (∀ owner entry, later.categoryCount owner entry ≤ 1) ∧
    ∀ entry ∈ CategoryService.defaultCategories, later.categoryCount userId entry = 1 := by
  intro later
  -- The run is cut where the answer stands, and what follows only moves the store.
  have good := httpDiscipline_start jwtVerify zone sound requests
  obtain ⟨goodNow, soundNow, _⟩ :=
    (httpDiscipline jwtVerify zone).good_exec good sound schedule (Pool.meets_trivial _ _)
  obtain ⟨_, soundLater, moved⟩ :=
    (httpDiscipline jwtVerify zone).good_exec goodNow soundNow further (Pool.meets_trivial _ _)
  rw [← Pool.exec_append] at soundLater moved
  -- No entry is ever there twice, as the names of a user's categories are distinct.
  have most : ∀ owner entry, later.categoryCount owner entry ≤ 1 := fun owner entry =>
    List.nodup_iff_count_le_one.mp soundLater.distinct _
  refine ⟨most, fun entry among => le_antisymm (most userId entry) ?_⟩
  -- What was concluded when the request answered still holds.
  obtain ⟨_, concluded⟩ := (httpDiscipline jwtVerify zone).post_of_answer goodNow asked answered
  have has := concluded onboards userId caller entry among
  exact List.one_le_count_iff.mpr (((moved request).moved Moves.refl).hasCategory has)

end Onboarding

/-- One of the two synchronizations fails, and the user has each category once. -/
theorem defaults_exactly_once_signUps :
    let pool := interleaveHttp tokens defaultTimezone.zone .empty signUps signUpSchedule
    (pool.answerOf (handleHttp tokens defaultTimezone.zone) 1).isNone ∧
    (pool.store.users.rows.map User.name) = ["Alice"] ∧
    ∀ entry ∈ CategoryService.defaultCategories, pool.store.categoryCount 1 entry = 1 := by
  intro pool
  have observed : (pool.answerOf (handleHttp tokens defaultTimezone.zone) 1).isNone ∧
      (pool.answerOf (handleHttp tokens defaultTimezone.zone) 2).isSome ∧
      (pool.store.users.rows.map User.name) = ["Alice"] := by decide +kernel
  obtain ⟨refused, answered, users⟩ := observed
  obtain ⟨answer, same⟩ := Option.isSome_iff_exists.mp answered
  have asked : signUps[2]? = some signUps[2] := rfl
  have caller : signUps[2].caller tokens = some 1 := by decide +kernel
  have counted := defaults_exactly_once tokens defaultTimezone.zone .empty signUps
    signUpSchedule 2 asked trivial
    caller same []
  exact ⟨refused, users, counted.2⟩

end PocketMint
