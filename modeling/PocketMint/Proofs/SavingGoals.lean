import PocketMint.Program.Breach
import PocketMint.Services.SavingGoal

/-! The status of a saving goal agrees with its amounts as long as no request writes from a stale copy. -/

namespace PocketMint

open Prog SavingGoalService

/-- A goal that is not archived is completed when its target is reached, and active when it is not. -/
def SavingGoal.StatusAgrees (goal : SavingGoal) : Prop :=
  goal.status ≠ .archived →
    (goal.status = .completed ↔ goal.targetAmount ≤ goal.currentAmount) ∧
    (goal.status = .active ↔ goal.currentAmount < goal.targetAmount)

/-- An archived goal is archived later as well, with the same amounts. -/
def SavingGoal.StaysArchived (goal later : SavingGoal) : Prop :=
  goal.status = .archived →
    later.status = .archived ∧ later.currentAmount = goal.currentAmount ∧
      later.targetAmount = goal.targetAmount

namespace SavingGoalStore

/-- The status of every goal agrees with its amounts. -/
def StatusesAgree (s : SavingGoalStore) : Prop := ∀ goal ∈ s.savingGoals.rows, goal.StatusAgrees

/-- Every goal is still there, and archived if it was. -/
def KeepsArchived (s s' : SavingGoalStore) : Prop :=
  ∀ id goal, s.savingGoals.find? id = some goal →
    ∃ later, s'.savingGoals.find? id = some later ∧ goal.StaysArchived later

theorem KeepsArchived.refl (s : SavingGoalStore) : s.KeepsArchived s := by
  intro id goal found
  exact ⟨goal, found, fun archived => ⟨archived, rfl, rfl⟩⟩

theorem KeepsArchived.trans {a b c : SavingGoalStore} (first : a.KeepsArchived b)
    (second : b.KeepsArchived c) :
    a.KeepsArchived c := by
  -- The goal in between is archived because the first one is.
  intro id goal found
  rcases first id goal found with ⟨between, found', stays⟩
  rcases second id between found' with ⟨later, found'', stays'⟩
  refine ⟨later, found'', fun archived => ?_⟩
  rcases stays archived with ⟨archived', current, target⟩
  rcases stays' archived' with ⟨archived'', current', target'⟩
  exact ⟨archived'', current'.trans current, target'.trans target⟩

/-- One goal is rewritten, and no other. -/
def Rewritten (s s' : SavingGoalStore) (row : SavingGoal) (rewrite : SavingGoal → SavingGoal) : Prop :=
  s.savingGoals.find? row.id = some row ∧
  ∃ keeps, s' = { s with savingGoals := s.savingGoals.update row.id rewrite keeps }

variable {s s' : SavingGoalStore} {row : SavingGoal} {rewrite : SavingGoal → SavingGoal}

/-- The rewritten goal is found under its identifier. -/
theorem Rewritten.found (rewritten : s.Rewritten s' row rewrite) :
    s'.savingGoals.find? row.id = some (rewrite row) := by
  rcases rewritten with ⟨present, keeps, rfl⟩
  simp [present]

/-- Every other goal is as it was. -/
theorem Rewritten.others (rewritten : s.Rewritten s' row rewrite) {id : Id} (other : id ≠ row.id) :
    s'.savingGoals.find? id = s.savingGoals.find? id := by
  rcases rewritten with ⟨_, keeps, rfl⟩
  simp [other]

/-- A rewriting is right exactly when it is right about the goal that it rewrites. -/
theorem Rewritten.right_iff (rewritten : s.Rewritten s' row rewrite) (agrees : s.StatusesAgree) :
    s'.StatusesAgree ∧ s.KeepsArchived s' ↔ (rewrite row).StatusAgrees ∧ row.StaysArchived (rewrite row) := by
  -- Only one goal is rewritten, so the question is about that goal alone.
  constructor
  -- The rewritten goal is one of the new store, and the old one is kept in it.
  · rintro ⟨agrees', kept⟩
    refine ⟨agrees' _ (Table.mem_of_find? rewritten.found), ?_⟩
    rcases kept row.id row rewritten.1 with ⟨later, found, stays⟩
    obtain rfl : rewrite row = later := Option.some.inj (rewritten.found.symm.trans found)
    exact stays
  · rintro ⟨agree, stay⟩
    constructor
    -- Every goal is the rewritten one or an old one.
    · intro goal among
      have found := Table.find?_of_mem among
      by_cases same : Keyed.key goal = row.id
      · -- Identifiers are unique, so this is the rewritten goal.
        rw [same, rewritten.found] at found
        exact Option.some.inj found ▸ agree
      · rw [rewritten.others same] at found
        exact agrees goal (Table.mem_of_find? found)
    -- An archived goal is the one that was rewritten, or it is there as before.
    · intro id goal found
      by_cases same : id = row.id
      · subst same
        obtain rfl : row = goal := Option.some.inj (rewritten.1.symm.trans found)
        exact ⟨rewrite row, rewritten.found, stay⟩
      · exact ⟨goal, (rewritten.others same).trans found, fun archived => ⟨archived, rfl, rfl⟩⟩

end SavingGoalStore

/-- The amount a client sends, in cents. -/
def DecimalInput.money (value : DecimalInput) : Option Decimal :=
  match value.decimal with
  | some (.finite amount) => some (amount.toDecimalPlaces 2)
  | _ => none

/-- The target of a goal once an update has been written to it. -/
def UpdateSavingGoalInput.target (input : UpdateSavingGoalInput) (goal : SavingGoal) : Decimal :=
  match input.targetAmount with
  | .given value => value.money.getD goal.targetAmount
  | _ => goal.targetAmount

/-- The amount saved that a client reports. -/
def UpdateSavingGoalProgressInput.amount (input : UpdateSavingGoalProgressInput) : Decimal :=
  ((input.currentAmount.getD (.exact 0)).money).getD 0

theorem newDecimal_money {value : DecimalInput} {number : Numeric} {amount : Decimal}
    (made : newDecimal value = .ok number)
    (column : columnValue (SavingGoalService.toMoney number) = .ok amount) :
    value.money = some amount := by
  unfold newDecimal at made
  -- A text that is no number is refused, and what is not finite is refused by the column.
  cases sent : value.decimal with
  | none => simp [sent] at made
  | some decimal =>
    simp only [sent, Except.ok.injEq] at made
    subst made
    cases decimal with
    | finite exact_ =>
      simp only [SavingGoalService.toMoney, columnValue, Except.ok.injEq] at column
      simp [DecimalInput.money, sent, column]
    | _ => simp [SavingGoalService.toMoney, columnValue] at column

/-- An accepted target is the one sent, in cents. -/
theorem parseTargetAmount_money {value : DecimalInput} {number : Numeric} {amount : Decimal}
    (parsed : parseTargetAmount (some value) = .ok number) (column : columnValue number = .ok amount) :
    value.money = some amount := by
  unfold parseTargetAmount at parsed
  simp only at parsed
  -- A target that parses was made from the number that was sent.
  split at parsed
  · cases parsed
  · cases made : newDecimal value with
    | error error => simp [made, Bind.bind, Except.bind] at parsed
    | ok decimal =>
      simp only [made, Bind.bind, Except.bind] at parsed
      split at parsed
      · cases parsed
      · cases parsed
        exact newDecimal_money made column

/-- An accepted amount is the one sent, in cents. -/
theorem parseCurrentAmount_money {value : Option DecimalInput} {number : Numeric} {amount : Decimal}
    (parsed : parseCurrentAmount value = .ok number) (column : columnValue number = .ok amount) :
    (value.getD (.exact 0)).money = some amount := by
  unfold parseCurrentAmount at parsed
  -- An amount that parses was made from the number that was sent, or from zero.
  cases made : newDecimal (value.getD (.exact 0)) with
  | error error => simp [made, Bind.bind, Except.bind] at parsed
  | ok decimal =>
    simp only [made, Bind.bind, Except.bind] at parsed
    split at parsed
    · cases parsed
    · cases parsed
      exact newDecimal_money made column

/-- A status that was computed from some amounts agrees with others exactly when they compare the same way. -/
theorem SavingGoal.statusAgrees_iff {goal : SavingGoal} {current target : Decimal}
    (status : goal.status = resolveStatus current target) :
    goal.StatusAgrees ↔ (target ≤ current ↔ goal.targetAmount ≤ goal.currentAmount) := by
  -- The computed status is never archived, so the agreement is about the comparison alone.
  unfold SavingGoal.StatusAgrees
  rw [status, ← not_le]
  unfold resolveStatus
  -- If the target is reached the status says so, and otherwise it is active.
  by_cases reached : target ≤ current
  · simp [reached]
  · simp [reached]

/-- A computed status keeps no archived goal archived. -/
theorem SavingGoal.staysArchived_iff {goal later : SavingGoal} {current target : Decimal}
    (status : later.status = resolveStatus current target) :
    goal.StaysArchived later ↔ goal.status ≠ .archived := by
  unfold SavingGoal.StaysArchived
  rw [status]
  unfold resolveStatus
  split
  · simp
  · simp

/-- The goal that a request in flight has read. -/
def goalRead (seen : List SavingGoalStore) (id userId : Id) : Option SavingGoal :=
  seen.head?.bind fun s => s.ownGoal id userId

/-- What a request about saving goals can write. -/
inductive SavingGoalWrite (call : SavingGoalCall) (seen : List SavingGoalStore) (s s' : SavingGoalStore) :
    Prop where
  | created (input : CreateSavingGoalInput) (targetAmount currentAmount : Decimal)
      (targetDate : Option Instant)
      (rows : Table SavingGoal) (asked : call.request = .createSavingGoal input)
      (inserted : s.savingGoals.insert? (newGoal input targetAmount currentAmount targetDate s.nextId) =
        some rows)
      (after : s' = { nextId := s.nextId + 1, savingGoals := rows })
  | updated (input : UpdateSavingGoalInput) (existing row : SavingGoal) (targetAmount : Decimal)
      (targetDate : Option Instant) (asked : call.request = .updateSavingGoal input)
      (read : goalRead seen input.id input.userId = some existing) (named : row.id = input.id)
      (compared : targetAmount = input.target existing)
      (written : ∀ goal, (if input.targetAmount = .omitted then goal.targetAmount else targetAmount) =
        input.target goal)
      (after : s.Rewritten s' row
        (editedGoal input targetAmount targetDate (resolveStatus existing.currentAmount targetAmount)))
  | progressed (input : UpdateSavingGoalProgressInput) (existing row : SavingGoal)
      (asked : call.request = .updateSavingGoalProgress input)
      (read : goalRead seen input.id input.userId = some existing) (named : row.id = input.id)
      (after : s.Rewritten s' row fun goal =>
        { goal with
          currentAmount := input.amount
          status := resolveStatus input.amount existing.targetAmount })
  | archived (input : ArchiveSavingGoalInput) (row : SavingGoal)
      (asked : call.request = .archiveSavingGoal input)
      (after : s.Rewritten s' row fun goal => { goal with status := .archived })

section Outline

variable {call : SavingGoalCall} {history : List SavingGoalStore} {s : SavingGoalStore}

/-- The guarantee of a request: it leaves the goals alone or makes one of the writes. -/
def SavingGoalCall.guarantee (call : SavingGoalCall) (seen : List SavingGoalStore) (s s' : SavingGoalStore) :
    Prop :=
  s' = s ∨ SavingGoalWrite call seen s s'

/-- A goal that a request finds is read in the store of its first step. -/
theorem findOwned_sat {β : Type} {userId id : Id}
    {guar : List SavingGoalStore → SavingGoalStore → SavingGoalStore → Prop}
    {post : β → List SavingGoalStore → SavingGoalStore → Prop}
    {rest : SavingGoal → Prog SavingGoalStore Failure β}
    (next : ∀ existing seen s, goalRead seen id userId = some existing →
      (rest existing).Sat (fun _ _ => True) guar post seen s) :
    (findOwned userId id >>= rest).Sat (fun _ _ => True) guar post [] s := by
  unfold findOwned
  rw [bind_bind]
  refine sat_query_bind fun s₁ _ => sat_orThrow_bind fun existing found => ?_
  exact next existing _ _ (by simpa [goalRead] using found)

/-- A rewriting that is written is one of the goal that is stored under the identifier. -/
theorem updateGoal_sat {id : Id} {rewrite : SavingGoal → SavingGoal}
    {keeps : ∀ row, (rewrite row).id = row.id}
    (wrote : ∀ s s' row, row.id = id → s.Rewritten s' row rewrite → SavingGoalWrite call history s s') :
    (updateGoal id rewrite keeps).Sat (fun _ _ => True) call.guarantee (fun _ _ _ => True) history s := by
  refine sat_transact (fun _ _ => .inl rfl) fun s₁ value s' _ done => ⟨?_, trivial⟩
  -- The update needs its row, and rewrites it alone.
  cases present : s₁.savingGoals.find? id with
  | none => simp [present] at done
  | some row =>
    simp only [present] at done
    -- The row must be there, and the rewriting passes the key.
    split at done
    · cases done
    · cases done
      obtain rfl : row.id = id := Table.key_of_find? present
      exact .inr (wrote _ _ row rfl ⟨present, keeps, rfl⟩)

end Outline

/-- Whatever the other requests do, a request leaves the goals alone or makes one of the writes. -/
theorem handleSavingGoal_sat (zone : Zone) (call : SavingGoalCall) (s : SavingGoalStore) :
    (handleSavingGoal zone call).Sat (fun _ _ => True) call.guarantee (fun _ _ _ => True) [] s := by
  unfold handleSavingGoal
  cases asked : call.request with
  | getSavingGoal input =>
    -- Reading writes nothing.
    show (findOwned input.userId input.id).Sat _ _ _ _ _
    unfold findOwned
    refine sat_query_bind fun s₁ _ => ?_
    cases s₁.ownGoal input.id input.userId with
    | none => exact sat_fail
    | some goal => exact sat_ret.mpr trivial
  | createSavingGoal input =>
    -- The new goal takes what was sent, after the checks.
    show (createSavingGoal zone call.now input).Sat _ _ _ _ _
    unfold createSavingGoal
    refine sat_throwIf_bind fun _ => sat_ofExcept_bind fun _ _ => sat_ofExcept_bind fun _ _ => ?_
    refine sat_ofExcept_bind fun targetDate _ => sat_ofExcept_bind fun targetAmount _ => ?_
    refine sat_ofExcept_bind fun currentAmount _ => ?_
    refine sat_transact (fun _ _ => .inl rfl) fun s₁ value s' _ done => ⟨?_, trivial⟩
    split at done
    · cases done
    · split at done
      · cases done
      · rename_i rows inserted
        cases done
        exact .inr (.created input targetAmount currentAmount targetDate rows asked inserted rfl)
  | updateSavingGoal input =>
    -- The goal is read first, and the update is computed from that reading.
    show (updateSavingGoal zone call.now input).Sat _ _ _ _ _
    unfold updateSavingGoal
    refine findOwned_sat fun existing seen s read => ?_
    refine sat_throwIf_bind fun _ => sat_throwIf_bind fun _ => sat_ofExcept_bind fun number parsed => ?_
    refine sat_ofExcept_bind fun targetDate _ => sat_ofExcept_bind fun targetAmount column => ?_
    refine updateGoal_sat fun s₁ s' row named rewritten => ?_
    -- What is compared is the target sent, or else the target read.
    have target : targetAmount = input.target existing ∧
        ∀ goal, (if input.targetAmount = .omitted then goal.targetAmount else targetAmount) =
            input.target goal := by
      unfold UpdateSavingGoalInput.target
      cases sent : input.targetAmount with
      | omitted =>
        simp only [sent, Except.ok.injEq] at parsed
        subst parsed
        simp only [columnValue, Except.ok.injEq] at column
        exact ⟨column.symm, fun goal => rfl⟩
      | null =>
        simp only [sent] at parsed
        cases parsed
      | given value =>
        simp only [sent] at parsed
        simp [parseTargetAmount_money parsed column]
    exact .updated input existing row targetAmount targetDate asked read named target.1 target.2 rewritten
  | updateSavingGoalProgress input =>
    -- The progress is computed from the goal that was read.
    show (updateSavingGoalProgress input).Sat _ _ _ _ _
    unfold updateSavingGoalProgress
    refine findOwned_sat fun existing seen s read => ?_
    refine sat_throwIf_bind fun _ => sat_ofExcept_bind fun number parsed => ?_
    refine sat_ofExcept_bind fun currentAmount column => ?_
    refine updateGoal_sat fun s₁ s' row named rewritten => ?_
    obtain rfl : input.amount = currentAmount := by
      simp [UpdateSavingGoalProgressInput.amount, parseCurrentAmount_money parsed column]
    exact .progressed input existing row asked read named rewritten
  | archiveSavingGoal input =>
    -- The archiving rewrites the goal as it is found.
    show (archiveSavingGoal input).Sat _ _ _ _ _
    unfold archiveSavingGoal
    refine findOwned_sat fun existing seen s read => sat_throwIf_bind fun _ => ?_
    exact updateGoal_sat fun s₁ s' row named rewritten => .archived input row asked rewritten

/--
Nothing has happened between a request's read and its write that the write would get wrong.

The goal has not been archived, and the amounts compare as they did when they were read.
-/
def GoalUndisturbed (thread : Thread SavingGoalCall SavingGoalStore) (s : SavingGoalStore) : Prop :=
  match thread.request.request with
  | .updateSavingGoal input =>
    ∀ existing ∈ goalRead thread.seen input.id input.userId, ∀ row ∈ s.savingGoals.find? input.id,
      row.status ≠ .archived ∧
      (input.target existing ≤ existing.currentAmount ↔ input.target row ≤ row.currentAmount)
  | .updateSavingGoalProgress input =>
    ∀ existing ∈ goalRead thread.seen input.id input.userId, ∀ row ∈ s.savingGoals.find? input.id,
      row.status ≠ .archived ∧ (existing.targetAmount ≤ input.amount ↔ row.targetAmount ≤ input.amount)
  | _ => True

/-- A new goal is right about itself, and leaves the others as they are. -/
theorem SavingGoalStore.created_right {s : SavingGoalStore} {row : SavingGoal}
    {rows : Table SavingGoal} {nextId : Id}
    (agrees : s.StatusesAgree) (agree : row.StatusAgrees) (inserted : s.savingGoals.insert? row = some rows) :
    ({ nextId, savingGoals := rows } : SavingGoalStore).StatusesAgree ∧
    s.KeepsArchived { nextId, savingGoals := rows } := by
  constructor
  -- The old goals agree, and the new one does.
  · intro goal among
    rcases (Table.mem_insert inserted).mp among with old | rfl
    · exact agrees goal old
    · exact agree
  · intro id goal found
    have free := (Table.insert?_eq_some_iff.mp inserted).1
    -- The identifier of the new goal was free, so it is not the one that is found.
    have apart : Keyed.key row ≠ id := by
      rintro rfl
      rw [free] at found
      cases found
    refine ⟨goal, ?_, fun archived => ⟨archived, rfl, rfl⟩⟩
    rw [Table.find?_insert inserted, if_neg apart]
    exact found

/-- A write that is taken where all is right leaves all right exactly when it was undisturbed. -/
theorem SavingGoalWrite.right_iff {call : SavingGoalCall} {seen : List SavingGoalStore}
    {s s' : SavingGoalStore}
    (write : SavingGoalWrite call seen s s') (agrees : s.StatusesAgree) :
    s'.StatusesAgree ∧ s.KeepsArchived s' ↔ GoalUndisturbed ⟨call, seen⟩ s := by
  -- A new goal is right by its check, and the others rewrite one row.
  cases write with
  | created input targetAmount currentAmount targetDate rows asked inserted after =>
    subst after
    have agree : (newGoal input targetAmount currentAmount targetDate s.nextId).StatusAgrees :=
      (SavingGoal.statusAgrees_iff rfl).mpr Iff.rfl
    simp [GoalUndisturbed, asked, SavingGoalStore.created_right agrees agree inserted]
  -- The status was computed from the goal that was read.
  | updated input existing row targetAmount targetDate asked read named compared written after =>
    subst compared
    rw [after.right_iff agrees, SavingGoal.statusAgrees_iff rfl, SavingGoal.staysArchived_iff rfl]
    have target : (editedGoal input (input.target existing) targetDate
        (resolveStatus existing.currentAmount (input.target existing)) row).targetAmount = input.target row :=
      written row
    have current : (editedGoal input (input.target existing) targetDate
        (resolveStatus existing.currentAmount (input.target existing)) row).currentAmount =
          row.currentAmount := rfl
    -- The goal that is rewritten is the stored one.
    have stored := after.1
    rw [named] at stored
    rw [target, current]
    simp [GoalUndisturbed, asked, read, stored, and_comm]
  -- The progress compares with the target that was read.
  | progressed input existing row asked read named after =>
    rw [after.right_iff agrees, SavingGoal.statusAgrees_iff rfl, SavingGoal.staysArchived_iff rfl]
    have stored := after.1
    rw [named] at stored
    simp [GoalUndisturbed, asked, read, stored, and_comm]
  -- An archived goal has the status that it is given.
  | archived input row asked after =>
    rw [after.right_iff agrees]
    simp [GoalUndisturbed, asked, SavingGoal.StatusAgrees, SavingGoal.StaysArchived]

/--
In every interleaving of requests about saving goals, the status of every goal agrees with its amounts and
archived goals stay as they are at all times exactly when every write was undisturbed.
-/
theorem savingGoals_right_iff (zone : Zone) (calls : List SavingGoalCall) (schedule : List Nat) :
    (∀ earlier middle, earlier ++ middle <+: schedule →
      (interleaveSavingGoals zone calls earlier).store.StatusesAgree ∧
      (interleaveSavingGoals zone calls earlier).store.KeepsArchived
        (interleaveSavingGoals zone calls (earlier ++ middle)).store) ↔
    (Pool.start .empty calls).Meets (handleSavingGoal zone) GoalUndisturbed schedule := by
  -- Each write is judged by itself, in a store where all was right before it.
  have decides : ∀ call seen s s', SavingGoalStore.StatusesAgree s → s' ≠ s →
      SavingGoalCall.guarantee call seen s s' →
      (s'.StatusesAgree ∧ s.KeepsArchived s' ↔ GoalUndisturbed ⟨call, seen⟩ s) := by
    intro call seen s s' agrees changed wrote
    exact (wrote.resolve_left changed).right_iff agrees
  -- The discipline holds from the start, and the empty store is right.
  have good : (Discipline.unrestricted (handleSavingGoal zone) SavingGoalCall.guarantee).Good
      (Pool.start .empty calls) := by
    apply Discipline.good_start
    intro call _
    exact handleSavingGoal_sat zone call .empty
  have start : (Pool.start .empty calls : Pool SavingGoalCall SavingGoalStore).store.StatusesAgree := by
    intro goal among
    cases among
  exact Pool.staysSafe_iff_meets SavingGoalStore.KeepsArchived.refl
    SavingGoalStore.KeepsArchived.trans decides good
    start schedule

/-- A goal of 100, and requests that report 60 saved, lower the target to 50, and archive the goal. -/
def goalRace : List SavingGoalCall :=
  [{ now := 0, request := .createSavingGoal
        { userId := 1, name := "Laptop", targetAmount := some (.exact 100) } },
    { now := 0, request := .updateSavingGoalProgress
        { userId := 1, id := 0, currentAmount := some (.exact 60) } },
    { now := 0, request := .updateSavingGoal { userId := 1, id := 0, targetAmount := .given (.exact 50) } },
    { now := 0, request := .archiveSavingGoal { userId := 1, id := 0 } }]

/--
Progress and a lower target that are both read before either is written leave a reached goal active, and
progress that is read before the goal is archived takes it out of the archive.
-/
theorem savingGoals_race :
    let reached := interleaveSavingGoals defaultTimezone.zone goalRace [0, 1, 2, 1, 2]
    let shelved := interleaveSavingGoals defaultTimezone.zone goalRace [0, 1, 3, 3]
    let revived := interleaveSavingGoals defaultTimezone.zone goalRace [0, 1, 3, 3, 1]
    (reached.store.savingGoals.rows.map fun goal => (goal.status, goal.currentAmount, goal.targetAmount)) =
      [(.active, 60, 50)] ∧
    (shelved.store.savingGoals.rows.map fun goal => (goal.status, goal.currentAmount)) = [(.archived, 0)] ∧
    (revived.store.savingGoals.rows.map fun goal => (goal.status, goal.currentAmount)) = [(.active, 60)] ∧
    ¬reached.store.StatusesAgree ∧ ¬shelved.store.KeepsArchived revived.store := by
  intro reached shelved revived
  -- What the schedules leave is evaluated, and each goal there contradicts one of the two rules.
  have active : ∃ goal ∈ reached.store.savingGoals.rows,
      goal.status = .active ∧ goal.targetAmount ≤ goal.currentAmount := by
    decide +kernel
  have archived : ∃ goal ∈ shelved.store.savingGoals.find? 0, goal.status = .archived := by decide +kernel
  have left : (revived.store.savingGoals.find? 0).map SavingGoal.status = some .active := by decide +kernel
  refine ⟨by decide +kernel, by decide +kernel, by decide +kernel, ?_, ?_⟩
  -- The active goal has reached its target.
  · intro agrees
    rcases active with ⟨goal, among, status, enough⟩
    have short := ((agrees goal among (by simp [status])).2.mp status)
    exact absurd enough (not_le.mpr short)
  -- The archived goal is active again.
  · intro kept
    rcases archived with ⟨goal, found, status⟩
    rcases kept 0 goal found with ⟨later, found', stays⟩
    rw [found', Option.map_some, (stays status).1] at left
    cases left

end PocketMint
