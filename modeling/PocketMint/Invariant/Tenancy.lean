import PocketMint.Invariant.OwnGoals
import PocketMint.Invariant.OwnWrites
import PocketMint.Proofs.BudgetLifecycle
import PocketMint.System.Api

/-! Every route writes for its caller alone. -/

namespace PocketMint

open Prog

/-- All that one user has. -/
@[ext] structure Holdings where
  core : Store
  budgets : Table Budget
  goals : Table SavingGoal

namespace ApiStore

/-- The rows of one user, in every table but the users'. -/
def holdings (t : ApiStore) (userId : Id) : Holdings where
  core := t.records.toStore.rowsOf userId
  budgets := t.records.budgets.filter fun row => row.userId = userId
  goals := t.goals.savingGoals.filter fun row => row.userId = userId

/--
Keys point to rows of the same user, categories differ, budgets are sound, and whoever has a row is known.
-/
structure Sound (t : ApiStore) : Prop where
  core : t.records.toStore.Intact
  distinct : t.records.toStore.categoryKeys.Nodup
  budgets : t.records.Sound
  known : ∀ userId, t.users.find? userId = none → t.holdings userId = ApiStore.empty.holdings userId

/-- The database before the first request is sound. -/
theorem Sound.empty : ApiStore.empty.Sound where
  core := ⟨.empty, .empty⟩
  distinct := List.nodup_nil
  budgets :=
    { numbered := fun _ member => by cases member
      eligible := fun _ member => by cases member
      payable := fun _ member => by cases member }
  known _ _ := rfl

/-- How the database moves: users stay as they are, and other rows keep their users. -/
structure Moves (t t' : ApiStore) : Prop where
  users : ∀ id row, t.users.find? id = some row → t'.users.find? id = some row
  core : t.records.toStore.Evolves t'.records.toStore
  budgets : t.records.Grows t'.records
  goals : t.goals.KeepsOwners t'.goals

/-- A write of one user leaves the database sound, and every other user's rows alone. -/
structure OwnWrite (userId : Id) (t t' : ApiStore) : Prop where
  sound : t'.Sound
  moves : t.Moves t'
  spares : ∀ other, userId ≠ other →
    t'.holdings other = t.holdings other ∧ t'.users.find? other = t.users.find? other

/-- The database is sound, and a user is known. -/
structure Knows (t : ApiStore) (userId : Id) : Prop where
  sound : t.Sound
  known : (t.users.find? userId).isSome

theorem Moves.refl (t : ApiStore) : t.Moves t where
  users _ _ found := found
  core := .refl _
  budgets := .refl _
  goals := .refl _

theorem Moves.trans {a b c : ApiStore} (first : a.Moves b) (second : b.Moves c) : a.Moves c where
  users id row found := second.users id row (first.users id row found)
  core := first.core.trans second.core
  budgets := first.budgets.trans second.budgets
  goals := first.goals.trans second.goals

/-- The moves of the others, from one sound database to another. -/
abbrev Rely : ApiStore → ApiStore → Prop := Within Sound Moves

/-- A user has a category of a type and a name. -/
def HasCategory (userId : Id) (entry : CategoryType × String) (t : ApiStore) : Prop :=
  t.records.toStore.HasCategory userId entry

/-- No category goes. -/
theorem Moves.hasCategory {t t' : ApiStore} (moves : t.Moves t') {userId : Id} {entry : CategoryType × String}
    (has : t.HasCategory userId entry) : t'.HasCategory userId entry := by
  obtain ⟨row, member, same⟩ := List.mem_map.mp has
  have found := moves.budgets.categories row.id row (Table.find?_of_mem member)
  exact List.mem_map.mpr ⟨row, Table.mem_of_find? found, same⟩

/-- A user has every default category. -/
def Onboarded (userId : Id) (t : ApiStore) : Prop :=
  ∀ entry ∈ CategoryService.defaultCategories, t.HasCategory userId entry

/-- A user who is known stays known. -/
theorem Knows.within {t t' : ApiStore} {userId : Id} (knows : t.Knows userId) (moved : Rely t t') :
    t'.Knows userId := by
  refine ⟨moved.inv_iff.mp knows.sound, ?_⟩
  obtain ⟨row, found⟩ := Option.isSome_iff_exists.mp knows.known
  rw [(moved.moved Moves.refl).users userId row found]
  rfl

/-- What a known user's write leaves has a known owner, as the write spares everyone else. -/
theorem Knows.known_of_spares {t t' : ApiStore} {userId : Id} (knows : t.Knows userId)
    (users : t'.users = t.users)
    (spares : ∀ other, userId ≠ other → t'.holdings other = t.holdings other) :
    ∀ other, t'.users.find? other = none → t'.holdings other = ApiStore.empty.holdings other := by
  intro other unknown
  rw [users] at unknown
  -- The user who writes is known, so the unknown one is another user.
  have apart : userId ≠ other := by
    rintro rfl
    simpa [unknown] using knows.known
  -- What another user holds is as it was.
  rw [spares other apart]
  exact knows.sound.known other unknown

section Parts

variable {t : ApiStore} {userId : Id}

/-- A write of the core tables is a write of the whole database. -/
theorem Knows.core (knows : t.Knows userId) {s' : Store} (own : t.records.toStore.OwnWrite userId s') :
    OwnWrite userId t (corePart.put t s') := by
  -- What the others hold of the records is spared, and their goals are not touched.
  have spares : ∀ other, userId ≠ other → (corePart.put t s').holdings other =
      t.holdings other := fun other apart =>
    Holdings.ext (Store.spares_iff.mp (own.spares other apart)) rfl rfl
  have categories : ∀ id row, t.records.categories.find? id = some row → s'.categories.find? id = some row :=
    own.categories
  exact
    { sound :=
        { core := own.sound
          distinct := own.distinct knows.sound.distinct
          -- A budget has an expense category of its own user, which is still there.
          budgets :=
            { numbered := knows.sound.budgets.numbered.mono own.evolves.nextId
              eligible := fun row member => by
                obtain ⟨category, owned, expense⟩ := knows.sound.budgets.eligible row member
                rcases Store.ownCategory_eq_some.mp owned with ⟨found, user⟩
                exact ⟨category, Store.ownCategory_eq_some.mpr ⟨categories _ _ found, user⟩, expense⟩
              payable := knows.sound.budgets.payable }
          known := knows.known_of_spares rfl spares }
      moves :=
        { Moves.refl t with
          core := own.evolves
          budgets :=
            { nextId := own.evolves.nextId
              categories
              budgets := fun id row found => ⟨row, found, rfl, rfl, rfl⟩ } }
      spares := fun other apart => ⟨spares other apart, rfl⟩ }

/-- A write of the budgets is a write of the whole database. -/
theorem Knows.budgets (knows : t.Knows userId) {call : BudgetCall} (acts : call.request.userId = userId)
    {s' : BudgetStore} (made : call.Guarantee t.records s') : OwnWrite userId t (recordsPart.put t s') := by
  -- The budgets write no other table, but they move the counter on.
  have moved : t.records.toStore.Evolves s'.toStore := by
    rw [made.others]
    exact { Store.Evolves.refl _ with nextId := made.grows.nextId }
  -- The budgets of the others are spared.
  have spares : ∀ other, userId ≠ other → (recordsPart.put t s').holdings other = t.holdings other := by
    intro other apart
    have budgets := made.spares other (acts ▸ apart)
    have rows : s'.toStore.rowsOf other = t.records.toStore.rowsOf other := by
      rw [made.others]
      rfl
    exact Holdings.ext rows budgets rfl
  -- The other tables are as they were, and so are their links.
  have core : s'.toStore.Intact := by
    rw [made.others]
    have linked := knows.sound.core.linked
    exact ⟨⟨linked.transactions, linked.installments, linked.templates, linked.events⟩,
      knows.sound.core.numbered.later made.grows.nextId⟩
  exact
    { sound :=
        { core
          distinct := by
            show s'.toStore.categoryKeys.Nodup
            rw [made.others]
            exact knows.sound.distinct
          budgets := made.sound knows.sound.budgets
          known := knows.known_of_spares rfl spares }
      moves := { Moves.refl t with core := moved, budgets := made.grows }
      spares := fun other apart => ⟨spares other apart, rfl⟩ }

/-- A write of the saving goals is a write of the whole database. -/
theorem Knows.goals (knows : t.Knows userId) {s' : SavingGoalStore} (own : t.goals.OwnWrite userId s') :
    OwnWrite userId t (goalsPart.put t s') := by
  -- The goals of the others are spared, and they hold nothing else that is written.
  have spares : ∀ other, userId ≠ other → (goalsPart.put t s').holdings other =
      t.holdings other := fun other apart =>
    Holdings.ext rfl rfl (own.spares other apart)
  exact
    { sound := { knows.sound with known := knows.known_of_spares rfl spares }
      moves := { Moves.refl t with goals := own.owners }
      spares := fun other apart => ⟨spares other apart, rfl⟩ }

/-- What an insertion of a user leaves, when it succeeds. -/
theorem createUser?_some {row : User} {t' : ApiStore} (made : t.createUser? row = some t') :
    ∃ users inserted free, t' = t.withUser row users inserted free := by
  -- The address must be free, and the identifier as well.
  unfold createUser? at made
  split at made
  · rename_i free
    split at made
    · cases made
    · rename_i users inserted
      exact ⟨users, inserted, free, (Option.some.inj made).symm⟩
  · cases made

/-- A new user has nothing yet, and is known from then on. -/
theorem Sound.withUser (sound : t.Sound) {row : User} {users : Table User}
    (inserted : t.users.insert? row = some users)
    (free : row.email ∉ t.users.rows.map User.email) :
    OwnWrite row.id t (t.withUser row users inserted free) ∧
      (t.withUser row users inserted free).Knows row.id := by
  have found : ∀ id, users.find? id = if row.id = id then some row else t.users.find? id :=
    fun id => Table.find?_insert inserted id
  have after : (t.withUser row users inserted free).Sound :=
    { core := sound.core
      distinct := sound.distinct
      budgets := sound.budgets
      known := fun other unknown => by
        -- Whoever is unknown now was unknown before.
        refine sound.known other ?_
        have unknown : users.find? other = none := unknown
        rw [found] at unknown
        split at unknown
        · cases unknown
        · exact unknown }
  refine ⟨⟨after, { Moves.refl t with users := fun id old present => ?_ }, fun other apart => ⟨rfl, ?_⟩⟩,
    after, ?_⟩
  -- An old user keeps the row, because the new one has another identifier.
  · show users.find? id = some old
    rw [found, if_neg]
    · exact present
    · rintro rfl
      have unused : t.users.find? row.id = none := (Table.insert?_eq_some_iff.mp inserted).1
      rw [unused] at present
      cases present
  -- The other users are found as before.
  · show users.find? other = t.users.find? other
    rw [found, if_neg apart]
  -- And the new one is found.
  · show (users.find? row.id).isSome
    simp [found]

end Parts

/-! Programs that serve a known user. -/

/-- A program keeps the database sound and makes only writes of one known user, whatever the others do. -/
def Serves {α : Type} (userId : Id) (program : Prog ApiStore Failure α) : Prop :=
  ∀ history t, t.Knows userId → program.Sat Rely (fun _ t t' => t' = t ∨ OwnWrite userId t t')
    (fun _ _ t => t.Knows userId) history t

namespace Serves

variable {α β : Type} {userId : Id}

/-- A known user is known after a write that is the user's own, or none. -/
theorem knows_later {t t' : ApiStore} (knows : t.Knows userId) (made : t' = t ∨ OwnWrite userId t t') :
    t'.Knows userId := by
  rcases made with rfl | own
  · exact knows
  · refine knows.within (.inr ⟨knows.sound, own.sound, own.moves⟩)

theorem ret (value : α) : Serves userId (Prog.ret value : Prog ApiStore Failure α) :=
  fun _ _ knows => sat_ret.mpr knows

theorem fail (error : Failure) : Serves userId (Prog.fail error : Prog ApiStore Failure α) :=
  fun _ _ _ => sat_fail

theorem bind {first : Prog ApiStore Failure β} {rest : β → Prog ApiStore Failure α}
    (serves : Serves userId first)
    (next : ∀ value, Serves userId (rest value)) : Serves userId (first >>= rest) := fun history t knows =>
  sat_seq (serves history t knows) fun value history t knows => next value history t knows

theorem orThrow (found : Option α) (error : Failure) :
    Serves userId (Prog.orThrow found error : Prog ApiStore Failure α) := by
  cases found with
  | none => exact fail error
  | some value => exact ret value

theorem throwIf (guard : Prop) [Decidable guard] (error : Failure) :
    Serves userId (Prog.throwIf guard error : Prog ApiStore Failure Unit) := by
  unfold Prog.throwIf
  split
  · exact fail error
  · exact ret ()

/--
A program over one part serves a user when its writes there are the user's, and concludes what it does there.
-/
theorem zoom_sat {σ : Type} {part : Part ApiStore σ} {program : Prog σ Failure α} {rely : σ → σ → Prop}
    {guar : List σ → σ → σ → Prop} {done : α → σ → Prop}
    (relies : ∀ t t', Rely t t' → rely (part.get t) (part.get t')) (same : ∀ t, part.put t (part.get t) = t)
    (sat : ∀ t, t.Knows userId → program.Sat rely guar (fun value _ s => done value s) [] (part.get t))
    (own : ∀ t seen s', t.Knows userId → guar seen (part.get t) s' →
      s' = part.get t ∨ OwnWrite userId t (part.put t s')) {history : List ApiStore} {t : ApiStore}
    (knows : t.Knows userId) :
    (program.zoom part).Sat Rely (fun _ t t' => t' = t ∨ OwnWrite userId t t')
      (fun value _ t => t.Knows userId ∧ done value (part.get t)) history t := by
  have held : (fun t : ApiStore => t.Knows userId) t := knows
  -- While it runs, the other users change nothing that it relies on.
  refine ((((sat t knows).zoom part).mono relies (fun _ _ _ made => made) fun _ _ _ done => done).assume held
    (fun _ _ knows moved => Knows.within knows moved) ?_).mono (fun _ _ moved => moved)
      (fun _ _ _ made => made) ?_
  -- What the part writes is nothing or a write of the user.
  · rintro seen t t' knows ⟨_, s', made, rfl⟩
    have made : part.put t s' = t ∨ OwnWrite userId t (part.put t s') := by
      rcases own t _ s' knows made with rfl | own
      · exact .inl (same t)
      · exact .inr own
    exact ⟨made, knows_later knows made⟩
  -- The answer holds of the part that the whole store contains.
  · rintro value _ t ⟨⟨_, done⟩, knows⟩
    exact ⟨knows, done⟩

/-- A program over one part serves a user when its writes there are the user's. -/
theorem zoom {σ : Type} {part : Part ApiStore σ} {program : Prog σ Failure α} {rely : σ → σ → Prop}
    {guar : List σ → σ → σ → Prop} (relies : ∀ t t', Rely t t' → rely (part.get t) (part.get t'))
    (same : ∀ t, part.put t (part.get t) = t)
    (sat : ∀ t, t.Knows userId → program.Sat rely guar (fun _ _ _ => True) [] (part.get t))
    (own : ∀ t seen s', t.Knows userId → guar seen (part.get t) s' →
      s' = part.get t ∨ OwnWrite userId t (part.put t s')) :
        Serves userId (program.zoom part) := fun _ _ knows =>
  (zoom_sat relies same sat own knows).mono (fun _ _ moved => moved) (fun _ _ _ made => made)
    fun _ _ _ done => done.1

/-- The others' moves of the whole database are moves of the core tables. -/
theorem core_relies {t t' : ApiStore} (moved : Rely t t') :
    Within Store.Intact Store.Evolves (corePart.get t) (corePart.get t') := by
  rcases moved with rfl | ⟨started, ended, moved⟩
  · exact .refl _
  · exact .inr ⟨started.core, ended.core, moved.core⟩

/--
A service of the core tables whose writes are the user's serves the user, and concludes what it does there.
-/
theorem core_sat {service : Service α} {done : α → Store → Prop}
    (sat : ∀ s : Store, s.Intact → service.Sat (Within Store.Intact Store.Evolves)
      (fun _ s s' => s' = s ∨ Store.OwnWrite userId s s') (fun value _ s => done value s) [] s)
    {history : List ApiStore} {t : ApiStore} (knows : t.Knows userId) :
    (PocketMint.core service).Sat Rely (fun _ t t' => t' = t ∨ OwnWrite userId t t')
      (fun value _ t => t.Knows userId ∧ done value t.records.toStore) history t :=
  zoom_sat (fun _ _ => core_relies) (fun _ => rfl) (fun _ knows => sat _ knows.sound.core)
    (fun _ _ _ knows made => made.imp id knows.core) knows

/-- A service of the core tables whose writes are the user's serves the user. -/
theorem core {service : Service α}
    (sat : ∀ s : Store, s.Intact → service.Sat (Within Store.Intact Store.Evolves)
      (fun _ s s' => s' = s ∨ Store.OwnWrite userId s s') (fun _ _ _ => True) [] s) :
    Serves userId (PocketMint.core service) :=
  zoom (fun _ _ => core_relies) (fun _ => rfl) (fun _ knows => sat _ knows.sound.core)
    fun _ _ _ knows made => made.imp id knows.core

/-- A call of the core services that acts for the user serves the user, whatever is done with its response. -/
theorem call (zone : Zone) (call : Call) {service : Service α} {response : α → Response}
    (handled : handle zone call = service >>= fun value => Prog.ret (response value))
    (acts : call.request.actor = some userId) : Serves userId (PocketMint.core service) := by
  refine core fun s sound => ?_
  have own := handle_own zone call acts sound
  rw [handled] at own
  exact sat_of_map own

/-- A service that writes nothing serves everyone. -/
theorem reading {service : Service α} (sat : ∀ s, service.Sat (Within Store.Intact Store.Evolves)
    (fun _ s s' => s' = s) (fun _ _ _ => True) [] s) : Serves userId (PocketMint.core service) :=
  core fun s _ => (sat s).mono (fun _ _ moved => moved) (fun _ _ _ same => .inl same) fun _ _ _ done => done

/-- A budget request of the user serves the user. -/
theorem budgeting (call : BudgetCall) (acts : call.request.userId = userId) :
    Serves userId (PocketMint.budgeting (handleBudget call)) :=
  zoom (fun _ _ moved => (moved.moved Moves.refl).budgets) (fun _ => rfl)
    (fun t _ => (handleBudget_sat call t.records).mono (fun _ _ moved => moved) (fun _ _ _ made => made)
      fun _ _ _ _ => trivial) fun _ _ _ knows made => .inr (knows.budgets acts made)

/-- A budget service that writes nothing serves everyone. -/
theorem budgetReading {service : Prog BudgetStore Failure α} (sat : ∀ s, service.Sat (fun _ _ => True)
    (fun _ s s' => s' = s) (fun _ _ _ => True) [] s) : Serves userId (PocketMint.budgeting service) :=
  zoom (fun _ _ _ => trivial) (fun _ => rfl) (fun t _ => sat t.records) fun _ _ _ _ same => .inl same

/-- A request about the user's saving goals serves the user. -/
theorem saving (zone : Zone) (call : SavingGoalCall) (acts : call.request.userId = userId) :
    Serves userId (PocketMint.saving (handleSavingGoal zone call)) :=
  zoom (fun _ _ moved => (moved.moved Moves.refl).goals) (fun _ => rfl)
    (fun _ _ => handleSavingGoal_own zone call)
    fun _ _ _ knows made => made.imp id fun own => knows.goals (acts ▸ own)

end Serves

end ApiStore

end PocketMint
