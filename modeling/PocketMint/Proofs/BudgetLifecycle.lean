import PocketMint.Program.Serial
import PocketMint.Relational.Continues
import PocketMint.Relational.Selection
import PocketMint.Services.BudgetCommand
import PocketMint.Store.ClientLaws

/-! Budgets over every interleaving of the requests that change them. -/

namespace PocketMint

open Prog BudgetService

/-- A budget stays its user's budget for its category, made when it was made. -/
def Budget.Keeps (row later : Budget) : Prop :=
  later.userId = row.userId ∧ later.categoryId = row.categoryId ∧ later.createdAt = row.createdAt

/-- A budget without the moment of its last change. -/
def Budget.content (row : Budget) : Budget := { row with updatedAt := 0 }

/-- A positive number of cents that a money column holds. -/
def IsBudgetAmount (amount : Decimal) : Prop :=
  ∃ cents : ℤ, amount = (cents : ℚ) / 100 ∧ 0 < cents ∧ cents < 10 ^ 15

namespace BudgetStore

/-- Every budget is for an expense category of its user, and its amount is one that the service accepts. -/
structure Sound (s : BudgetStore) : Prop where
  numbered : s.budgets.Below s.nextId
  eligible : ∀ row ∈ s.budgets.rows, ∃ category,
    s.ownCategory row.categoryId row.userId = some category ∧ category.type = .expense
  payable : ∀ row ∈ s.budgets.rows, IsBudgetAmount row.amount

/-- Categories and budgets are all still there later, and each budget in its place. -/
structure Grows (s s' : BudgetStore) : Prop where
  nextId : s.nextId ≤ s'.nextId
  categories : ∀ id row, s.categories.find? id = some row → s'.categories.find? id = some row
  budgets : ∀ id row, s.budgets.find? id = some row → ∃ later, s'.budgets.find? id =
    some later ∧ row.Keeps later

/-- Two stores that differ at most in when each budget was last changed. -/
def Alike (s s' : BudgetStore) : Prop :=
  s.toStore = s'.toStore ∧ s.budgets.rows.map Budget.content = s'.budgets.rows.map Budget.content

theorem Grows.refl (s : BudgetStore) : s.Grows s where
  nextId := le_rfl
  categories _ _ found := found
  budgets _ row found := ⟨row, found, rfl, rfl, rfl⟩

theorem Grows.trans {a b c : BudgetStore} (first : a.Grows b) (second : b.Grows c) : a.Grows c where
  nextId := first.nextId.trans second.nextId
  categories id row found := second.categories id row (first.categories id row found)
  budgets id row found := by
    rcases first.budgets id row found with ⟨between, found', user, category, created⟩
    rcases second.budgets id between found' with ⟨later, found'', user', category', created'⟩
    exact ⟨later, found'', user'.trans user, category'.trans category, created'.trans created⟩

theorem Alike.refl (s : BudgetStore) : s.Alike s := ⟨rfl, rfl⟩

theorem Alike.trans {a b c : BudgetStore} (first : a.Alike b) (second : b.Alike c) : a.Alike c :=
  ⟨first.1.trans second.1, first.2.trans second.2⟩

section Lookups

variable {s s' : BudgetStore} {id userId categoryId : Id} {row : Budget}

theorem ownBudget_eq_some : s.ownBudget id userId = some row ↔
    s.budgets.find? id = some row ∧ row.userId = userId := by
  simp [ownBudget, Option.filter_eq_some_iff]

/-- A budget of a user for a category is found among the rows. -/
theorem budgetFor_eq_some (found : s.budgetFor userId categoryId = some row) :
    row ∈ s.budgets.rows ∧ row.userId = userId ∧ row.categoryId = categoryId := by
  refine ⟨List.mem_of_find?_eq_some found, ?_⟩
  simpa using List.find?_some found

theorem budgetFor_of_mem (member : row ∈ s.budgets.rows) :
    (s.budgetFor row.userId row.categoryId).isSome := by
  rw [budgetFor, List.find?_isSome]
  exact ⟨row, member, by simp⟩

/-- A user who has a budget for a category has one later as well. -/
theorem Grows.budgetFor (grows : s.Grows s') (taken : (s.budgetFor userId categoryId).isSome) :
    (s'.budgetFor userId categoryId).isSome := by
  -- The row that takes the place is still there, under the same user and category.
  obtain ⟨row, found⟩ := Option.isSome_iff_exists.mp taken
  rcases budgetFor_eq_some found with ⟨member, rfl, rfl⟩
  rcases grows.budgets _ row (Table.find?_of_mem member) with ⟨later, found', user, category, _⟩
  rw [← user, ← category]
  exact budgetFor_of_mem (Table.mem_of_find? found')

theorem Grows.ownCategory (grows : s.Grows s') {category : Category}
    (own : s.ownCategory id userId = some category) : s'.ownCategory id userId = some category := by
  obtain ⟨found, user⟩ := Store.ownCategory_eq_some.mp own
  exact Store.ownCategory_eq_some.mpr ⟨grows.categories id category found, user⟩

/-- A budget that was the user's own still is. -/
theorem Grows.ownBudget (grows : s.Grows s') (own : s.ownBudget id userId = some row) :
    ∃ later, s'.ownBudget id userId = some later := by
  obtain ⟨found, user⟩ := ownBudget_eq_some.mp own
  rcases grows.budgets id row found with ⟨later, found', user', _⟩
  exact ⟨later, ownBudget_eq_some.mpr ⟨found', user'.trans user⟩⟩

end Lookups

/-- An insertion succeeds for a fresh identifier and a category that its user has no budget for. -/
theorem createBudget?_eq_some {s s' : BudgetStore} {row : Budget} : s.createBudget? row = some s' ↔
    ∃ rows inserted free, s' = s.withBudget row rows inserted free := by
  -- The place must be free, and then the table decides whether the row goes in.
  unfold createBudget?
  by_cases free : s.budgetFor row.userId row.categoryId = none
  · rw [dif_pos free]
    split
    · rename_i refused
      simp [refused]
    · rename_i rows inserted
      simp only [Option.some.injEq]
      constructor
      · rintro rfl
        exact ⟨rows, inserted, free, rfl⟩
      · rintro ⟨rows', inserted', _, rfl⟩
        -- A table takes a row in one way only.
        obtain rfl : rows = rows' := Option.some.inj (inserted.symm.trans inserted')
        rfl
  · -- A place that is taken refuses every row.
    rw [dif_neg free]
    simp [free]

theorem createBudget?_taken {s : BudgetStore} {row : Budget}
    (taken : (s.budgetFor row.userId row.categoryId).isSome) : s.createBudget? row = none := by
  rw [createBudget?, dif_neg]
  simpa [Option.isSome_iff_ne_none] using taken

section Writes

variable {s : BudgetStore} {row : Budget} {rows : Table Budget}

/-- One more budget leaves the others in their places. -/
theorem grows_withBudget (inserted : s.budgets.insert? row = some rows)
    (free : s.budgetFor row.userId row.categoryId = none) :
    s.Grows (s.withBudget row rows inserted free) where
  nextId := Nat.le_succ _
  categories _ _ found := found
  budgets id old found := by
    -- The rows from before keep their numbers, which the new one does not have.
    refine ⟨old, ?_, rfl, rfl, rfl⟩
    show rows.find? id = some old
    rw [Table.find?_insert inserted, if_neg]
    · exact found
    -- The number of the new row was free.
    · rintro rfl
      rw [(Table.insert?_eq_some_iff.mp inserted).1] at found
      cases found

/-- A new budget for an expense category of its user keeps the budgets sound. -/
theorem Sound.withBudget (sound : s.Sound) (inserted : s.budgets.insert? row = some rows)
    (free : s.budgetFor row.userId row.categoryId = none) (named : row.id = s.nextId) {category : Category}
    (own : s.ownCategory row.categoryId row.userId = some category) (expense : category.type = .expense)
    (payable : IsBudgetAmount row.amount) : (s.withBudget row rows inserted free).Sound where
  numbered := sound.numbered.insert (Nat.lt_succ_of_le named.le) (Nat.le_succ _) inserted
  eligible other member := by
    -- Only the new row has to be shown sound; the others are as they were.
    obtain old | rfl := (Table.mem_insert inserted).mp member
    · exact sound.eligible other old
    · exact ⟨category, own, expense⟩
  payable other member := by
    obtain old | rfl := (Table.mem_insert inserted).mp member
    · exact sound.payable other old
    · exact payable

variable {id : Id} {rewrite : Budget → Budget} {keeps : ∀ row, (rewrite row).id = row.id}
  {same : ∀ row, ((rewrite row).userId, (rewrite row).categoryId) = (row.userId, row.categoryId)}

theorem grows_rewriteBudget (created : ∀ row, (rewrite row).createdAt = row.createdAt) :
    s.Grows (s.rewriteBudget id rewrite keeps same) where
  nextId := le_rfl
  categories _ _ found := found
  budgets other old found := by
    -- The rewriting touches one row, and its place in none.
    by_cases here : other = id
    · refine ⟨rewrite old, ?_, congrArg Prod.fst (same old), congrArg Prod.snd (same old), created old⟩
      simp [rewriteBudget, here, here ▸ found]
    · exact ⟨old, by simp [rewriteBudget, here, found], rfl, rfl, rfl⟩

/-- A budget that gets an amount the service accepts, or keeps its own, keeps the budgets sound. -/
theorem Sound.rewriteBudget (sound : s.Sound)
    (payable : ∀ row, IsBudgetAmount row.amount → IsBudgetAmount (rewrite row).amount) :
    (s.rewriteBudget id rewrite keeps same).Sound where
  numbered := sound.numbered.update keeps
  eligible other member := by
    -- The row that is rewritten keeps its user and its category.
    obtain old | ⟨row, found, rfl⟩ := Table.mem_update keeps member
    · exact sound.eligible other old
    · have place := same row
      simp only [Prod.mk.injEq] at place
      rw [place.1, place.2]
      exact sound.eligible row (Table.mem_of_find? found)
  payable other member := by
    -- What the rewriting makes of a payable amount is payable by assumption.
    obtain old | ⟨row, found, rfl⟩ := Table.mem_update keeps member
    · exact sound.payable other old
    · exact payable row (sound.payable row (Table.mem_of_find? found))

/-- Rewriting a budget to what it already is, but for the moment of its change, changes nothing else. -/
theorem alike_rewriteBudget (settled : ∀ row, s.budgets.find? id = some row →
    (rewrite row).content = row.content) : (s.rewriteBudget id rewrite keeps same).Alike s := by
  -- Only the row of that number is rewritten, and its content stays.
  refine ⟨rfl, ?_⟩
  -- The lists of contents agree row by row.
  show (s.budgets.rows.map _).map Budget.content = _
  rw [List.map_map]
  refine List.map_congr_left fun row member => ?_
  simp only [Function.comp_apply]
  split
  · rename_i named
    exact settled row (named ▸ Table.find?_of_mem member)
  · rfl

end Writes

/-! Likeness of stores, as the requests see it. -/

section Likeness

variable {s s' : BudgetStore} (alike : s.Alike s') {id userId categoryId : Id}

include alike

/-- Alike stores find alike budgets, whatever is asked of the parts they agree on. -/
theorem Alike.find (test : Budget → Bool) (blind : ∀ row, test row.content = test row) :
    (s.budgets.rows.find? test).map Budget.content = (s'.budgets.rows.find? test).map Budget.content := by
  -- A test that cannot see the moment of a change may as well be asked of the contents.
  have contents : ∀ rows : List Budget,
      (rows.find? test).map Budget.content = (rows.map Budget.content).find? test := by
    intro rows
    rw [List.find?_map]
    congr 2
    funext row
    exact (blind row).symm
  rw [contents, contents, alike.2]

theorem Alike.ownBudget :
    (s.ownBudget id userId).map Budget.content = (s'.ownBudget id userId).map Budget.content := by
  -- Alike stores find rows of one content under a number.
  have found := alike.find (fun row => decide (row.id = id)) fun _ => rfl
  -- The owner of a row is part of its content.
  have filtered : ∀ option : Option Budget,
      (option.filter fun row => row.userId = userId).map Budget.content =
        (option.map Budget.content).filter fun row => row.userId = userId := by
    intro option
    cases option with
    | none => rfl
    | some row => by_cases own : row.userId = userId <;> simp [Option.filter, Budget.content, own]
  rw [BudgetStore.ownBudget, BudgetStore.ownBudget, filtered, filtered]
  exact congrArg _ found

theorem Alike.budgetFor : (s.budgetFor userId categoryId).isSome =
    (s'.budgetFor userId categoryId).isSome := by
  have found := alike.find (fun row => row.userId = userId && row.categoryId = categoryId) fun _ => rfl
  have present := congrArg Option.isSome found
  rwa [Option.isSome_map, Option.isSome_map] at present

/-- A budget inserted in alike stores leaves alike stores, or is refused by both. -/
theorem Alike.createBudget? {row row' : Budget} (same : row = row') :
    ((s.createBudget? row).getD s).Alike ((s'.createBudget? row').getD s') := by
  subst same
  -- Alike stores number their budgets alike, so a row is new to both or to neither.
  have ids : s.budgets.rows.map (fun row => row.id) = s'.budgets.rows.map fun row => row.id := by
    -- The numbers are part of the contents.
    have contents := congrArg (List.map fun row : Budget => row.id) alike.2
    rwa [List.map_map, List.map_map] at contents
  have fresh : s.budgets.find? row.id = none ↔ s'.budgets.find? row.id = none := by
    have names : ∀ table : Table Budget,
        table.find? row.id = none ↔ row.id ∉ table.rows.map fun row => row.id := by
      intro table
      rw [Table.find?_eq_none_iff]
      simp [Keyed.key]
    rw [names, names, ids]
  -- The place is taken in both stores or in neither.
  have free : (s.budgetFor row.userId row.categoryId).isSome =
      (s'.budgetFor row.userId row.categoryId).isSome :=
    alike.budgetFor
  -- One store takes the row exactly when the other does.
  cases made : s.createBudget? row with
  | some after =>
    obtain ⟨rows, inserted, unused, rfl⟩ := createBudget?_eq_some.mp made
    have unused' : s'.budgetFor row.userId row.categoryId = none := by
      rw [unused] at free
      simpa using free.symm
    obtain ⟨rows', inserted'⟩ := Table.exists_insert (fresh.mp (Table.insert?_eq_some_iff.mp inserted).1)
    rw [createBudget?_eq_some.mpr ⟨rows', inserted', unused', rfl⟩]
    -- Both tables end in the row itself, after rows of the same content.
    refine ⟨by simp [withBudget, alike.1], ?_⟩
    show rows.rows.map _ = rows'.rows.map _
    rw [(Table.insert?_eq_some_iff.mp inserted).2, (Table.insert?_eq_some_iff.mp inserted').2,
      List.map_append, List.map_append, alike.2]
  | none =>
    -- A row that the second store took would go into the first one as well.
    cases made' : s'.createBudget? row with
    | none => exact alike
    | some after =>
      obtain ⟨rows', inserted', unused', rfl⟩ := createBudget?_eq_some.mp made'
      have unused : s.budgetFor row.userId row.categoryId = none := by
        rw [unused'] at free
        simpa using free
      obtain ⟨rows, inserted⟩ := Table.exists_insert (fresh.mpr (Table.insert?_eq_some_iff.mp inserted').1)
      rw [createBudget?_eq_some.mpr ⟨rows, inserted, unused, rfl⟩] at made
      cases made

/-- Rewriting a budget in alike stores leaves alike stores. -/
theorem Alike.rewriteBudget {rewrite : Budget → Budget} {keeps : ∀ row, (rewrite row).id = row.id}
    {same : ∀ row, ((rewrite row).userId, (rewrite row).categoryId) = (row.userId, row.categoryId)}
    (blind : ∀ row, (rewrite row.content).content = (rewrite row).content) :
    (s.rewriteBudget id rewrite keeps same).Alike (s'.rewriteBudget id rewrite keeps same) := by
  refine ⟨alike.1, ?_⟩
  -- A rewriting that cannot see the moment of a change acts on the contents.
  have contents : ∀ rows : List Budget,
      (rows.map fun row => if Keyed.key row = id then rewrite row else row).map Budget.content =
        (rows.map Budget.content).map fun row =>
            if Keyed.key row = id then (rewrite row).content else row := by
    intro rows
    rw [List.map_map, List.map_map]
    -- The rewriting is applied to each content.
    refine List.map_congr_left fun row _ => ?_
    show Budget.content (if row.id = id then _ else _) = if row.id = id then _ else _
    split
    · exact (blind row).symm
    · rfl
  show (s.budgets.rows.map _).map Budget.content = (s'.budgets.rows.map _).map Budget.content
  rw [contents, contents, alike.2]

end Likeness

end BudgetStore

/-! What a request does when it runs alone. -/

section Alone

open BudgetStore

variable {s s' : BudgetStore} {now : Instant}

/-- What a creation leaves when it runs alone: a new budget, or the same store. -/
theorem createBudget_run {input : CreateBudgetInput} {amount : Decimal} {category : Category}
    (parsed : parseBudgetAmount input.amount = .ok amount)
    (own : s.ownCategory input.categoryId input.userId = some category) (expense : category.type = .expense) :
    ((createBudget now input).run s).2 = (s.createBudget? (newBudget now input amount s.nextId)).getD s := by
  -- Past its checks the request meets the category of its own user again.
  rw [createBudget, run_ofExcept_passes parsed, run_query_bind, run_orThrow_passes own,
    run_throwIf_passes (by simp [expense]), run_query_bind]
  have present : s.categories.find? input.categoryId = some category := (Store.ownCategory_eq_some.mp own).1
  -- The place is looked up twice, by the request and by its write, and found the same.
  by_cases taken : (s.budgetFor input.userId input.categoryId).isSome
  · rw [run_throwIf_stops taken]
    have refused : s.createBudget? (newBudget now input amount s.nextId) = none :=
      createBudget?_taken taken
    rw [refused]
    rfl
  · rw [run_throwIf_passes taken]
    simp only [insertBudget, transact, run, newBudget, present, Option.isNone_some, Bool.false_eq_true,
      if_false]
    cases s.createBudget? _ <;> rfl

/-- A budget the request finds in one store it finds in every alike one, with the same contents. -/
theorem findOwned_alike {userId id : Id} {rest : Budget → Prog BudgetStore Failure Budget}
    (alike : s.Alike s')
    (next : ∀ row row', row.content = row'.content → s.budgets.find? id = some row →
      s'.budgets.find? id = some row' → ((rest row).run s).2.Alike ((rest row').run s').2) :
    ((BudgetService.findOwned userId id >>= rest).run s).2.Alike
      ((BudgetService.findOwned userId id >>= rest).run s').2 := by
  -- A budget that one store finds for the user, the other finds with the same content.
  have same : (s.ownBudget id userId).map Budget.content = (s'.ownBudget id userId).map Budget.content :=
    alike.ownBudget
  unfold BudgetService.findOwned
  rw [bind_bind, run_query_bind, run_query_bind]
  cases own : s.ownBudget id userId with
  | none =>
    -- Where neither finds it, both requests end here.
    rw [own, Option.map_none, eq_comm, Option.map_eq_none_iff] at same
    rw [same]
    exact alike
  | some row =>
    -- The rest of the request goes on with rows of the same content.
    rw [own, Option.map_some, eq_comm, Option.map_eq_some_iff] at same
    rcases same with ⟨row', own', content⟩
    rw [own']
    exact next row row' content.symm (ownBudget_eq_some.mp own).1 (ownBudget_eq_some.mp own').1

/-- A budget that is the user's own is found. -/
theorem run_findOwned {userId id : Id} {row : Budget} (own : s.ownBudget id userId = some row)
    {rest : Budget → Prog BudgetStore Failure Budget} :
    (BudgetService.findOwned userId id >>= rest).run s = (rest row).run s := by
  rw [BudgetService.findOwned, bind_bind, run_query_bind]
  exact run_orThrow_passes own

/-- The write of an update rewrites the budget that is there. -/
theorem updateBudget_run {id : Id} {rewrite : Budget → Budget} {keeps : ∀ row, (rewrite row).id = row.id}
    {same : ∀ row, ((rewrite row).userId, (rewrite row).categoryId) = (row.userId, row.categoryId)}
    {row : Budget} (found : s.budgets.find? id = some row) :
    ((updateBudget id rewrite keeps same).run s).2 = s.rewriteBudget id rewrite keeps same := by
  simp [updateBudget, transact, run, found]

/-- Requests that run alone in alike stores leave alike stores. -/
theorem handleBudget_alike (call : BudgetCall) (alike : s.Alike s') :
    ((handleBudget call).run s).2.Alike ((handleBudget call).run s').2 := by
  -- The kinds of commands are taken one by one; each reads only what alike stores agree on.
  unfold handleBudget
  cases call.request with
  | createBudget input =>
    -- A creation depends on the categories, which are the same, and on whether the place is free.
    show ((createBudget call.now input).run s).2.Alike ((createBudget call.now input).run s').2
    cases parsed : parseBudgetAmount input.amount with
    | error failure => simpa [createBudget, parsed, Prog.ofExcept, run] using alike
    -- An amount that parses leads on to the category.
    | ok amount =>
      have category : s.ownCategory input.categoryId input.userId =
          s'.ownCategory input.categoryId input.userId := by
        rw [alike.1]
      have next : s.nextId = s'.nextId := congrArg Store.nextId alike.1
      cases own : s.ownCategory input.categoryId input.userId with
      | none =>
        rw [own] at category
        simpa [createBudget, parsed, Prog.ofExcept, run, query, orThrow, own, ← category] using alike
      | some found =>
        by_cases expense : found.type = .expense
        -- Past its checks the creation is the insertion, which alike stores take alike.
        · rw [createBudget_run parsed own expense, createBudget_run parsed (category ▸ own) expense, next]
          exact alike.createBudget? rfl
        · rw [own] at category
          simpa [createBudget, parsed, Prog.ofExcept, run, query, orThrow, throwIf, own, ← category, expense]
            using alike
  | updateBudgetAmount input =>
    -- A change of the amount depends on nothing but the amount that is sent.
    refine findOwned_alike alike fun row row' content found found' => ?_
    cases parsed : parseBudgetAmount input.amount with
    | error failure => simpa [Prog.ofExcept, run] using alike
    -- The same budget is rewritten in both stores.
    | ok amount =>
      simp only [Prog.ofExcept, ret_bind, updateBudget_run found, updateBudget_run found']
      exact alike.rewriteBudget fun _ => rfl
  | archiveBudget input =>
    -- Whether the budget is archived already is part of its content.
    refine findOwned_alike alike fun row row' content found found' => ?_
    have flag : row.content.isArchived = row'.content.isArchived := congrArg Budget.isArchived content
    simp only [Budget.content] at flag
    by_cases archived : row'.isArchived
    -- Both refuse the budget that is archived already.
    · rw [run_throwIf_stops (flag.trans archived), run_throwIf_stops archived]
      exact alike
    · rw [run_throwIf_passes (by rwa [flag]), run_throwIf_passes archived,
        updateBudget_run found, updateBudget_run found']
      exact alike.rewriteBudget fun _ => rfl
  | restoreBudget input =>
    -- And so is whether it is active.
    refine findOwned_alike alike fun row row' content found found' => ?_
    have flag : row.content.isArchived = row'.content.isArchived := congrArg Budget.isArchived content
    simp only [Budget.content] at flag
    by_cases active : (!row'.isArchived)
    -- Both refuse the budget that is active already.
    · rw [run_throwIf_stops (by rwa [flag]), run_throwIf_stops active]
      exact alike
    · rw [run_throwIf_passes (by rwa [flag]), run_throwIf_passes active,
        updateBudget_run found, updateBudget_run found']
      exact alike.rewriteBudget fun _ => rfl

end Alone

/-! What the requests guarantee while they interleave. -/

open BudgetStore

/-- The user a request acts for. -/
def BudgetRequest.userId : BudgetRequest → Id
  | .createBudget input => input.userId
  | .updateBudgetAmount input => input.userId
  | .archiveBudget input => input.userId
  | .restoreBudget input => input.userId

/--
A step of a budget request keeps the budgets sound and in their places, touches no other table and no one
else's budget, and does what the request would do alone.
-/
structure BudgetCall.Guarantee (call : BudgetCall) (s s' : BudgetStore) : Prop where
  sound : s.Sound → s'.Sound
  grows : s.Grows s'
  others : s'.toStore = { s.toStore with nextId := s'.nextId }
  spares : ∀ userId, call.request.userId ≠ userId →
    (s'.budgets.filter fun row => row.userId = userId) = s.budgets.filter fun row => row.userId = userId
  alone : s'.Alike ((handleBudget call).run s).2

/-- An answered creation was made while its user had no budget for the category, and there is one now. -/
def BudgetCall.Concludes (call : BudgetCall) (history : List BudgetStore) (s : BudgetStore) : Prop :=
  ∀ input, call.request = .createBudget input →
    (∃ s₀, history.getLast? = some s₀ ∧ ¬(s₀.budgetFor input.userId input.categoryId).isSome) ∧
    (s.budgetFor input.userId input.categoryId).isSome

section Outline

variable {call : BudgetCall} {s s' : BudgetStore} {history : List BudgetStore}

/-- A step that leaves the store alone is right where the request alone does the same. -/
theorem BudgetCall.Guarantee.still (alone : s.Alike ((handleBudget call).run s).2) : call.Guarantee s s :=
  ⟨id, .refl s, rfl, fun _ _ => rfl, alone⟩

/-- Creating a budget adds at most that budget. -/
theorem createBudget_sat {input : CreateBudgetInput} (asked : call.request = .createBudget input) :
    (createBudget call.now input).Sat Grows (fun _ => call.Guarantee)
    (fun _ => call.Concludes) history s := by
  -- The command is the creation, whose checks come one by one before its write.
  have handled : handleBudget call = createBudget call.now input := by
    rw [handleBudget, asked]
  unfold createBudget
  refine sat_ofExcept_bind fun amount parsed => sat_query_bind fun s₁ _ => ?_
  refine sat_orThrow_bind fun category own₁ => sat_throwIf_bind fun expense => ?_
  refine sat_query_bind fun s₂ moved₂ => sat_throwIf_bind fun _ => ?_
  -- The category is still there when the write comes, so the write decides as the request alone would.
  have alone : ∀ s, s₂.Grows s → ((handleBudget call).run s).2 =
      (s.createBudget? (newBudget call.now input amount s.nextId)).getD s := by
    intro s moved
    rw [handled]
    exact createBudget_run parsed ((moved₂.trans moved).ownCategory own₁) (by simpa using expense)
  refine sat_transact_cases (fun s error moved refused => .still ?_) fun s row after moved made => ?_
  -- A write that is refused leaves the store, and so does the request when it runs alone.
  · have own := (moved₂.trans moved).ownCategory own₁
    have present : s.categories.find? input.categoryId = some category := (Store.ownCategory_eq_some.mp own).1
    rw [alone s moved]
    cases inserted : s.createBudget? (newBudget call.now input amount s.nextId) with
    | none => exact .refl s
    | some after =>
      have named : (newBudget call.now input amount s.nextId).categoryId = input.categoryId := rfl
      simp [named, present, inserted] at refused
  · have own := (moved₂.trans moved).ownCategory own₁
    -- A write that is made has inserted the row of the request.
    simp only at made
    split at made
    · cases made
    · split at made
      · cases made
      · rename_i inserted
        cases made
        have decided := alone s moved
        rw [inserted, Option.getD_some] at decided
        rcases createBudget?_eq_some.mp inserted with ⟨rows, among, free, rfl⟩
        have spared : ∀ userId, call.request.userId ≠ userId → (rows.filter fun row => row.userId = userId) =
            s.budgets.filter fun row => row.userId = userId := by
          intro userId apart
          -- Nothing of another user is inserted.
          rw [asked] at apart
          exact Table.filter_insert_other among (decide_eq_false apart)
        refine ⟨⟨fun sound => ?_, grows_withBudget among free, rfl, spared, decided ▸ .refl _⟩,
          fun other same => ?_⟩
        · exact sound.withBudget among free rfl own (by simpa using expense) (parseBudgetAmount_ok parsed)
        · obtain rfl : input = other := by simpa [asked] using same
          have untaken : s.budgetFor input.userId input.categoryId = none := free
          -- The write needed the place to be free, and the row has taken it.
          have there : newBudget call.now input amount s.nextId ∈
              (s.withBudget _ rows among free).budgets.rows :=
            (Table.mem_insert among).mpr (.inr rfl)
          exact ⟨⟨s, List.getLast?_concat, by simp [untaken]⟩, budgetFor_of_mem there⟩

/-- A budget that a request has found is still there when the request writes it. -/
theorem findOwned_grows {userId id : Id} {guar : List BudgetStore → BudgetStore → BudgetStore → Prop}
    {post : Budget → List BudgetStore → BudgetStore → Prop} {rest : Budget → Prog BudgetStore Failure Budget}
    (next : ∀ existing s₁ seen, s₁.ownBudget id userId = some existing →
      (rest existing).Sat Grows guar post seen s₁) :
    (BudgetService.findOwned userId id >>= rest).Sat Grows guar post history s := by
  unfold BudgetService.findOwned
  rw [bind_bind]
  exact sat_query_bind fun s₁ _ => sat_orThrow_bind fun existing own => next existing s₁ _ own

/--
A rewriting of a budget that was found is made, and guaranteed where it does what the request alone would.
-/
theorem updateBudget_sat {userId id : Id} {rewrite : Budget → Budget} {s₁ : BudgetStore} {existing : Budget}
    {keeps : ∀ row, (rewrite row).id = row.id}
    {same : ∀ row, ((rewrite row).userId, (rewrite row).categoryId) = (row.userId, row.categoryId)}
    (user : call.request.userId = userId) (own₁ : s₁.ownBudget id userId = some existing)
    (created : ∀ row, (rewrite row).createdAt = row.createdAt)
    (payable : ∀ row, IsBudgetAmount row.amount → IsBudgetAmount (rewrite row).amount)
    (alone : ∀ (s : BudgetStore) (row : Budget), s.ownBudget id userId = some row →
      (s.rewriteBudget id rewrite keeps same).Alike ((handleBudget call).run s).2)
    (other : ∀ input, call.request ≠ .createBudget input) :
    (updateBudget id rewrite keeps same).Sat Grows (fun _ => call.Guarantee) (fun _ => call.Concludes)
      history s₁ := by
  refine sat_transact_cases (fun s error moved refused => ?_) fun s row after moved made => ?_
  · -- The budget that was read is never deleted.
    obtain ⟨later, own⟩ := moved.ownBudget own₁
    simp [(ownBudget_eq_some.mp own).1] at refused
  · -- It may have been changed since, but is still a budget of the same user.
    obtain ⟨later, own⟩ := moved.ownBudget own₁
    rw [(ownBudget_eq_some.mp own).1] at made
    cases made
    refine ⟨⟨fun sound => sound.rewriteBudget payable, grows_rewriteBudget created, rfl,
      fun stranger apart => ?_,
      alone s later own⟩, fun input asked => absurd asked (other input)⟩
    -- The budget that is rewritten is the user's.
    have owner : ∀ row, (rewrite row).userId = row.userId := fun row => congrArg Prod.fst (same row)
    refine Table.filter_updated_other rfl (fun row => by rw [owner row]) fun row found => ?_
    obtain rfl : later = row := Option.some.inj ((ownBudget_eq_some.mp own).1.symm.trans found)
    exact decide_eq_false ((ownBudget_eq_some.mp own).2 ▸ user ▸ apart)

/-- Every request keeps its guarantee, whatever the others do. -/
theorem handleBudget_sat (call : BudgetCall) (s : BudgetStore) :
    (handleBudget call).Sat Grows (fun _ => call.Guarantee) (fun _ => call.Concludes) [] s := by
  -- What is guaranteed compares the write with the command that runs alone.
  have handled : ∀ {program}, handleBudget call = program → ∀ s, ((handleBudget call).run s).2 =
      (program.run s).2 :=
    fun same s => by rw [same]
  cases asked : call.request with
  | createBudget input =>
    rw [show handleBudget call = createBudget call.now input by rw [handleBudget, asked]]
    exact createBudget_sat asked
  | updateBudgetAmount input =>
    -- The amount was parsed before the budget was read again, and stays the same.
    have same : handleBudget call = updateBudgetAmount call.now input := by rw [handleBudget, asked]
    rw [same]
    refine findOwned_grows fun existing s₁ seen own₁ => sat_ofExcept_bind fun amount parsed => ?_
    refine updateBudget_sat (by rw [asked]; rfl) own₁ (fun _ => rfl) (fun _ _ => parseBudgetAmount_ok parsed)
      (fun s row own => ?_)
      (by simp [asked])
    rw [same, updateBudgetAmount, run_findOwned own, run_ofExcept_passes parsed,
      updateBudget_run (ownBudget_eq_some.mp own).1]
    exact .refl _
  | archiveBudget input =>
    have same : handleBudget call = archiveBudget call.now input := by rw [handleBudget, asked]
    rw [same]
    refine findOwned_grows fun existing s₁ seen own₁ => sat_throwIf_bind fun _ => ?_
    refine updateBudget_sat (by rw [asked]; rfl) own₁ (fun _ => rfl) (fun _ payable => payable)
      (fun s row own => ?_) (by simp [asked])
    rw [same, archiveBudget, run_findOwned own]
    have found := (ownBudget_eq_some.mp own).1
    by_cases archived : row.isArchived
    · -- Alone the request would refuse, and the write only repeats what is so already.
      rw [run_throwIf_stops archived]
      refine alike_rewriteBudget fun other here => ?_
      obtain rfl : row = other := Option.some.inj (found.symm.trans here)
      simp [Budget.content, archived]
    · rw [run_throwIf_passes archived, updateBudget_run found]
      exact .refl _
  | restoreBudget input =>
    -- Restoring is archiving with the flag turned round.
    have same : handleBudget call = restoreBudget call.now input := by rw [handleBudget, asked]
    rw [same]
    refine findOwned_grows fun existing s₁ seen own₁ => sat_throwIf_bind fun _ => ?_
    refine updateBudget_sat (by rw [asked]; rfl) own₁ (fun _ => rfl) (fun _ payable => payable)
      (fun s row own => ?_) (by simp [asked])
    rw [same, restoreBudget, run_findOwned own]
    have found := (ownBudget_eq_some.mp own).1
    by_cases active : (!row.isArchived)
    · rw [run_throwIf_stops active]
      refine alike_rewriteBudget fun other here => ?_
      obtain rfl : row = other := Option.some.inj (found.symm.trans here)
      simp at active
      simp [Budget.content, active]
    · rw [run_throwIf_passes active, updateBudget_run found]
      exact .refl _

end Outline

/-- Every request writes at most once, at its end. -/
theorem handleBudget_writesOnce (call : BudgetCall) : (handleBudget call).WritesOnce := by
  -- Each command ends in its one write, and the checks before it only read.
  have owned : ∀ {userId id : Id} {rest : Budget → Prog BudgetStore Failure Budget},
      (∀ row, (rest row).WritesOnce) → (BudgetService.findOwned userId id >>= rest).WritesOnce := by
    intro userId id rest next
    rw [BudgetService.findOwned, bind_bind]
    exact writesOnce_query_bind fun _ => writesOnce_orThrow_bind next
  unfold handleBudget
  cases call.request with
  | createBudget input =>
    refine writesOnce_ofExcept_bind fun _ => writesOnce_query_bind fun _ => ?_
    refine writesOnce_orThrow_bind fun _ => writesOnce_throwIf_bind ?_
    exact writesOnce_query_bind fun _ => writesOnce_throwIf_bind (writesOnce_transact _)
  | updateBudgetAmount input =>
    exact owned fun _ => writesOnce_ofExcept_bind fun _ => writesOnce_transact _
  | archiveBudget input => exact owned fun _ => writesOnce_throwIf_bind (writesOnce_transact _)
  | restoreBudget input => exact owned fun _ => writesOnce_throwIf_bind (writesOnce_transact _)

/-- Budget requests may interleave in any order. -/
def budgetDiscipline : Discipline handleBudget fun _ _ => True where
  inv := Sound
  rely _ := Grows
  guar call _ := call.Guarantee
  post call _ := call.Concludes
  refl _ := .refl
  trans _ := .trans
  stable _ _ _ _ _ concluded moved := fun input asked =>
    ⟨(concluded input asked).1, moved.budgetFor (concluded input asked).2⟩
  compatible _ _ _ _ sound _ made := ⟨made.sound sound, fun _ => made.grows⟩

theorem budgetDiscipline_start (s : BudgetStore) (calls : List BudgetCall) :
    budgetDiscipline.Good (Pool.start s calls) :=
  Discipline.good_start _ fun call _ => handleBudget_sat call s

/--
In every interleaving budgets stay sound: each is its own user's and for one of that user's expense
categories, with an amount of whole cents. None ever disappears or moves to another user or category.
-/
theorem budgets_stay_sound (s : BudgetStore) (sound : s.Sound) (calls : List BudgetCall)
    (schedule : List Nat) :
    (interleaveBudgets s calls schedule).store.Sound ∧
    s.Grows (interleaveBudgets s calls schedule).store := by
  -- Every step is one that its request guarantees.
  rcases budgetDiscipline.good_exec (budgetDiscipline_start s calls) sound schedule
    (Pool.meets_trivial _ _) with ⟨_, kept, moved⟩
  exact ⟨kept, moved { now := 0, request := .archiveBudget { userId := 0, budgetId := 0 } }⟩

/-- A user with one expense category and no budget yet. -/
def groceries : BudgetStore :=
  { BudgetStore.empty with
    nextId := 1
    categories := ⟨[{ id := 0, userId := 1, name := "Makanan", type := .expense }], by decide⟩ }

theorem groceries_sound : groceries.Sound where
  numbered _ member := by cases member
  eligible _ member := by cases member
  payable _ member := by cases member

/-- Two requests to create the same budget, one to raise it, and two to archive it. -/
def budgetRace : List BudgetCall :=
  [{ now := 10, request := .createBudget { userId := 1, categoryId := 0, amount := some (.exact 100) } },
    { now := 11, request := .createBudget { userId := 1, categoryId := 0, amount := some (.exact 200) } },
    { now := 12, request := .updateBudgetAmount { userId := 1, budgetId := 1, amount := some (.exact 150) } },
    { now := 13, request := .archiveBudget { userId := 1, budgetId := 1 } },
    { now := 14, request := .archiveBudget { userId := 1, budgetId := 1 } }]

/-- Both creations have checked that there is no budget before either is written. -/
theorem budgets_stay_sound_race :
    (interleaveBudgets groceries budgetRace [0, 1, 0, 1, 0, 1, 2, 2]).store.Sound ∧
    groceries.Grows (interleaveBudgets groceries budgetRace [0, 1, 0, 1, 0, 1, 2, 2]).store :=
  budgets_stay_sound groceries groceries_sound budgetRace [0, 1, 0, 1, 0, 1, 2, 2]

/-- In every interleaving at most one request to create a user's budget for a category succeeds. -/
theorem createBudget_once (s : BudgetStore) (sound : s.Sound) (calls : List BudgetCall)
    (userId categoryId : Id)
    (schedule : List Nat) :
    (interleaveBudgets s calls schedule).AtMostOne handleBudget fun call =>
      ∃ amount, call.request = .createBudget { userId, categoryId, amount } := by
  -- An answer says that the place was free before its write and is taken after it.
  refine budgetDiscipline.unique_answer _ (fun s => ¬(s.budgetFor userId categoryId).isSome) ?_
    (budgetDiscipline_start s calls) sound schedule (Pool.meets_trivial _ _) ?_
  · rintro call value history s ⟨amount, asked⟩ concluded
    rcases concluded _ asked with ⟨free, taken⟩
    exact ⟨free, not_not_intro taken⟩
  · -- Requests that have just arrived have seen no store, and answered in none.
    rintro first _ thread _ located _ ⟨amount, asked⟩ _ ⟨value, answered⟩ _
    have member := List.mem_of_getElem? located
    have concluded := budgetDiscipline.post_of_good (budgetDiscipline_start s calls) member answered
    rcases (concluded _ asked).1 with ⟨_, last, _⟩
    rcases List.mem_map.mp member with ⟨_, _, rfl⟩
    simp at last

/-- Of two creations that have both passed their checks, the first to write succeeds alone. -/
theorem createBudget_once_race :
    let raced := interleaveBudgets groceries budgetRace [0, 1, 0, 1, 0, 1]
    (raced.AtMostOne handleBudget fun call =>
      ∃ amount, call.request = .createBudget { userId := 1, categoryId := 0, amount }) ∧
    (raced.store.budgets.rows.map fun row => (row.id, row.amount)) = [(1, 100)] :=
  ⟨createBudget_once groceries groceries_sound budgetRace 1 0 [0, 1, 0, 1, 0, 1], by decide +kernel⟩

/--
Every interleaving of budget requests is serializable: but for the moments of the last changes, it leaves what
the requests that write leave one after the other, each taking effect once, in the order of their writes.
-/
theorem budgets_serializable (s : BudgetStore) (sound : s.Sound) (calls : List BudgetCall)
    (schedule : List Nat) :
    ((Pool.start s calls).writers handleBudget schedule).Nodup ∧
    (interleaveBudgets s calls schedule).store.Alike
      (serially handleBudget calls s ((Pool.start s calls).writers handleBudget schedule)) := by
  constructor
  · exact Pool.writers_nodup handleBudget_writesOnce s calls schedule
  · -- Each write does what its request does alone, up to the moment of the change.
    have requests : (Pool.start s calls).threads.map Thread.request = calls := by
      simp [Pool.start, Function.comp_def]
    have serial := budgetDiscipline.serial_exec Alike.refl Alike.trans
      (fun call _ _ alike => handleBudget_alike call alike) (fun _ _ _ _ _ made => made.alone)
      (budgetDiscipline_start s calls) sound schedule
    rwa [requests] at serial

/-- Two requests that archive a budget both write, and leave what the first of them leaves alone. -/
theorem budgets_serializable_race :
    let schedule := [0, 0, 0, 3, 4, 3, 4]
    ((Pool.start groceries budgetRace).writers handleBudget schedule).Nodup ∧
    (interleaveBudgets groceries budgetRace schedule).store.Alike
      (serially handleBudget budgetRace groceries
        ((Pool.start groceries budgetRace).writers handleBudget schedule)) ∧
    (Pool.start groceries budgetRace).writers handleBudget schedule = [0, 3, 4] := by
  intro schedule
  have serial := budgets_serializable groceries groceries_sound budgetRace schedule
  exact ⟨serial.1, serial.2, by decide +kernel⟩

end PocketMint
