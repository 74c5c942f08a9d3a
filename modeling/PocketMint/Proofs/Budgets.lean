import PocketMint.Services.BudgetQuery
import PocketMint.Services.TransactionQueryLaws
import PocketMint.Proofs.LedgerRaces

/-! Budgets looked up one by one, listed together, and added up against the month's expenses. -/

namespace PocketMint

open BudgetQueryService TransactionQueryService
open Prog (query orThrow)

namespace BudgetStore

variable (s : BudgetStore)

/-- Every budget of a user, whether archived or not. -/
def allBudgets (userId : Id) : List Budget :=
  s.budgets.rows.filter fun row => row.userId = userId

/-- The usage of one budget over a period. -/
def usageOf (userId : Id) (range : ReportingRange) (row : Budget) : BudgetWithUsage :=
  withUsage (s.includeCategory row) range
    (aggregateSum Transaction.amount
      (s.expensesIn userId range fun category => category = some row.categoryId))

/-- The expenses of a month, in every category and in none. -/
abbrev monthExpenses (userId : Id) (range : ReportingRange) : List Transaction :=
  s.expensesIn userId range fun _ => true

/-- Whether every expense of a period has a category that the user has a budget for. -/
def Covered (userId : Id) (range : ReportingRange) : Prop :=
  ∀ row ∈ s.monthExpenses userId range,
    row.categoryId ∈ (s.allBudgets userId).map fun budget => some budget.categoryId

/-- Narrowing the expenses by category is one test after the other. -/
theorem filter_expensesIn (userId : Id) (range : ReportingRange) (test category : Option Id → Bool) :
    ((s.expensesIn userId range test).filter fun row => category row.categoryId) =
      s.expensesIn userId range fun id => test id && category id := by
  simp only [expensesIn, List.filter_filter]
  apply List.filter_congr
  intro row _
  cases test row.categoryId <;> cases category row.categoryId <;> simp

/-- The user's budgets with an archive flag are those without it set and those with it. -/
theorem budgetsOf_perm (userId : Id) :
    (s.budgetsOf userId true ++ s.budgetsOf userId false).Perm (s.allBudgets userId) := by
  -- A budget is archived or it is not.
  have split := List.filter_append_perm Budget.isArchived (s.allBudgets userId)
  simp only [allBudgets, List.filter_filter] at split
  refine List.Perm.trans (.of_eq ?_) split
  congr 1 <;>
  · apply List.filter_congr
    intro row _
    cases row.isArchived <;> simp [Bool.and_comm]

/-- A user's budgets are for different categories. -/
theorem categories_nodup (userId : Id) :
    ((s.allBudgets userId).map fun budget => some budget.categoryId).Nodup := by
  have pairs : ((s.allBudgets userId).map fun row => (row.userId, row.categoryId)).Nodup :=
    s.onePerCategory.sublist (List.filter_sublist.map _)
  -- With the user fixed, the pair is determined by the category.
  have same : ((s.allBudgets userId).map fun row => (row.userId, row.categoryId)) =
      ((s.allBudgets userId).map fun row => row.categoryId).map (Prod.mk userId) := by
    rw [List.map_map]
    apply List.map_congr_left
    intro row among
    have owner : row.userId = userId := of_decide_eq_true (List.mem_filter.mp among).2
    simp [owner]
  -- A user has one budget for a category at most.
  rw [same] at pairs
  have categories := pairs.of_map.map (Option.some_injective Id)
  rwa [List.map_map] at categories

/-- What a budget's usage reports as spent is the sum of the month's expenses in its category. -/
theorem usageOf_spent (userId : Id) (range : ReportingRange) (row : Budget) :
    (s.usageOf userId range row).spent =
      (((s.monthExpenses userId range).filter fun expense =>
        expense.categoryId = some row.categoryId).map Transaction.amount).sum := by
  have narrowed := s.filter_expensesIn userId range (fun _ => true)
    fun category => category = some row.categoryId
  rw [narrowed]
  simp [usageOf, withUsage]

/-- Over all of a user's budgets, what was spent is the sum of the expenses with a budget. -/
theorem sum_usageOf (userId : Id) (range : ReportingRange) :
    (((s.allBudgets userId).map (s.usageOf userId range)).map fun record => record.spent).sum =
      (((s.monthExpenses userId range).filter fun row =>
        row.categoryId ∈ (s.allBudgets userId).map fun budget => some budget.categoryId).map
          Transaction.amount).sum := by
  rw [← sum_groups Transaction.amount Transaction.categoryId _ (s.categories_nodup userId)]
  simp only [List.map_map]
  congr 1
  apply List.map_congr_left
  intro row _
  exact s.usageOf_spent userId range row

end BudgetStore

/-- The budget service resolves its period as the transaction service does its month. -/
theorem resolveMonthRange_eq (zone : Zone) (now : Instant) (month year : Option Int) :
    resolveMonthRange zone now month year =
      (resolveBudgetPeriod zone now month year).map fun range =>
        (range, resolveMonthYear zone now month year) := by
  -- Both services apply the same defaults, so they ask for the range of the same month.
  have same : resolveBudgetPeriod zone now month year =
      getReportingMonthRange (resolveMonthYear zone now month year) zone := rfl
  rw [same, resolveMonthRange]
  cases getReportingMonthRange (resolveMonthYear zone now month year) zone <;> rfl

section Runs

variable {zone : Zone} {now : Instant} {userId : Id} {month year : Option Int}
variable {s : BudgetStore}

/-- A budget the user owns is answered with its usage over the period. -/
theorem getBudgetUsage_run {row : Budget} (member : row ∈ s.allBudgets userId) :
    (getBudgetUsage zone now { userId, budgetId := row.id, month, year }).run s =
      (match resolveBudgetPeriod zone now month year with
        | .ok range => .ok (s.usageOf userId range row)
        | .error message => .error (.thrown message), s) := by
  obtain ⟨among, owner⟩ := List.mem_filter.mp member
  -- A budget of the user's list is the user's own, so it is found.
  have own : s.ownBudget row.id userId = some row := by
    rw [BudgetStore.ownBudget, Option.filter_eq_some_iff]
    exact ⟨Table.find?_of_mem among, owner⟩
  -- The month may not resolve, and then nothing is computed.
  cases resolved : resolveBudgetPeriod zone now month year with
  | error message =>
    simp [getBudgetUsage, query, orThrow, Prog.ofExcept, Prog.run, own, resolved, Except.mapError]
  | ok range =>
    simp [getBudgetUsage, query, orThrow, Prog.ofExcept, Prog.run, own, resolved, Except.mapError,
      BudgetStore.usageOf, BudgetStore.includeCategory]

/-- The budgets a list answers with, in the order of their creation. -/
def BudgetStore.listed (s : BudgetStore) (userId : Id) (isArchived : Bool) : List Budget :=
  (s.budgetsOf userId isArchived).insertionSort fun row other => row.createdAt ≤ other.createdAt

theorem BudgetStore.listed_perm (userId : Id) (isArchived : Bool) :
    (s.listed userId isArchived).Perm (s.budgetsOf userId isArchived) :=
  List.perm_insertionSort _ _

/-- A usage depends on the sum that was found, or on the zero that stands for none. -/
theorem withUsage_congr {budget : BudgetRecordWithCategory} {range : ReportingRange}
    {sum other : Option Decimal} (same : sum.getD 0 = other.getD 0) :
    withUsage budget range sum = withUsage budget range other := by
  rw [withUsage, same, withUsage]

/-- A sum found through the groups of a list is the sum of the budget's own query. -/
theorem withUsage_lookup {range : ReportingRange} {row : Budget} {ids : List Id}
    (among : row.categoryId ∈ ids) :
    withUsage (s.includeCategory row) range
        (((groupSums Transaction.amount Transaction.categoryId
          (s.expensesIn userId range fun category => category.any (· ∈ ids))).lookup
            (some row.categoryId)).bind id) =
      s.usageOf userId range row := by
  -- The sums of the list are those of the rows of its categories.
  have narrowed := s.filter_expensesIn userId range (fun category => category.any (· ∈ ids))
    fun category => category = some row.categoryId
  -- A category of the list passes the test for the whole list.
  have alone : (fun category : Option Id => category.any (· ∈ ids) && category = some row.categoryId) =
      fun category => decide (category = some row.categoryId) := by
    funext category
    by_cases same : category = some row.categoryId <;> simp [same, among]
  have sums := lookup_groupSums Transaction.amount Transaction.categoryId
    (s.expensesIn userId range fun category => category.any (· ∈ ids)) (some row.categoryId)
  -- So the sum of this category is the one that is computed for it alone.
  rw [narrowed, alone] at sums
  apply withUsage_congr
  rw [sums, aggregateSum_getD]

/-- A list that is about no budget is empty, whatever the period. -/
theorem listActiveBudgetUsage_none {status : Option BudgetFilter}
    (none_ : s.listed userId (status = some .archived) = []) :
    (listActiveBudgetUsage zone now { userId, month, year, status }).run s = (.ok [], s) := by
  have budgets : ((s.budgetsOf userId (decide (status = some .archived))).insertionSort
      fun row other => row.createdAt ≤ other.createdAt) = [] := none_
  simp [listActiveBudgetUsage, query, Prog.run, budgets]

/-- A list that is about some budget answers with the usage of each, or refuses with the period. -/
theorem listActiveBudgetUsage_some {status : Option BudgetFilter}
    (some_ : s.listed userId (status = some .archived) ≠ []) :
    (listActiveBudgetUsage zone now { userId, month, year, status }).run s =
      (match resolveBudgetPeriod zone now month year with
        | .ok range => .ok ((s.listed userId (status = some .archived)).map (s.usageOf userId range))
        | .error message => .error (.thrown message), s) := by
  -- The budgets are listed by their time of creation.
  have listed : ((s.budgetsOf userId (decide (status = some .archived))).insertionSort
      fun row other => row.createdAt ≤ other.createdAt) =
      s.listed userId (status = some .archived) := rfl
  have more : ((s.listed userId (status = some .archived)).map s.includeCategory).isEmpty = false := by
    simpa using some_
  simp only [listActiveBudgetUsage, query, Prog.read_bind, Prog.ret_bind, Prog.run, listed, more]
  -- The month is resolved only where there is a budget to compute.
  cases resolved : resolveBudgetPeriod zone now month year with
  | error message => simp [Prog.ofExcept, Prog.run, Except.mapError]
  | ok range =>
    simp only [Bool.false_eq_true, if_false, Except.mapError, Prog.ofExcept, Prog.ret_bind,
      Prog.run, Prog.pure_eq, List.map_map]
    congr 2
    apply List.map_congr_left
    -- Each budget is answered with its own usage.
    intro row among
    -- The groups were asked for with this budget's category among the others.
    exact withUsage_lookup (List.mem_map_of_mem among)

/-- Over a period that resolves, a list answers with the usage of every budget it is about. -/
theorem listActiveBudgetUsage_resolved {range : ReportingRange} (status : Option BudgetFilter)
    (resolved : resolveBudgetPeriod zone now month year = .ok range) :
    (listActiveBudgetUsage zone now { userId, month, year, status }).run s =
      (.ok ((s.listed userId (status = some .archived)).map (s.usageOf userId range)), s) := by
  by_cases none_ : s.listed userId (status = some .archived) = []
  · rw [listActiveBudgetUsage_none none_, none_]
    rfl
  · rw [listActiveBudgetUsage_some none_, resolved]

/-- The active and the archived lists together answer with every budget of the user once. -/
theorem BudgetStore.listed_all (userId : Id) :
    (s.listed userId false ++ s.listed userId true).Perm (s.allBudgets userId) :=
  ((s.listed_perm userId false).append (s.listed_perm userId true)).trans
    (List.perm_append_comm.trans (s.budgetsOf_perm userId))

/-- A listed budget is one of the user's. -/
theorem BudgetStore.mem_of_listed {isArchived : Bool} {row : Budget}
    (member : row ∈ s.listed userId isArchived) : row ∈ s.allBudgets userId := by
  have among := (s.listed_perm userId isArchived).mem_iff.mp member
  simp only [budgetsOf, allBudgets, List.mem_filter, Bool.and_eq_true] at among ⊢
  exact ⟨among.1, among.2.1⟩

/-- What both lists report as spent is the sum of the expenses with a budget. -/
theorem BudgetStore.sum_listed (userId : Id) (range : ReportingRange) :
    (((s.listed userId false).map (s.usageOf userId range) ++
        (s.listed userId true).map (s.usageOf userId range)).map fun record => record.spent).sum =
      (((s.monthExpenses userId range).filter fun row =>
        row.categoryId ∈ (s.allBudgets userId).map fun budget => some budget.categoryId).map
          Transaction.amount).sum := by
  rw [← s.sum_usageOf userId range, ← List.map_append]
  exact (((s.listed_all userId).map _).map _).sum_eq

/-- The expenses of the month are those among the transactions of its range. -/
theorem BudgetStore.monthExpenses_eq (userId : Id) (range : ReportingRange) :
    s.monthExpenses userId range =
      (s.transactionsIn userId range.startInclusive range.endExclusive).filter fun row =>
        row.type = .expense := by
  simp only [monthExpenses, expensesIn, Store.transactionsIn, rowsBetween, List.filter_filter]
  apply List.filter_congr
  intro row _
  simp [Bool.and_comm, Bool.and_assoc, Bool.and_left_comm]

/-- A summary of a month that resolves reports the sum of its expenses. -/
theorem getSummary_resolved {range : ReportingRange}
    (resolved : resolveBudgetPeriod zone now month year = .ok range) :
    ∃ reported, ((getSummary zone now { userId, month, year }).run s.toStore).1 = .ok reported ∧
      reported.expenses = ((s.monthExpenses userId range).map Transaction.amount).sum := by
  -- The summary resolves the same month as the budgets do.
  have same : resolveMonthRange zone now month year =
      .ok (range, resolveMonthYear zone now month year) := by
    rw [resolveMonthRange_eq, resolved]
    rfl
  -- The summary reports the expenses of the window.
  have reports : ∃ reported, (getSummary zone now { userId, month, year }).run s.toStore = _ ∧ _ ∧ _ :=
    getSummary_run same
  obtain ⟨reported, answered, -, expenses⟩ := reports
  exact ⟨reported, congrArg Prod.fst answered, expenses.trans (by rw [s.monthExpenses_eq])⟩

end Runs

/--
Budgets agree with each other and with the summary of the month.

A list answers with every budget of the user once, each as it is answered alone.
Together the budgets account for no more than the expenses of the month.
They account for all of them when every expense has a category with a budget.
Where the month has no range, every answer about a budget is the same refusal.
-/
theorem listActiveBudgetUsage_agrees (zone : Zone) (now : Instant) (s : BudgetStore) (userId : Id)
    (month year : Option Int) (nonneg : ∀ row ∈ s.transactions.rows, 0 ≤ row.amount) :
    let list := fun status =>
      ((listActiveBudgetUsage zone now { userId, month, year, status }).run s).1
    let get := fun row : Budget =>
      ((getBudgetUsage zone now { userId, budgetId := row.id, month, year }).run s).1
    let summary := ((getSummary zone now { userId, month, year }).run s.toStore).1
    let matching := fun status : Option BudgetFilter => s.budgetsOf userId (status = some .archived)
    match resolveBudgetPeriod zone now month year with
    | .ok range =>
      (∀ status, ∃ records, list status = .ok records ∧
        (records.map fun record => record.budget.toBudget).Perm (matching status) ∧
        ∀ record ∈ records, get record.budget.toBudget = .ok record) ∧
      ∃ active archived reported,
        list (some .active) = .ok active ∧ list (some .archived) = .ok archived ∧
        summary = .ok reported ∧
        ((active ++ archived).map fun record => record.spent).sum ≤ reported.expenses ∧
        (s.Covered userId range →
          ((active ++ archived).map fun record => record.spent).sum = reported.expenses)
    | .error message =>
      (∀ status, list status = if (matching status).isEmpty then .ok [] else .error (.thrown message)) ∧
      (∀ row ∈ s.allBudgets userId, get row = .error (.thrown message)) ∧
      summary = .error (.thrown message) := by
  intro list get summary matching
  -- All three requests resolve the month alike, and refuse alike where it does not resolve.
  cases resolved : resolveBudgetPeriod zone now month year with
  | error message =>
    have same : resolveMonthRange zone now month year = .error message := by
      rw [resolveMonthRange_eq, resolved]
      rfl
    refine ⟨?_, ?_, congrArg Prod.fst (getSummary_refused same)⟩
    · intro status
      -- Without a budget the list is empty, and no month is resolved.
      by_cases none_ : s.listed userId (status = some .archived) = []
      · have empty := (s.listed_perm userId (status = some .archived)).symm
        rw [none_, List.perm_nil] at empty
        simp only [list, matching, listActiveBudgetUsage_none none_, empty, List.isEmpty_nil, if_true]
      -- With a budget the list is refused like the others.
      · have more : s.budgetsOf userId (status = some .archived) ≠ [] := by
          intro empty
          have nothing := s.listed_perm userId (status = some .archived)
          rw [empty, List.perm_nil] at nothing
          exact none_ nothing
        simp only [list, matching, listActiveBudgetUsage_some none_, resolved, List.isEmpty_iff, more,
          if_false]
    -- A single budget is refused with the same message.
    · intro row member
      simp only [get, getBudgetUsage_run member, resolved]
  | ok range =>
    have listed : ∀ status, list status =
        .ok ((s.listed userId (status = some .archived)).map (s.usageOf userId range)) :=
      fun status => congrArg Prod.fst (listActiveBudgetUsage_resolved status resolved)
    refine ⟨?_, ?_⟩
    · intro status
      refine ⟨_, listed status, ?_, ?_⟩
      -- The records are those of the budgets, in some order.
      · rw [List.map_map]
        exact (List.Perm.of_eq (List.map_id _)).trans (s.listed_perm userId _)
      -- And each record is what its budget is answered with alone.
      · intro record among
        obtain ⟨row, member, rfl⟩ := List.mem_map.mp among
        show get row = .ok (s.usageOf userId range row)
        simp only [get, getBudgetUsage_run (s.mem_of_listed member), resolved]
    · have reports : ∃ reported, summary = .ok reported ∧
          reported.expenses = ((s.monthExpenses userId range).map Transaction.amount).sum :=
        getSummary_resolved resolved
      obtain ⟨reported, answered, expenses⟩ := reports
      refine ⟨_, _, reported, listed _, listed _, answered, ?_, ?_⟩
      -- What is spent under a budget is spent in the month.
      · rw [expenses]
        refine (s.sum_listed userId range).trans_le (sum_filter_le _ _ fun row among => ?_)
        exact nonneg row (List.mem_filter.mp among).1
      -- If every expense has a budget, nothing else is spent.
      · intro covered
        rw [expenses]
        refine (s.sum_listed userId range).trans ?_
        rw [List.filter_eq_self.mpr fun row among => decide_eq_true (covered row among)]

/-- An active and an archived budget, for two categories of a user who has bought for 100. -/
def budgeted : BudgetStore :=
  { serveAll defaultTimezone.zone .empty spent with
    nextId := 17
    budgets :=
      ⟨[{ id := 15, userId := 1, categoryId := 0, amount := 400, isArchived := false, createdAt := 1
          updatedAt := 1 },
        { id := 16, userId := 1, categoryId := 1, amount := 50, isArchived := true, createdAt := 2
          updatedAt := 2 }], by decide⟩
    onePerCategory := by decide }

/-- The purchase is in the category of the active budget, so the lists account for the month. -/
theorem listActiveBudgetUsage_agrees_spent :
    ∃ active archived reported,
      ((listActiveBudgetUsage defaultTimezone.zone 0 { userId := 1 }).run budgeted).1 = .ok active ∧
      ((listActiveBudgetUsage defaultTimezone.zone 0
        { userId := 1, status := some .archived }).run budgeted).1 = .ok archived ∧
      ((getSummary defaultTimezone.zone 0 { userId := 1 }).run budgeted.toStore).1 = .ok reported ∧
      ((active ++ archived).map fun record => record.spent).sum = reported.expenses := by
  -- The month of the example resolves, and its expenses are all covered by a budget.
  have agrees := listActiveBudgetUsage_agrees defaultTimezone.zone 0 budgeted 1 none none
    (by decide)
  have resolved : resolveBudgetPeriod defaultTimezone.zone 0 none none =
      .ok { startInclusive := -25200000, endExclusive := 2653200000 } := by
    decide
  simp only [resolved] at agrees
  obtain ⟨_, active, archived, reported, first, second, answered, _, total⟩ := agrees
  refine ⟨active, archived, reported, first, second, answered, total ?_⟩
  unfold BudgetStore.Covered
  decide

/-- In the year 300000, which no `Date` reaches, no month has a range, so that no budget is listed. -/
theorem listActiveBudgetUsage_refuses :
    (∀ row ∈ budgeted.transactions.rows, 0 ≤ row.amount) ∧
      (budgeted.budgetsOf 1 false).map Budget.id = [15] ∧
      ((listActiveBudgetUsage defaultTimezone.zone 0 { userId := 1, year := some 300000 }).run budgeted).1 =
        .error (.thrown "date must be a valid date") := by
  decide

end PocketMint
