import PocketMint.Domain.Budget
import PocketMint.Services.TransactionQuery

/-! The budget query service: what was spent of a user's budgets in a month. -/

namespace PocketMint

open Prog (query orThrow ofExcept)

/-- What a user means to spend on a category in a month. -/
structure Budget where
  id : Id
  userId : Id
  categoryId : Id
  amount : Decimal
  isArchived : Bool
  createdAt : Instant
  updatedAt : Instant
  deriving DecidableEq

instance : Keyed Budget := ⟨Budget.id⟩

/-- The database with its budgets, of which a user has at most one for each category. -/
structure BudgetStore extends Store where
  budgets : Table Budget
  onePerCategory : (budgets.rows.map fun row => (row.userId, row.categoryId)).Nodup

def BudgetStore.empty : BudgetStore :=
  { Store.empty with budgets := .empty, onePerCategory := List.nodup_nil }

/-- A budget row with the parts of its category that a response includes. -/
structure BudgetRecordWithCategory extends Budget where
  category : Option CategoryRef
  deriving DecidableEq

/-- A budget with its usage in a period. -/
structure BudgetWithUsage extends BudgetUsage where
  budget : BudgetRecordWithCategory
  periodStart : Instant
  periodEnd : Instant
  deriving DecidableEq

structure GetBudgetUsageInput where
  userId : Id
  budgetId : Id
  month : Option Int := none
  year : Option Int := none

/-- The budgets a list is about. -/
inductive BudgetFilter where
  | active
  | archived
  deriving DecidableEq

structure ListActiveBudgetUsageInput where
  userId : Id
  month : Option Int := none
  year : Option Int := none
  status : Option BudgetFilter := none

namespace BudgetStore

variable (s : BudgetStore)

/-- Join a budget with its category. -/
def includeCategory (row : Budget) : BudgetRecordWithCategory :=
  { row with category := (s.categories.find? row.categoryId).map Category.ref }

/-- `findFirst({ where: { id, userId } })`. -/
def ownBudget (id userId : Id) : Option Budget :=
  (s.budgets.find? id).filter fun row => row.userId = userId

/-- `findMany({ where: { userId, isArchived } })`. -/
def budgetsOf (userId : Id) (isArchived : Bool) : List Budget :=
  s.budgets.rows.filter fun row => row.userId = userId && row.isArchived = isArchived

/-- The expenses of a user in a period whose category passes a test. -/
def expensesIn (userId : Id) (range : ReportingRange) (category : Option Id → Bool) :
    List Transaction :=
  s.transactions.rows.filter fun row =>
    row.userId = userId && category row.categoryId && row.type = .expense &&
      range.startInclusive ≤ row.date && row.date < range.endExclusive

end BudgetStore

namespace BudgetQueryService

/-- The calendar month of the clock in the reporting zone. -/
def currentReportingMonth (zone : Zone) (now : Instant) : CalendarMonth :=
  TransactionQueryService.currentReportingMonth zone now

/-- The range of the requested month; a zero counts as an omitted value. -/
def resolveBudgetPeriod (zone : Zone) (now : Instant) (month year : Option Int) :
    Except String ReportingRange :=
  let current := currentReportingMonth zone now
  let m :=
    match month with
    | none => current.month
    -- A month out of range is moved to the nearest end of the year.
    | some m => min (max (if m = 0 then current.month else m) 1) 12
  let y :=
    match year with
    | none => current.year
    | some y => if y = 0 then current.year else y
  getReportingMonthRange { month := m, year := y } zone

/-- The usage of a budget over a period, from the sum a query found, if any. -/
def withUsage (budget : BudgetRecordWithCategory) (range : ReportingRange) (sum : Option Decimal) :
    BudgetWithUsage :=
  { computeBudgetUsage budget.amount (sum.getD 0) budget.isArchived with
    budget
    periodStart := range.startInclusive
    periodEnd := range.endExclusive }

end BudgetQueryService

open BudgetQueryService

def getBudgetUsage (zone : Zone) (now : Instant) (input : GetBudgetUsageInput) :
    Prog BudgetStore Failure BudgetWithUsage := do
  let found ← query fun s => (s.ownBudget input.budgetId input.userId).map s.includeCategory
  let budget ← orThrow found (.service "Anggaran tidak ditemukan" 404 "NOT_FOUND")
  let range ← ofExcept ((resolveBudgetPeriod zone now input.month input.year).mapError Failure.thrown)
  let sum ← query fun s =>
    aggregateSum Transaction.amount
      (s.expensesIn input.userId range fun category => category = some budget.categoryId)
  return withUsage budget range sum

def listActiveBudgetUsage (zone : Zone) (now : Instant) (input : ListActiveBudgetUsageInput) :
    Prog BudgetStore Failure (List BudgetWithUsage) := do
  let isArchived := decide (input.status = some .archived)
  let budgets ← query fun s =>
    -- Budgets are listed by their age.
    ((s.budgetsOf input.userId isArchived).insertionSort fun row other =>
      row.createdAt ≤ other.createdAt).map s.includeCategory
  -- Without a budget the period is not even computed.
  if budgets.isEmpty then return []
  let range ← ofExcept ((resolveBudgetPeriod zone now input.month input.year).mapError Failure.thrown)
  let categoryIds := budgets.map fun budget => budget.categoryId
  -- One grouped query sums for all budgets at once.
  let spentByCategory ← query fun s =>
    groupSums Transaction.amount Transaction.categoryId
      (s.expensesIn input.userId range fun category => category.any (· ∈ categoryIds))
  return budgets.map fun budget =>
    withUsage budget range ((spentByCategory.lookup (some budget.categoryId)).bind id)

end PocketMint
