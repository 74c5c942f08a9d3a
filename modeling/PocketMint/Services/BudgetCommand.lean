import PocketMint.Program.Pool
import PocketMint.Services.Budget
import PocketMint.Services.BudgetQuery

/-! The budget command service: a budget is created, gets another amount, and is archived and restored. -/

namespace PocketMint

open Prog (query throwIf orThrow ofExcept transact)

structure CreateBudgetInput where
  userId : Id
  categoryId : Id
  amount : Option DecimalInput

structure UpdateBudgetAmountInput where
  userId : Id
  budgetId : Id
  amount : Option DecimalInput

structure ArchiveBudgetInput where
  userId : Id
  budgetId : Id

structure RestoreBudgetInput where
  userId : Id
  budgetId : Id

namespace BudgetStore

variable (s : BudgetStore)

/-- `findFirst({ where: { userId, categoryId } })`. -/
def budgetFor (userId categoryId : Id) : Option Budget :=
  s.budgets.rows.find? fun row => row.userId = userId && row.categoryId = categoryId

/-- The store with one more budget, for a category that its user has no budget for. -/
def withBudget (row : Budget) (rows : Table Budget) (inserted : s.budgets.insert? row = some rows)
    (free : s.budgetFor row.userId row.categoryId = none) : BudgetStore :=
  { s with
    nextId := s.nextId + 1
    budgets := rows
    -- The pair of the new row is none of those that are there.
    onePerCategory := by
      rw [(Table.insert?_eq_some_iff.mp inserted).2, List.map_append, List.map_singleton]
      refine List.nodup_append.mpr ⟨s.onePerCategory, List.nodup_singleton _, fun pair among other here => ?_⟩
      rintro rfl
      obtain rfl := List.mem_singleton.mp here
      obtain ⟨taken, member, same⟩ := List.mem_map.mp among
      have apart := List.find?_eq_none.mp free taken member
      simp_all }

/-- Insert a budget, unless its identifier is taken or its user has one for its category. -/
def createBudget? (row : Budget) : Option BudgetStore :=
  if free : s.budgetFor row.userId row.categoryId = none then
    match inserted : s.budgets.insert? row with
    | none => none
    | some rows => some (s.withBudget row rows inserted free)
  else none

/-- The store with one budget rewritten, which stays its user's budget for its category. -/
def rewriteBudget (id : Id) (rewrite : Budget → Budget) (keeps : ∀ row, (rewrite row).id = row.id)
    (same : ∀ row, ((rewrite row).userId, (rewrite row).categoryId) = (row.userId, row.categoryId)) :
    BudgetStore :=
  { s with
    budgets := s.budgets.update id rewrite keeps
    onePerCategory := by
      -- No pair changes, so that they stay distinct.
      rw [Table.map_rows_update keeps same]
      exact s.onePerCategory }

end BudgetStore

namespace BudgetService

/-- The budget a request names, when it is the user's. -/
def findOwned (userId id : Id) : Prog BudgetStore Failure Budget := do
  let budget ← query fun s => s.ownBudget id userId
  orThrow budget (.service "Anggaran tidak ditemukan" 404 "NOT_FOUND")

def budgetAlreadyExists : Failure :=
  .service "Anggaran untuk kategori ini sudah ada" 409 "BUDGET_ALREADY_EXISTS"

/-- `budget.create`, with the unique constraint's refusal in the service's own words. -/
def insertBudget (data : Id → Budget) : Prog BudgetStore Failure Budget :=
  transact fun s =>
    let row := data s.nextId
    -- The category may be gone since it was read.
    if (s.categories.find? row.categoryId).isNone then .error (.prisma "P2003")
    else
      match s.createBudget? row with
      | none => .error budgetAlreadyExists
      | some after => .ok (row, after)

/-- `budget.update`. -/
def updateBudget (id : Id) (rewrite : Budget → Budget)
    (keeps : ∀ row, (rewrite row).id = row.id := by intro _; exact Eq.symm rfl)
    (same : ∀ row, ((rewrite row).userId, (rewrite row).categoryId) = (row.userId, row.categoryId) :=
      by intro _; exact Eq.symm rfl) : Prog BudgetStore Failure Budget :=
  transact fun s =>
    match s.budgets.find? id with
    | none => .error (.prisma "P2025")
    | some row => .ok (rewrite row, s.rewriteBudget id rewrite keeps same)

/-- The row of a new budget. -/
def newBudget (now : Instant) (input : CreateBudgetInput) (amount : Decimal) (id : Id) : Budget :=
  { id
    userId := input.userId
    categoryId := input.categoryId
    amount
    isArchived := false
    createdAt := now
    updatedAt := now }

end BudgetService

open BudgetService

def createBudget (now : Instant) (input : CreateBudgetInput) : Prog BudgetStore Failure Budget := do
  let amount ← ofExcept (parseBudgetAmount input.amount)
  let found ← query fun s => s.ownCategory input.categoryId input.userId
  let category ← orThrow found (.service "Kategori tidak ditemukan" 404 "CATEGORY_NOT_FOUND")
  throwIf (category.type ≠ .expense)
    (.service "Kategori bukan kategori pengeluaran" 422 "CATEGORY_NOT_EXPENSE")
  -- A budget for the category counts even when it is archived.
  let existing ← query fun s => s.budgetFor input.userId input.categoryId
  throwIf existing.isSome budgetAlreadyExists
  -- The reads above may be stale by now, and the unique constraint decides.
  insertBudget (newBudget now input amount)

def updateBudgetAmount (now : Instant) (input : UpdateBudgetAmountInput) :
    Prog BudgetStore Failure Budget := do
  -- The budget is looked up before the amount is parsed.
  let _existing ← findOwned input.userId input.budgetId
  let amount ← ofExcept (parseBudgetAmount input.amount)
  updateBudget input.budgetId fun row => { row with amount, updatedAt := now }

def archiveBudget (now : Instant) (input : ArchiveBudgetInput) : Prog BudgetStore Failure Budget := do
  let existing ← findOwned input.userId input.budgetId
  throwIf existing.isArchived (.service "Anggaran sudah diarsipkan" 409 "ALREADY_ARCHIVED")
  updateBudget input.budgetId fun row => { row with isArchived := true, updatedAt := now }

def restoreBudget (now : Instant) (input : RestoreBudgetInput) : Prog BudgetStore Failure Budget := do
  let existing ← findOwned input.userId input.budgetId
  throwIf (!existing.isArchived) (.service "Anggaran sudah aktif" 409 "ALREADY_ACTIVE")
  updateBudget input.budgetId fun row => { row with isArchived := false, updatedAt := now }

/-- A request that changes budgets. -/
inductive BudgetRequest where
  | createBudget (input : CreateBudgetInput)
  | updateBudgetAmount (input : UpdateBudgetAmountInput)
  | archiveBudget (input : ArchiveBudgetInput)
  | restoreBudget (input : RestoreBudgetInput)

/-- A request that changes budgets, with the time its clock reads. -/
structure BudgetCall where
  now : Instant
  request : BudgetRequest

/-- The service a call runs. -/
def handleBudget (call : BudgetCall) : Prog BudgetStore Failure Budget :=
  match call.request with
  | .createBudget input => PocketMint.createBudget call.now input
  | .updateBudgetAmount input => PocketMint.updateBudgetAmount call.now input
  | .archiveBudget input => PocketMint.archiveBudget call.now input
  | .restoreBudget input => PocketMint.restoreBudget call.now input

/-- The requests in flight over a database, after a schedule of their atomic steps. -/
def interleaveBudgets (s : BudgetStore) (calls : List BudgetCall) (schedule : List Nat) :
    Pool BudgetCall BudgetStore :=
  (Pool.start s calls).exec handleBudget schedule

end PocketMint
