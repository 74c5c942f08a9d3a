import PocketMint.Js.Number

/-! How much of a budget is used, from what was spent in a period. -/

namespace PocketMint

inductive BudgetStatus where
  | healthy
  | approaching
  | reached
  | exceeded
  | archived
  deriving DecidableEq

/-- What was spent of a budget in a period, and what that leaves. -/
structure BudgetUsage where
  spent : Decimal
  remaining : Decimal
  /-- Absent when the budget's amount is not positive. -/
  percentUsed : Option Decimal
  status : BudgetStatus
  deriving DecidableEq

/-- `APPROACHING_THRESHOLD`, in percent. -/
def approachingThreshold : Decimal := 75

/-- `spent.dividedBy(amount).times(HUNDRED)`. -/
def percentOf (spent amount : Decimal) : Decimal :=
  (spent.div amount).times 100

def computeBudgetUsage (amount spent : Decimal) (isArchived : Bool) : BudgetUsage :=
  let remaining := amount - spent
  if isArchived then
    { spent, remaining
      percentUsed := if 0 < amount then some (percentOf spent amount) else none
      status := .archived }
  else if ¬0 < amount then
    { spent, remaining
      percentUsed := none
      status := if 0 < spent then .exceeded else .healthy }
  else
    let percentUsed := percentOf spent amount
    { spent, remaining
      percentUsed := some percentUsed
      status :=
        if 100 < percentUsed then .exceeded
        else if percentUsed = 100 then .reached
        else if approachingThreshold ≤ percentUsed then .approaching
        else .healthy }

/-- Whatever the budget, its usage reports the amount spent. -/
@[simp] theorem computeBudgetUsage_spent (amount spent : Decimal) (isArchived : Bool) :
    (computeBudgetUsage amount spent isArchived).spent = spent := by
  unfold computeBudgetUsage
  split
  · rfl
  · split <;> rfl

end PocketMint
