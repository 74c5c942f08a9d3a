import PocketMint.Js.Number

/-! Instalment plans: principal, flat monthly interest and term, at money scale. -/

namespace PocketMint

/-- Decimal places of every money column. -/
def moneyScale : ℕ := 2

/-- Round to the money scale, halves away from zero. -/
def toMoney (value : Decimal) : Decimal := value.toDecimalPlaces moneyScale

/-- What an instalment plan is computed from. -/
structure InstallmentPlanInput where
  principal : Decimal
  interestRatePctPerMonth : Decimal
  months : Int

/-- An instalment plan, every amount of it at money scale. -/
structure InstallmentPlan where
  totalAmount : Decimal
  totalInterest : Decimal
  grandTotal : Decimal
  monthlyAmount : Decimal
  finalMonthlyAmount : Decimal
  deriving DecidableEq

/-- The last term's payment, which absorbs what rounding the monthly amount left behind. -/
def computeFinalMonthlyAmount (grandTotal monthlyAmount : Decimal) (months : Int) : Decimal :=
  toMoney (grandTotal - monthlyAmount.times (months - 1))

/-- The plan for a principal, refusing terms and rates that make no plan. -/
def computeInstallmentPlan (input : InstallmentPlanInput) : Except String InstallmentPlan := do
  if input.months ≤ 0 then throw "installment months must be a positive integer"
  if input.principal ≤ 0 then throw "installment principal must be greater than zero"
  if input.interestRatePctPerMonth < 0 ∨ 100 < input.interestRatePctPerMonth then
    throw "installment interest rate must be between 0 and 100"
  let monthsDec : Decimal := input.months
  let totalAmount := toMoney input.principal
  let totalInterest :=
    toMoney (((input.principal.times input.interestRatePctPerMonth).div 100).times monthsDec)
  let grandTotal := toMoney (totalAmount + totalInterest)
  let monthlyAmount := toMoney (grandTotal.div monthsDec)
  let finalMonthlyAmount := computeFinalMonthlyAmount grandTotal monthlyAmount input.months
  return { totalAmount, totalInterest, grandTotal, monthlyAmount, finalMonthlyAmount }

end PocketMint
