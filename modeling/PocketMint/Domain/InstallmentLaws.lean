import PocketMint.Domain.Installment
import PocketMint.Js.NumberLaws

/-! Laws of instalment plans: every amount is at money scale, and the last term pays the exact rest. -/

namespace PocketMint

/-- Whether a value is a whole number of hundredths. -/
def Decimal.AtScale (value : Decimal) : Prop :=
  ∃ cents : ℤ, value = cents / 100

namespace Decimal.AtScale

variable {left right : Decimal}

theorem sub (first : AtScale left) (second : AtScale right) : AtScale (left - right) := by
  obtain ⟨m, rfl⟩ := first
  obtain ⟨n, rfl⟩ := second
  exact ⟨m - n, by push_cast; ring⟩

theorem add (first : AtScale left) (second : AtScale right) : AtScale (left + right) := by
  obtain ⟨m, rfl⟩ := first
  obtain ⟨n, rfl⟩ := second
  exact ⟨m + n, by push_cast; ring⟩

/-- Whole multiples stay at money scale. -/
theorem mul_int (scaled : AtScale left) (k : ℤ) : AtScale (left * k) := by
  obtain ⟨m, rfl⟩ := scaled
  exact ⟨m * k, by push_cast; ring⟩

/-- A whole multiple below the library's precision is computed exactly. -/
theorem times_int (scaled : AtScale left) {k : ℤ} (bounded : |left * k| < 10 ^ 18) :
    left.times k = left * k := by
  obtain ⟨n, same⟩ := scaled.mul_int k
  -- The product has fewer digits than the library keeps, so nothing is rounded.
  have digits : |n| < 10 ^ Decimal.precision := by
    rw [same, abs_div, div_lt_iff₀ (by norm_num)] at bounded
    have whole : |(n : ℚ)| < 10 ^ 20 := by
      refine bounded.trans_le ?_
      norm_num
    exact_mod_cast whole
  have hundredths : (n : ℚ) / 100 = (n : ℚ) / 10 ^ 2 := by norm_num
  rw [Decimal.times, same, hundredths]
  exact Decimal.roundSignificant_units 2 digits

end Decimal.AtScale

open Decimal (AtScale)

theorem toMoney_atScale (value : Decimal) : AtScale (toMoney value) :=
  ⟨roundHalfUp (value * 10 ^ moneyScale), by norm_num [toMoney, Decimal.toDecimalPlaces, moneyScale]⟩

/-- A value at money scale is not rounded. -/
theorem toMoney_of_atScale {value : Decimal} (scaled : AtScale value) : toMoney value = value := by
  -- A value in cents has nothing behind its second place.
  obtain ⟨n, rfl⟩ := scaled
  have whole : (n : ℚ) / 100 * 10 ^ moneyScale = n := by
    simp only [moneyScale]
    ring
  rw [toMoney, Decimal.toDecimalPlaces, whole, roundHalfUp_intCast]
  norm_num [moneyScale]

theorem toMoney_nonneg {value : Decimal} (nonneg : 0 ≤ value) : 0 ≤ toMoney value := by
  have scale : (0 : ℚ) ≤ 10 ^ moneyScale := by norm_num [moneyScale]
  exact div_nonneg (by exact_mod_cast roundHalfUp_nonneg (mul_nonneg nonneg scale)) scale

/-- The last term pays exactly what the terms before it leave of the grand total. -/
theorem computeFinalMonthlyAmount_eq {grandTotal monthlyAmount : Decimal} {months : Int}
    (total : AtScale grandTotal) (monthly : AtScale monthlyAmount)
    (bounded : |monthlyAmount * (months - 1 : ℤ)| < 10 ^ 18) :
    computeFinalMonthlyAmount grandTotal monthlyAmount months =
      grandTotal - monthlyAmount * (months - 1) := by
  -- The product is short enough to be exact, and so is what is left.
  have product : monthlyAmount.times (months - 1) = monthlyAmount * (months - 1 : ℤ) := by
    have exact_ := monthly.times_int bounded
    push_cast at exact_ ⊢
    exact exact_
  rw [computeFinalMonthlyAmount, product, toMoney_of_atScale (total.sub (monthly.mul_int _))]
  push_cast
  ring

/-- A plan has a term of its own, and amounts at money scale that are not negative. -/
theorem computeInstallmentPlan_ok {input : InstallmentPlanInput} {plan : InstallmentPlan}
    (planned : computeInstallmentPlan input = .ok plan) :
    0 < input.months ∧ AtScale plan.grandTotal ∧ AtScale plan.monthlyAmount ∧
      0 ≤ plan.grandTotal ∧ 0 ≤ plan.monthlyAmount := by
  unfold computeInstallmentPlan at planned
  -- A refused term, principal or rate makes no plan.
  by_cases months : input.months ≤ 0
  -- The term must be positive.
  · simp [months] at planned
    cases planned
  by_cases principal : input.principal ≤ 0
  -- So must the principal.
  · simp [months, principal] at planned
    cases planned
  by_cases rate : input.interestRatePctPerMonth < 0 ∨ 100 < input.interestRatePctPerMonth
  -- The rate lies between nothing and a hundred per cent.
  · simp [months, principal, rate] at planned
    cases planned
  simp only [months, principal, rate, if_false] at planned
  obtain rfl := Except.ok.inj planned
  have term : 0 < input.months := lt_of_not_ge months
  have termCast : (0 : ℚ) ≤ (input.months : ℚ) := by exact_mod_cast term.le
  have paid : 0 ≤ input.principal := (lt_of_not_ge principal).le
  have charged : 0 ≤ input.interestRatePctPerMonth := by
    by_contra negative
    exact rate (.inl (lt_of_not_ge negative))
  -- Interest is a product and a quotient of what is not negative.
  have monthly : 0 ≤ (input.principal.times input.interestRatePctPerMonth).div 100 :=
    Decimal.roundSignificant_nonneg (div_nonneg
      (Decimal.roundSignificant_nonneg (mul_nonneg paid charged)) (by norm_num))
  have interest := toMoney_nonneg (Decimal.roundSignificant_nonneg (mul_nonneg monthly termCast))
  have total := toMoney_nonneg (add_nonneg (toMoney_nonneg paid) interest)
  exact ⟨term, toMoney_atScale _, toMoney_atScale _, total,
    toMoney_nonneg (Decimal.roundSignificant_nonneg (div_nonneg total termCast))⟩

end PocketMint
