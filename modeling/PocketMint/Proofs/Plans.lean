import PocketMint.Domain.InstallmentLaws

/-! The arithmetic of an instalment plan is exact: no cent is lost to the library's twenty digits. -/

namespace PocketMint

open Decimal (AtScale)

/-- A value that is not negative is rounded by the floor of half a unit more. -/
theorem toMoney_eq_floor {value : Decimal} (nonneg : 0 ≤ value) :
    toMoney value = (⌊value * 100 + 1 / 2⌋ : ℚ) / 100 := by
  have scaled : 0 ≤ value * 10 ^ moneyScale := mul_nonneg nonneg (by norm_num [moneyScale])
  rw [toMoney, Decimal.toDecimalPlaces, roundHalfUp, if_pos scaled]
  norm_num [moneyScale]

/-- Rounding to cents moves a value by at most half a cent. -/
theorem abs_toMoney_sub (value : Decimal) : |toMoney value - value| ≤ 1 / 200 := by
  have near := abs_roundHalfUp_sub (value * 10 ^ moneyScale)
  -- Rounding to cents moves a value by half a cent at most.
  have apart : toMoney value - value =
      (roundHalfUp (value * 10 ^ moneyScale) - value * 10 ^ moneyScale) / 100 := by
    rw [toMoney, Decimal.toDecimalPlaces]
    simp only [moneyScale]
    ring
  rw [apart, abs_div, div_le_iff₀ (by norm_num)]
  -- The nearest integer is half a unit away at most.
  refine near.trans ?_
  norm_num

/-- A value near a fraction rounds as the fraction does, as long as it is exact where this is a half. -/
theorem floor_half_eq {numerator denominator : ℤ} (positive : 0 < denominator) {value : ℚ}
    (near : |value - numerator / denominator| < 1 / (2 * denominator))
    (exact_ : (2 * numerator + denominator) % (2 * denominator) = 0 → value = numerator / denominator) :
    ⌊value + 1 / 2⌋ = ⌊(numerator / denominator : ℚ) + 1 / 2⌋ := by
  -- Half a unit more is a fraction of twice the denominator, with a quotient and a remainder.
  have cast : (0 : ℚ) < denominator := by exact_mod_cast positive
  have divided := Int.mul_ediv_add_emod (2 * numerator + denominator) (2 * denominator)
  have lowest := Int.emod_nonneg (2 * numerator + denominator) (show 2 * denominator ≠ 0 by omega)
  have highest := Int.emod_lt_of_pos (2 * numerator + denominator) (show 0 < 2 * denominator by omega)
  by_cases half : (2 * numerator + denominator) % (2 * denominator) = 0
  -- Exactly half is rounded from the fraction itself.
  · rw [exact_ half]
  · generalize (2 * numerator + denominator) / (2 * denominator) = quotient at divided
    generalize (2 * numerator + denominator) % (2 * denominator) = remainder at *
    have shifted : (numerator / denominator : ℚ) + 1 / 2 = quotient + remainder / (2 * denominator) := by
      have whole : (2 * denominator * quotient + remainder : ℚ) = 2 * numerator + denominator := by
        exact_mod_cast divided
      field_simp
      linarith
    -- The remainder keeps the fraction away from both integers around it.
    have step : (0 : ℚ) < 1 / (2 * denominator) := by positivity
    have above : 1 / (2 * denominator : ℚ) ≤ remainder / (2 * denominator) := by
      have one : (1 : ℚ) ≤ remainder := by exact_mod_cast (show 1 ≤ remainder by omega)
      exact div_le_div_of_nonneg_right one (by positivity)
    have below : (remainder : ℚ) / (2 * denominator) ≤ 1 - 1 / (2 * denominator) := by
      have last : (remainder : ℚ) ≤ 2 * denominator - 1 := by
        exact_mod_cast (show remainder ≤ 2 * denominator - 1 by omega)
      rw [div_le_iff₀ (by positivity), sub_mul, div_mul_cancel₀ _ (by positivity)]
      linarith
    -- The value is nearer to the fraction than the next integer is.
    rw [abs_lt] at near
    have floor : ⌊(numerator / denominator : ℚ) + 1 / 2⌋ = quotient := by
      rw [shifted, Int.floor_eq_iff]
      constructor <;> linarith
    rw [floor, Int.floor_eq_iff]
    constructor <;> linarith

/-- The monthly amount is the exact share of the grand total, rounded half up to cents. -/
theorem toMoney_div_months {grandTotal : Decimal} (scaled : AtScale grandTotal) (owed : 0 ≤ grandTotal)
    (fits : grandTotal < 10 ^ 13) {months : Int} (term : 1 ≤ months) :
    toMoney (grandTotal.div months) = (⌊grandTotal / months * 100 + 1 / 2⌋ : ℚ) / 100 := by
  rcases scaled with ⟨cents, rfl⟩
  have started : (1 : ℚ) ≤ months := by exact_mod_cast term
  have positive : (0 : ℚ) < months := by linarith
  -- The share is not negative, and in cents it is a plain quotient.
  have share : (0 : ℚ) ≤ cents / 100 / months := div_nonneg owed positive.le
  have same : (cents : ℚ) / 100 / months * 100 = cents / months := by
    field_simp
  have rounded : 0 ≤ Decimal.div (cents / 100 : ℚ) months := Decimal.roundSignificant_nonneg share
  rw [toMoney_eq_floor rounded, same]
  congr 2
  -- Rounding to twenty digits first could only matter next to a half of a cent.
  have error := Decimal.abs_roundSignificant_sub ((cents : ℚ) / 100 / months)
  refine floor_half_eq (show 0 < months by omega) ?_ ?_
  · -- Twenty digits of a share below ten trillion reach far below a cent's fraction of the term.
    -- The share is below ten trillion, divided by the term.
    have small : |(cents : ℚ) / 100 / months| ≤ 10 ^ 13 / months := by
      rw [abs_of_nonneg share]
      exact div_le_div_of_nonneg_right fits.le positive.le
    have moved : (Decimal.div (cents / 100 : ℚ) months : ℚ) * 100 - cents / months =
        (Decimal.roundSignificant ((cents : ℚ) / 100 / months) - (cents : ℚ) / 100 / months) * 100 := by
      rw [sub_mul, same]
      rfl
    rw [moved, abs_mul]
    -- The error is bounded by the twenty digits of the share.
    calc |Decimal.roundSignificant ((cents : ℚ) / 100 / months) - (cents : ℚ) / 100 / months| * |(100 : ℚ)|
        ≤ 10 ^ 13 / months / (2 * 10 ^ (Decimal.precision - 1)) * |(100 : ℚ)| := by
          refine mul_le_mul_of_nonneg_right (error.trans ?_) (abs_nonneg _)
          exact div_le_div_of_nonneg_right small (by norm_num [Decimal.precision])
      _ < 1 / (2 * months) := by
          rw [abs_of_pos (by norm_num), div_div, div_mul_eq_mul_div,
            div_lt_div_iff₀ (mul_pos positive (by norm_num [Decimal.precision])) (by linarith)]
          norm_num [Decimal.precision]
          linarith
  · -- Where the share is a half of a cent it has three places, and these the library keeps.
    intro half
    rcases Int.dvd_of_emod_eq_zero half with ⟨quotient, whole⟩
    have cast : (2 * cents + months : ℚ) = 2 * months * quotient := by exact_mod_cast whole
    have thousandths : (cents : ℚ) / 100 / months = ((5 * (2 * quotient - 1) : ℤ) : ℚ) / 10 ^ 3 := by
      push_cast
      field_simp
      linarith
    -- There are fewer than twenty of these digits.
    have digits : |(5 * (2 * quotient - 1) : ℤ)| < 10 ^ Decimal.precision := by
      have small : (cents : ℚ) / 100 / months < 10 ^ 13 := by
        rw [div_lt_iff₀ positive]
        nlinarith
      rw [thousandths, div_lt_iff₀ (by norm_num)] at small
      rw [thousandths] at share
      have low : (0 : ℚ) ≤ ((5 * (2 * quotient - 1) : ℤ) : ℚ) := by
        have := mul_nonneg share (show (0 : ℚ) ≤ 10 ^ 3 by norm_num)
        rwa [div_mul_cancel₀ _ (by norm_num)] at this
      have lowInt : 0 ≤ 5 * (2 * quotient - 1) := by exact_mod_cast low
      have highInt : 5 * (2 * quotient - 1) < 10 ^ 13 * 10 ^ 3 := by exact_mod_cast small
      rw [abs_of_nonneg lowInt]
      simp only [Decimal.precision]
      omega
    have kept := Decimal.roundSignificant_units 3 digits
    rw [← thousandths] at kept
    rw [Decimal.div, kept, same]

/-- The product of what is at money scale keeps its four places, and a quotient by a hundred its six. -/
theorem interest_exact {principal rate : Decimal} (cents : AtScale principal) (places : AtScale rate)
    (paid : 0 ≤ principal) (charged : 0 ≤ rate) {months : Int} (term : 1 ≤ months)
    (bounded : principal * rate * months / 100 < 10 ^ 14) :
    ((principal.times rate).div 100).times months = principal * rate * months / 100 := by
  -- The digits of every intermediate result are those of the last, or fewer.
  rcases cents with ⟨amount, rfl⟩
  rcases places with ⟨percent, rfl⟩
  have started : (1 : ℚ) ≤ months := by exact_mod_cast term
  -- The product of the digits is not negative.
  have nonneg : (0 : ℚ) ≤ (amount * percent : ℤ) := by
    have scaled := mul_nonneg (mul_nonneg paid charged) (show (0 : ℚ) ≤ 10 ^ 4 by norm_num)
    have same : (amount / 100 : ℚ) * (percent / 100) * 10 ^ 4 = ((amount * percent : ℤ) : ℚ) := by
      push_cast
      ring
    rwa [same] at scaled
  -- The last result has at most twenty digits.
  have last : ((amount * percent * months : ℤ) : ℚ) < 10 ^ 20 := by
    have same : (amount / 100 : ℚ) * (percent / 100) * months / 100 * 10 ^ 6 =
        ((amount * percent * months : ℤ) : ℚ) := by
      push_cast
      ring
    rw [← same]
    linarith
  -- The first one has no more.
  have first : ((amount * percent : ℤ) : ℚ) < 10 ^ 20 := by
    refine lt_of_le_of_lt ?_ last
    push_cast at nonneg ⊢
    exact le_mul_of_one_le_right nonneg started
  have nonnegInt : 0 ≤ amount * percent := by exact_mod_cast nonneg
  have digits : |amount * percent| < 10 ^ Decimal.precision := by
    rw [abs_of_nonneg nonnegInt]
    exact_mod_cast first
  have digits' : |amount * percent * months| < 10 ^ Decimal.precision := by
    rw [abs_of_nonneg (mul_nonneg nonnegInt (by omega))]
    exact_mod_cast last
  -- So none of the three operations rounds.
  have product : Decimal.times (amount / 100 : ℚ) (percent / 100) =
      ((amount * percent : ℤ) : ℚ) / 10 ^ 4 := by
    rw [← Decimal.roundSignificant_units 4 digits, Decimal.times]
    congr 1
    push_cast
    ring
  have quotient : Decimal.div (((amount * percent : ℤ) : ℚ) / 10 ^ 4) 100 =
      ((amount * percent : ℤ) : ℚ) / 10 ^ 6 := by
    rw [← Decimal.roundSignificant_units 6 digits, Decimal.div]
    congr 1
    ring
  have total : Decimal.times (((amount * percent : ℤ) : ℚ) / 10 ^ 6) months =
      ((amount * percent * months : ℤ) : ℚ) / 10 ^ 6 := by
    rw [← Decimal.roundSignificant_units 6 digits', Decimal.times]
    congr 1
    push_cast
    ring
  -- The three results are put together.
  rw [product, quotient, total]
  push_cast
  ring

/-- Rounding to the significant digits leaves at least nine tenths of what is not negative. -/
theorem le_roundSignificant {value : ℚ} (nonneg : 0 ≤ value) :
    9 / 10 * value ≤ Decimal.roundSignificant value := by
  have error := Decimal.abs_roundSignificant_sub value
  rw [abs_of_nonneg nonneg, abs_le] at error
  have small : value / (2 * 10 ^ (Decimal.precision - 1)) ≤ value / 10 := by
    apply div_le_div_of_nonneg_left nonneg (by norm_num)
    norm_num [Decimal.precision]
  linarith [error.1]

/-- An interest of a hundred trillion is not rounded to one that a grand total below ten trillion has. -/
theorem interest_bounded {principal rate : Decimal} (paid : 0 ≤ principal) (charged : 0 ≤ rate) {months : Int}
    (term : 1 ≤ months) (small : toMoney (((principal.times rate).div 100).times months) < 10 ^ 13) :
    principal * rate * months / 100 < 10 ^ 14 := by
  have started : (1 : ℚ) ≤ months := by exact_mod_cast term
  -- Each of the three roundings keeps nine tenths, and rounding to cents takes half a cent at most.
  have product : 9 / 10 * (principal * rate) ≤ principal.times rate :=
    le_roundSignificant (mul_nonneg paid charged)
  have nonneg : 0 ≤ principal.times rate := Decimal.roundSignificant_nonneg (mul_nonneg paid charged)
  have quotient : 9 / 10 * (principal.times rate / 100) ≤ (principal.times rate).div 100 :=
    le_roundSignificant (div_nonneg nonneg (by norm_num))
  have nonneg' : 0 ≤ (principal.times rate).div 100 :=
    Decimal.roundSignificant_nonneg (div_nonneg nonneg (by norm_num))
  have total : 9 / 10 * ((principal.times rate).div 100 * months) ≤
      ((principal.times rate).div 100).times months :=
    le_roundSignificant (mul_nonneg nonneg' (by linarith))
  -- And the interest in cents is near to what is rounded.
  have cents := abs_toMoney_sub (((principal.times rate).div 100).times months)
  rw [abs_le] at cents
  -- Three nine tenths are more than seven tenths.
  have chained : 9 / 10 * (9 / 10 * (9 / 10 * (principal * rate) / 100) * months) ≤
      ((principal.times rate).div 100).times months := by
    refine le_trans ?_ total
    refine mul_le_mul_of_nonneg_left (mul_le_mul_of_nonneg_right ?_ (by linarith)) (by norm_num)
    linarith
  have same : 9 / 10 * (9 / 10 * (9 / 10 * (principal * rate) / 100) * months) =
      729 / 1000 * (principal * rate * months / 100) := by
    ring
  -- So the exact interest is less than ten times the bound.
  rw [same] at chained
  linarith [cents.1]

/--
For a principal of whole cents, a rate of at most two decimals and a term of up to 120 months there is
a plan, and below ten trillion all of it is the exact arithmetic, rounded half up to cents once.
-/
theorem computeInstallmentPlan_exact {principal rate : Decimal} (cents : AtScale principal)
    (places : AtScale rate) (positive : 0 < principal) (low : 0 ≤ rate) (high : rate ≤ 100) {months : Int}
    (first : 1 ≤ months) (last : months ≤ 120) :
    ∃ plan, computeInstallmentPlan { principal, interestRatePctPerMonth := rate, months } = .ok plan ∧
      (plan.grandTotal < 10 ^ 13 →
        plan.totalInterest = (⌊principal * rate * months / 100 * 100 + 1 / 2⌋ : ℚ) / 100 ∧
        plan.grandTotal = principal + plan.totalInterest ∧
        plan.monthlyAmount = (⌊plan.grandTotal / months * 100 + 1 / 2⌋ : ℚ) / 100 ∧
        plan.monthlyAmount * (months - 1) + plan.finalMonthlyAmount = plan.grandTotal) := by
  -- Nothing is refused, and the plan is computed from its inputs.
  have computed : ∃ plan, computeInstallmentPlan { principal, interestRatePctPerMonth := rate, months } =
      .ok plan ∧
      plan.totalInterest = toMoney (((principal.times rate).div 100).times months) ∧
      plan.grandTotal = toMoney (toMoney principal + plan.totalInterest) ∧
      plan.monthlyAmount = toMoney (plan.grandTotal.div months) ∧
      plan.finalMonthlyAmount = computeFinalMonthlyAmount plan.grandTotal plan.monthlyAmount months := by
    have term : ¬months ≤ 0 := by omega
    have paid : ¬principal ≤ 0 := not_le.mpr positive
    have charged : ¬(rate < 0 ∨ 100 < rate) := by
      rw [not_or]
      exact ⟨not_lt.mpr low, not_lt.mpr high⟩
    simp only [computeInstallmentPlan, if_neg term, if_neg paid, if_neg charged]
    exact ⟨_, rfl, rfl, rfl, rfl, rfl⟩
  rcases computed with ⟨plan, planned, interest, total, monthly, final⟩
  refine ⟨plan, planned, ?_⟩
  intro fits
  have term : (1 : ℚ) ≤ months := by exact_mod_cast first
  rcases computeInstallmentPlan_ok planned with ⟨_, totalScaled, monthlyScaled, owed, share⟩
  -- The grand total is the sum of what is at money scale, so it is not rounded.
  have scaled : AtScale plan.totalInterest := interest ▸ toMoney_atScale _
  rw [toMoney_of_atScale cents, toMoney_of_atScale (cents.add scaled)] at total
  -- The interest is small enough to be exact before it is rounded to cents.
  have nonneg : 0 ≤ principal * rate * months / 100 :=
    div_nonneg (mul_nonneg (mul_nonneg positive.le low) (by linarith)) (by norm_num)
  have bounded := interest_bounded positive.le low first (by rw [← interest]; linarith)
  rw [interest_exact cents places positive.le low first bounded, toMoney_eq_floor nonneg] at interest
  -- The monthly amount is the rounded share of the total.
  rw [toMoney_div_months totalScaled owed fits first] at monthly
  refine ⟨interest, total, monthly, ?_⟩
  have product : |plan.monthlyAmount * (months - 1 : ℤ)| < 10 ^ 18 := by
    -- A monthly amount is hardly more than the grand total, and there are at most 119 before the last.
    have most : plan.monthlyAmount ≤ 10 ^ 13 + 1 := by
      have floor := Int.floor_le (plan.grandTotal / months * 100 + 1 / 2)
      have part : plan.grandTotal / months ≤ plan.grandTotal := div_le_self owed term
      rw [monthly]
      linarith
    have terms : (months : ℚ) ≤ 120 := by exact_mod_cast last
    push_cast
    rw [abs_of_nonneg (mul_nonneg share (by linarith))]
    calc plan.monthlyAmount * (months - 1 : ℚ) ≤ (10 ^ 13 + 1) * 119 :=
          mul_le_mul most (by linarith) (by linarith) (by norm_num)
      _ < 10 ^ 18 := by norm_num
  -- The final amount is what is left of the total, without a rounding.
  rw [final, computeFinalMonthlyAmount_eq totalScaled monthlyScaled product]
  ring

/-- A hundred at one and a half per cent over seven months: an interest of 10.50 and 15.79 a month. -/
theorem computeInstallmentPlan_exact_seven :
    ∃ plan, computeInstallmentPlan { principal := 100, interestRatePctPerMonth := 3 / 2, months := 7 } =
    .ok plan ∧
      plan.totalInterest = (⌊(100 : ℚ) * (3 / 2) * (7 : ℤ) / 100 * 100 + 1 / 2⌋ : ℚ) / 100 ∧
      plan.monthlyAmount = (⌊plan.grandTotal / (7 : ℤ) * 100 + 1 / 2⌋ : ℚ) / 100 := by
  have cents : AtScale 100 := ⟨10000, by norm_num⟩
  have places : AtScale (3 / 2) := ⟨150, by norm_num⟩
  rcases computeInstallmentPlan_exact cents places (by norm_num) (by norm_num) (by norm_num)
    (show (1 : ℤ) ≤ 7 by decide) (by decide) with ⟨plan, planned, exact_⟩
  -- The total is small enough for the exactness of the monthly amount.
  have fits : plan.grandTotal < 10 ^ 13 := by
    have evaluated : (computeInstallmentPlan
        { principal := 100, interestRatePctPerMonth := 3 / 2, months := 7 }).toOption.all
          (fun plan => plan.grandTotal < 10 ^ 13) := by
      decide +kernel
    rw [planned] at evaluated
    simpa [Except.toOption] using evaluated
  rcases exact_ fits with ⟨interest, _, monthly, _⟩
  exact ⟨plan, planned, interest, monthly⟩

end PocketMint
