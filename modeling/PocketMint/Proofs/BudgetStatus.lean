import Mathlib.Tactic.Positivity
import PocketMint.Domain.Budget
import PocketMint.Js.Cents
import PocketMint.Services.Budget

/-! The status of a budget is exact to the cent, although it is read off a quotient rounded twice. -/

namespace PocketMint

open Decimal

/-- More spent of the same budget is no smaller part of it. -/
theorem percentOf_le {amount spent more : Decimal} (positive : 0 < amount) (nonneg : 0 ≤ spent)
    (order : spent ≤ more) : percentOf spent amount ≤ percentOf more amount := by
  -- The quotient and the product are both rounded, and rounding keeps the order.
  have quotient : spent.div amount ≤ more.div amount :=
    roundSignificant_le (by positivity) ((div_le_div_iff_of_pos_right positive).mpr order)
  have least : 0 ≤ spent.div amount := roundSignificant_nonneg (by positivity)
  exact roundSignificant_le (by positivity) (mul_le_mul_of_nonneg_right quotient (by norm_num))

/-- A part that has no more digits than the library keeps is a percentage as it is. -/
theorem percentOf_of_ratio {amount spent : Decimal} {units : ℤ}
    (ratio : spent / amount = (units : ℚ) / 10 ^ 18)
    (bounded : |units| < 10 ^ precision) : percentOf spent amount = (units : ℚ) / 10 ^ 16 := by
  -- Neither rounding changes the units, which the product only moves by two places.
  have hundred : (units : ℚ) / 10 ^ 18 * 100 = (units : ℚ) / 10 ^ 16 := by
    norm_num
    ring
  rw [percentOf, Decimal.div, ratio, roundSignificant_units 18 bounded, times, hundred,
    roundSignificant_units 16 bounded]

/-- The percentage is on the same side of a bound as the part itself, if the bound has few digits. -/
theorem le_percentOf {amount spent : Decimal} {units : ℤ} (positive : 0 < amount) (nonneg : 0 ≤ units)
    (bounded : units < 10 ^ precision) (ratio : (units : ℚ) / 10 ^ 18 ≤ spent / amount) :
    (units : ℚ) / 10 ^ 16 ≤ percentOf spent amount := by
  -- The bound is the percentage of what is exactly that part of the amount.
  have part : amount * ((units : ℚ) / 10 ^ 18) / amount = (units : ℚ) / 10 ^ 18 := by
    field_simp
  rw [← percentOf_of_ratio part (by rwa [abs_of_nonneg nonneg])]
  have start : (0 : ℚ) ≤ units := by exact_mod_cast nonneg
  apply percentOf_le positive (by positivity)
  rw [le_div_iff₀ positive] at ratio
  linarith

/-- The percentage is on the same side of a bound as the part itself, if the bound has few digits. -/
theorem percentOf_le_of_ratio {amount spent : Decimal} {units : ℤ} (positive : 0 < amount)
    (nonneg : 0 ≤ spent) (least : 0 ≤ units) (bounded : units < 10 ^ precision)
    (ratio : spent / amount ≤ (units : ℚ) / 10 ^ 18) : percentOf spent amount ≤ (units : ℚ) / 10 ^ 16 := by
  have part : amount * ((units : ℚ) / 10 ^ 18) / amount = (units : ℚ) / 10 ^ 18 := by
    field_simp
  rw [← percentOf_of_ratio part (by rwa [abs_of_nonneg least])]
  apply percentOf_le positive nonneg
  rw [div_le_iff₀ positive] at ratio
  linarith

section Cents

variable {amount spent : Decimal} {cents spentCents : ℤ} (priced : amount = (cents : ℚ) / 100)
  (counted : spent = (spentCents : ℚ) / 100) (positive : 0 < cents) (bounded : cents < 10 ^ 15)
  (nonneg : 0 ≤ spentCents)

include priced counted positive

/-- The part that is spent is a quotient of cents. -/
theorem ratio_cents : 0 < amount ∧ spent / amount = (spentCents : ℚ) / cents := by
  have least : (0 : ℚ) < cents := by exact_mod_cast positive
  refine ⟨by rw [priced]; positivity, ?_⟩
  rw [priced, counted]
  field_simp

include bounded

/-- A cent above the amount is seen in the percentage. -/
theorem hundred_lt_percentOf (beyond : cents < spentCents) : 100 < percentOf spent amount := by
  -- One cent of at most fifteen digits is a part of the amount that twenty digits show.
  obtain ⟨start, ratio⟩ := ratio_cents priced counted positive
  have least : (0 : ℚ) < cents := by exact_mod_cast positive
  have most : (cents : ℚ) < 10 ^ 15 := by exact_mod_cast bounded
  have more : (cents : ℚ) + 1 ≤ spentCents := by exact_mod_cast beyond
  have apart : ((1000000000000001000 : ℤ) : ℚ) / 10 ^ 18 ≤ spent / amount := by
    rw [ratio, le_div_iff₀ least]
    norm_num at most ⊢
    linarith
  have shown := le_percentOf start (by decide) (by decide) apart
  norm_num at shown ⊢
  linarith

include nonneg

/-- A cent below the amount is seen in the percentage. -/
theorem percentOf_lt_hundred (under : spentCents < cents) : percentOf spent amount < 100 := by
  -- The part spent is the ratio of the cents.
  obtain ⟨start, ratio⟩ := ratio_cents priced counted positive
  have least : (0 : ℚ) < cents := by exact_mod_cast positive
  have most : (cents : ℚ) < 10 ^ 15 := by exact_mod_cast bounded
  have less : (spentCents : ℚ) + 1 ≤ cents := by exact_mod_cast under
  have total : 0 ≤ spent := by
    rw [counted]
    exact div_nonneg (by exact_mod_cast nonneg) (by norm_num)
  -- Amounts in cents that differ, differ by a part that twenty digits still show.
  have apart : spent / amount ≤ ((999999999999999000 : ℤ) : ℚ) / 10 ^ 18 := by
    rw [ratio, div_le_iff₀ least]
    norm_num at most ⊢
    linarith
  -- The shown percentage is monotone in the part, so it stays below a hundred as well.
  have shown := percentOf_le_of_ratio start total (by decide) (by decide) apart
  norm_num at shown ⊢
  linarith

/-- A percentage is below the threshold when the part is, by as little as four times a cent can be. -/
theorem threshold_le_percentOf_iff :
    approachingThreshold ≤ percentOf spent amount ↔ 3 * cents ≤ 4 * spentCents := by
  -- Both directions compare the part with three quarters at the last shown digit.
  obtain ⟨start, ratio⟩ := ratio_cents priced counted positive
  have least : (0 : ℚ) < cents := by exact_mod_cast positive
  have most : (cents : ℚ) < 10 ^ 15 := by exact_mod_cast bounded
  have total : 0 ≤ spent := by
    rw [counted]
    exact div_nonneg (by exact_mod_cast nonneg) (by norm_num)
  rw [approachingThreshold]
  constructor
  · intro reached
    -- Four times the spent cents would otherwise miss three times the amount by one at least.
    by_contra short
    have less : 4 * (spentCents : ℚ) + 1 ≤ 3 * cents := by exact_mod_cast (not_le.mp short)
    have apart : spent / amount ≤ ((749999999999999750 : ℤ) : ℚ) / 10 ^ 18 := by
      rw [ratio, div_le_iff₀ least]
      norm_num at most ⊢
      linarith
    have shown := percentOf_le_of_ratio start total (by decide) (by decide) apart
    norm_num at shown
    linarith
  · intro reached
    have enough : 3 * (cents : ℚ) ≤ 4 * spentCents := by exact_mod_cast reached
    have apart : ((750000000000000000 : ℤ) : ℚ) / 10 ^ 18 ≤ spent / amount := by
      rw [ratio, le_div_iff₀ least]
      norm_num
      linarith
    have shown := le_percentOf start (by decide) (by decide) apart
    norm_num at shown
    exact shown

/-- The status compares the cents that were spent with those of the amount. -/
theorem computeBudgetUsage_cents :
    (computeBudgetUsage amount spent false).status =
      if cents < spentCents then .exceeded
      else if spentCents = cents then .reached
      else if 3 * cents ≤ 4 * spentCents then .approaching
      else .healthy := by
  obtain ⟨start, ratio⟩ := ratio_cents priced counted positive
  have approached := threshold_le_percentOf_iff priced counted positive bounded nonneg
  -- The status is a chain of comparisons of the shown percentage.
  have status : (computeBudgetUsage amount spent false).status =
      if 100 < percentOf spent amount then .exceeded
      else if percentOf spent amount = 100 then .reached
      else if approachingThreshold ≤ percentOf spent amount then .approaching
      else .healthy := by
    simp only [computeBudgetUsage, Bool.false_eq_true, if_false, not_true_eq_false, start]
  rw [status]
  -- The shown percentage is on the same side of a hundred as the amounts are of each other.
  rcases lt_trichotomy spentCents cents with less | same | more
  · have shown := percentOf_lt_hundred priced counted positive bounded nonneg less
    simp only [if_neg (not_lt.mpr shown.le), if_neg shown.ne, if_neg (not_lt.mpr less.le), if_neg less.ne,
      approached]
  · -- Equal amounts are a part that the library writes with a single digit.
    have whole : spent / amount = ((1000000000000000000 : ℤ) : ℚ) / 10 ^ 18 := by
      have least : (cents : ℚ) ≠ 0 := by exact_mod_cast positive.ne'
      rw [ratio, same, div_self least]
      norm_num
    have shown : percentOf spent amount = 100 := by
      rw [percentOf_of_ratio whole (by decide)]
      norm_num
    rw [shown, same, if_neg (lt_irrefl _), if_pos rfl, if_neg (lt_irrefl _), if_pos rfl]
  · have shown := hundred_lt_percentOf priced counted positive bounded more
    rw [if_pos shown, if_pos more]

end Cents

/--
The status of a budget compares the cents spent with those of its amount, and more spent is never a
smaller percentage.
-/
theorem computeBudgetUsage_exact {value : Option DecimalInput} {amount spent : Decimal}
    (accepted : parseBudgetAmount value = .ok amount) (inCents : InCents spent) (nonneg : 0 ≤ spent) :
    let usage := computeBudgetUsage amount spent false
    (usage.status = .exceeded ↔ amount < spent) ∧
      (usage.status = .reached ↔ spent = amount) ∧
      (usage.status = .approaching ↔ spent < amount ∧ 3 * amount ≤ 4 * spent) ∧
      (usage.status = .healthy ↔ 4 * spent < 3 * amount) ∧
      ∀ more, InCents more → spent ≤ more →
        ∃ percent ∈ usage.percentUsed, ∃ later ∈ (computeBudgetUsage amount more false).percentUsed,
          percent ≤ later := by
  -- The accepted amount and the spent total are both whole numbers of cents.
  intro usage
  obtain ⟨cents, priced, positive, bounded⟩ := parseBudgetAmount_ok accepted
  obtain ⟨spentCents, whole⟩ := inCents_iff.mp inCents
  have counted : spent = (spentCents : ℚ) / 100 := by linarith
  have start := (ratio_cents priced counted positive).1
  have nonnegCents : 0 ≤ spentCents := by
    have : (0 : ℚ) ≤ spentCents := by linarith
    exact_mod_cast this
  -- Amounts compare as their cents.
  have beyond : amount < spent ↔ cents < spentCents := by
    rw [priced, counted, div_lt_div_iff_of_pos_right (by norm_num)]
    exact_mod_cast Iff.rfl
  have exact_ : spent = amount ↔ spentCents = cents := by
    rw [priced, counted, div_left_inj' (by norm_num)]
    exact_mod_cast Iff.rfl
  have threshold : 3 * amount ≤ 4 * spent ↔ 3 * cents ≤ 4 * spentCents := by
    rw [priced, counted, ← mul_div_assoc, ← mul_div_assoc, div_le_div_iff_of_pos_right (by norm_num)]
    exact_mod_cast Iff.rfl
  have under : spent < amount ↔ spentCents < cents := by
    rw [lt_iff_not_ge, lt_iff_not_ge, le_iff_lt_or_eq, le_iff_lt_or_eq, beyond, eq_comm, exact_, eq_comm]
  have short : 4 * spent < 3 * amount ↔ 4 * spentCents < 3 * cents := by
    rw [← not_le, ← not_le, threshold]
  have status := computeBudgetUsage_cents priced counted positive bounded nonnegCents
  -- Each status belongs to one case of the comparison, and the cases exclude one another.
  refine ⟨?_, ?_, ?_, ?_, ?_⟩
  · rw [status, beyond]
    split_ifs <;> simp <;> omega
  · rw [status, exact_]
    split_ifs <;> simp <;> omega
  · rw [status, under, threshold]
    split_ifs <;> simp <;> omega
  · rw [status, short]
    split_ifs <;> simp <;> omega
  -- More spending never shows a smaller percentage.
  · intro more _ order
    have percent : ∀ total, percentOf total amount ∈ (computeBudgetUsage amount total false).percentUsed := by
      intro total
      simp [computeBudgetUsage, start]
    exact ⟨_, percent spent, _, percent more, percentOf_le start nonneg order⟩

/-- A cent short of three quarters of a budget, and a cent beyond the whole of the largest one. -/
theorem computeBudgetUsage_exact_cent :
    (computeBudgetUsage 1000000 749999.99 false).status = .healthy ∧
      (computeBudgetUsage 9999999999999.99 10000000000000 false).status = .exceeded := by
  -- Both budgets are accepted as they are sent, and a cent decides their status.
  constructor
  · have accepted : parseBudgetAmount (some (.exact 1000000)) = .ok 1000000 := by decide +kernel
    have inCents : InCents 749999.99 := by decide +kernel
    exact (computeBudgetUsage_exact accepted inCents (by norm_num)).2.2.2.1.mpr (by norm_num)
  · have accepted : parseBudgetAmount (some (.exact 9999999999999.99)) = .ok 9999999999999.99 := by
      decide +kernel
    have inCents : InCents 10000000000000 := by decide +kernel
    exact (computeBudgetUsage_exact accepted inCents (by norm_num)).1.mpr (by norm_num)

end PocketMint
