import Mathlib.Tactic.FieldSimp
import Mathlib.Tactic.Linarith
import Mathlib.Tactic.NormNum
import Mathlib.Tactic.Ring
import PocketMint.Js.Number

/-! Laws of the decimal library's rounding: what it keeps, and that it makes nothing negative. -/

namespace PocketMint

/-- A whole number is its own nearest integer. -/
@[simp] theorem roundHalfUp_intCast (n : ℤ) : roundHalfUp (n : ℚ) = n := by
  -- Half a unit is added on either side of zero, and the floor takes it away again.
  have half : ∀ m : ℤ, ⌊(m : ℚ) + 1 / 2⌋ = m := by
    intro m
    rw [Int.floor_eq_iff]
    constructor <;> linarith
  unfold roundHalfUp
  split
  · exact half n
  · have negative := half (-n)
    push_cast at negative
    rw [negative, neg_neg]

/-- The nearest integer is at most half a unit away. -/
theorem abs_roundHalfUp_sub (value : ℚ) : |(roundHalfUp value : ℚ) - value| ≤ 1 / 2 := by
  -- On either side of zero the floor is taken of half a unit more.
  have near : ∀ magnitude : ℚ, |(⌊magnitude + 1 / 2⌋ : ℚ) - magnitude| ≤ 1 / 2 := by
    intro magnitude
    have low := Int.floor_le (magnitude + 1 / 2)
    have high := Int.lt_floor_add_one (magnitude + 1 / 2)
    rw [abs_le]
    constructor <;> linarith
  unfold roundHalfUp
  split
  · exact near value
  -- The mirror image of a negative value is rounded, and mirrored back.
  · have mirrored := near (-value)
    rw [abs_sub_comm] at mirrored
    push_cast
    have same : -(⌊-value + 1 / 2⌋ : ℚ) - value = -value - (⌊-value + 1 / 2⌋ : ℚ) := by ring
    rw [same]
    exact mirrored

/-- What is not negative rounds to nothing negative. -/
theorem roundHalfUp_nonneg {value : ℚ} (nonneg : 0 ≤ value) : 0 ≤ roundHalfUp value := by
  rw [roundHalfUp, if_pos nonneg]
  exact Int.floor_nonneg.mpr (by linarith)

/-- Rounding keeps the order of values. -/
theorem roundHalfUp_le {value later : ℚ} (order : value ≤ later) : roundHalfUp value ≤ roundHalfUp later := by
  -- A negative value is rounded by its magnitude, which shrinks as the value grows.
  rcases le_or_gt 0 value with nonneg | negative
  · rw [roundHalfUp, roundHalfUp, if_pos nonneg, if_pos (nonneg.trans order)]
    exact Int.floor_mono (by linarith)
  · rw [roundHalfUp, if_neg (not_le.mpr negative)]
    -- Across zero the rounded values lie on either side of it.
    rcases le_or_gt 0 later with nonneg | negative'
    · have magnitude : 0 ≤ ⌊-value + 1 / 2⌋ := Int.floor_nonneg.mpr (by linarith)
      have rounded := roundHalfUp_nonneg nonneg
      omega
    · rw [roundHalfUp, if_neg (not_le.mpr negative')]
      exact neg_le_neg (Int.floor_mono (by linarith))

namespace Decimal

/-- Rounding to the significant digits keeps a value of so many places that has no more digits. -/
theorem roundSignificant_units {units : ℤ} (places : ℕ) (bounded : |units| < 10 ^ precision) :
    roundSignificant ((units : ℚ) / 10 ^ places) = (units : ℚ) / 10 ^ places := by
  unfold roundSignificant
  split
  · rename_i zero
    exact zero.symm
  · rename_i nonzero
    -- The leading digit stands left enough for the scale to reach the last place.
    have place : (0 : ℚ) < 10 ^ places := by positivity
    have magnitude : 0 < |(units : ℚ) / 10 ^ places| := abs_pos.mpr nonzero
    -- The digits fit into the precision, so the value is below that power of ten.
    have high : |(units : ℚ) / 10 ^ places| < (10 : ℚ) ^ ((precision : ℤ) - places) := by
      have digits : |(units : ℚ)| < 10 ^ precision := by exact_mod_cast bounded
      rw [zpow_sub₀ (by norm_num), zpow_natCast, zpow_natCast, abs_div, abs_of_pos place]
      exact (div_lt_div_iff_of_pos_right place).mpr digits
    have low : Int.log 10 |(units : ℚ) / 10 ^ places| < (precision : ℤ) - places :=
      (Int.lt_zpow_iff_log_lt (by norm_num) magnitude).mp (by exact_mod_cast high)
    obtain ⟨extra, reach⟩ : ∃ extra : ℕ,
        ((precision : ℤ) - 1 - Int.log 10 |(units : ℚ) / 10 ^ places|) = ((extra + places : ℕ) : ℤ) := by
      refine ⟨((precision : ℤ) - 1 - places - Int.log 10 |(units : ℚ) / 10 ^ places|).toNat, ?_⟩
      omega
    -- The scale is a power of ten that takes the value to a whole number.
    have scale : (10 : ℚ) ^ ((precision : ℤ) - 1 - Int.log 10 |(units : ℚ) / 10 ^ places|) =
        10 ^ extra * 10 ^ places := by
      rw [reach, zpow_natCast, pow_add]
    have whole : (units : ℚ) / 10 ^ places * (10 ^ extra * 10 ^ places) = ((units * 10 ^ extra : ℤ) : ℚ) := by
      push_cast
      field_simp
    simp only [scale, whole, roundHalfUp_intCast]
    push_cast
    field_simp

/-- Rounding to the significant digits moves a value by at most half a unit of its last digit. -/
theorem abs_roundSignificant_sub (value : ℚ) :
    |roundSignificant value - value| ≤ |value| / (2 * 10 ^ (precision - 1)) := by
  unfold roundSignificant
  split
  · rename_i zero
    simp [zero]
  · rename_i nonzero
    have magnitude : 0 < |value| := abs_pos.mpr nonzero
    -- The value is at least one of its leading digit's place.
    have leading : (10 : ℚ) ^ Int.log 10 |value| ≤ |value| := by
      exact_mod_cast Int.zpow_log_le_self (by norm_num) magnitude
    have positive : (0 : ℚ) < 10 ^ ((precision : ℤ) - 1 - Int.log 10 |value|) := zpow_pos (by norm_num) _
    have least : (0 : ℚ) < 10 ^ Int.log 10 |value| := zpow_pos (by norm_num) _
    -- The scale and the leading place make up the full precision.
    have split : (10 : ℚ) ^ ((precision : ℤ) - 1 - Int.log 10 |value|) * 10 ^ Int.log 10 |value| =
        10 ^ (precision - 1) := by
      rw [← zpow_add₀ (by norm_num)]
      norm_num [precision]
    generalize (10 : ℚ) ^ ((precision : ℤ) - 1 - Int.log 10 |value|) = scale at positive split
    have near := abs_roundHalfUp_sub (value * scale)
    have apart : (roundHalfUp (value * scale) : ℚ) / scale - value =
        (roundHalfUp (value * scale) - value * scale) / scale := by
      field_simp
    simp only [apart, abs_div, abs_of_pos positive]
    rw [div_le_div_iff₀ positive (by positivity), ← split]
    -- The error of rounding is half a unit of the last place, which the leading place measures.
    calc |(roundHalfUp (value * scale) : ℚ) - value * scale| * (2 * (scale * 10 ^ Int.log 10 |value|))
        ≤ 1 / 2 * (2 * (scale * 10 ^ Int.log 10 |value|)) :=
          mul_le_mul_of_nonneg_right near (mul_pos two_pos (mul_pos positive least)).le
      _ = scale * 10 ^ Int.log 10 |value| := by ring
      _ ≤ scale * |value| := mul_le_mul_of_nonneg_left leading positive.le
      _ = |value| * scale := mul_comm scale |value|

/-- What is not negative keeps no sign when it is rounded. -/
theorem roundSignificant_nonneg {value : ℚ} (nonneg : 0 ≤ value) : 0 ≤ roundSignificant value := by
  unfold roundSignificant
  split
  · exact le_rfl
  -- The scale is positive, so dividing by it keeps the sign.
  · have scale : 0 ≤ (10 : ℚ) ^ ((precision : ℤ) - 1 - Int.log 10 |value|) :=
      zpow_nonneg (by norm_num) _
    exact div_nonneg (by exact_mod_cast roundHalfUp_nonneg (mul_nonneg nonneg scale)) scale

/-- A positive value lies between the place of its leading digit and the place before it. -/
theorem leading_digit {value : ℚ} (positive : 0 < value) :
    (10 : ℚ) ^ Int.log 10 |value| ≤ value ∧ value < (10 : ℚ) ^ (Int.log 10 |value| + 1) := by
  -- The logarithm of a value is the place of its leading digit.
  rw [abs_of_pos positive]
  constructor
  · exact_mod_cast Int.zpow_log_le_self (by norm_num) positive
  · exact_mod_cast Int.lt_zpow_succ_log_self (by norm_num) value

/-- Rounding to the significant digits leaves a positive value in the reach of its leading digit. -/
theorem roundSignificant_leading {value : ℚ} (positive : 0 < value) :
    (10 : ℚ) ^ Int.log 10 |value| ≤ roundSignificant value ∧
      roundSignificant value ≤ (10 : ℚ) ^ (Int.log 10 |value| + 1) := by
  -- At the scale of its digits, both ends of the reach are whole numbers, which rounding keeps.
  have reach := leading_digit positive
  rw [roundSignificant, if_neg positive.ne']
  generalize Int.log 10 |value| = exponent at reach
  have scale : (0 : ℚ) < 10 ^ ((precision : ℤ) - 1 - exponent) := zpow_pos (by norm_num) _
  have low : (10 : ℚ) ^ exponent * 10 ^ ((precision : ℤ) - 1 - exponent) =
      ((10 ^ (precision - 1) : ℤ) : ℚ) := by
    rw [← zpow_add₀ (by norm_num)]
    norm_num [precision]
  have high : (10 : ℚ) ^ (exponent + 1) * 10 ^ ((precision : ℤ) - 1 - exponent) =
      ((10 ^ precision : ℤ) : ℚ) := by
    rw [← zpow_add₀ (by norm_num), show exponent + 1 + ((precision : ℤ) - 1 - exponent) = precision by ring]
    norm_num [precision]
  constructor
  · rw [le_div_iff₀ scale, low]
    have kept := roundHalfUp_le (mul_le_mul_of_nonneg_right reach.1 scale.le)
    rw [low, roundHalfUp_intCast] at kept
    exact_mod_cast kept
  · rw [div_le_iff₀ scale, high]
    have kept := roundHalfUp_le (mul_le_mul_of_nonneg_right reach.2.le scale.le)
    rw [high, roundHalfUp_intCast] at kept
    exact_mod_cast kept

/-- Rounding to the significant digits keeps the order of values that are not negative. -/
theorem roundSignificant_le {value later : ℚ} (nonneg : 0 ≤ value) (order : value ≤ later) :
    roundSignificant value ≤ roundSignificant later := by
  -- Nothing is rounded below zero, and zero is not rounded at all.
  rcases nonneg.eq_or_lt with rfl | positive
  · rw [show roundSignificant 0 = 0 from if_pos rfl]
    exact roundSignificant_nonneg order
  · have positive' := positive.trans_le order
    have exponents : Int.log 10 |value| ≤ Int.log 10 |later| := by
      rw [abs_of_pos positive, abs_of_pos positive']
      exact Int.log_mono_right positive order
    -- Values of one leading place share their scale, and those of two are parted by the later place.
    rcases exponents.eq_or_lt with same | apart
    · rw [roundSignificant, roundSignificant, if_neg positive.ne', if_neg positive'.ne', same]
      have scale : (0 : ℚ) < 10 ^ ((precision : ℤ) - 1 - Int.log 10 |later|) := zpow_pos (by norm_num) _
      rw [div_le_div_iff_of_pos_right scale]
      exact_mod_cast roundHalfUp_le (mul_le_mul_of_nonneg_right order scale.le)
    · calc roundSignificant value ≤ (10 : ℚ) ^ (Int.log 10 |value| + 1) :=
        (roundSignificant_leading positive).2
        _ ≤ (10 : ℚ) ^ Int.log 10 |later| := zpow_le_zpow_right₀ (by norm_num) (by omega)
        _ ≤ roundSignificant later := (roundSignificant_leading positive').1

end Decimal

end PocketMint
