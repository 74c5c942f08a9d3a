import PocketMint.Js.NumberLaws

/-! Rounding to cents: when a sum rounds as its second part does by itself. -/

namespace PocketMint

theorem roundHalfUp_of_nonneg {value : ℚ} (nonneg : 0 ≤ value) : roundHalfUp value = ⌊value + 1 / 2⌋ := by
  rw [roundHalfUp, if_pos nonneg]

theorem roundHalfUp_of_neg {value : ℚ} (negative : value < 0) : roundHalfUp value = ⌈value - 1 / 2⌉ := by
  -- The magnitude is rounded up, which for the value itself is rounding down.
  rw [roundHalfUp, if_neg (not_le.mpr negative), ← Int.ceil_neg]
  congr 1
  ring

/-- Rounding does not tell the two sides of zero apart. -/
theorem roundHalfUp_neg (value : ℚ) : roundHalfUp (-value) = -roundHalfUp value := by
  -- The rounding takes halves away from zero, on both sides of it.
  rcases lt_trichotomy value 0 with negative | rfl | positive
  · rw [roundHalfUp_of_nonneg (by linarith), roundHalfUp_of_neg negative, ← Int.floor_neg]
    congr 1
    ring
  · have zero := roundHalfUp_intCast 0
    push_cast at zero
    rw [neg_zero, zero, neg_zero]
  · rw [roundHalfUp_of_neg (by linarith), roundHalfUp_of_nonneg positive.le, ← Int.ceil_neg]
    congr 1
    ring

/-- Only halves round up to another integer than they round down to. -/
theorem ceil_sub_half_eq_floor_add_half_iff (value : ℚ) :
    ⌈value - 1 / 2⌉ = ⌊value + 1 / 2⌋ ↔ Int.fract value ≠ 1 / 2 := by
  -- The value is its floor and a fraction, and only the fraction matters.
  have low : ⌈value - 1 / 2⌉ = ⌊value⌋ + ⌈Int.fract value - 1 / 2⌉ := by
    rw [← Int.ceil_intCast_add]
    congr 1
    linarith [Int.floor_add_fract value]
  have high : ⌊value + 1 / 2⌋ = ⌊value⌋ + ⌊Int.fract value + 1 / 2⌋ := by
    rw [← Int.floor_intCast_add]
    congr 1
    linarith [Int.floor_add_fract value]
  have nonneg := Int.fract_nonneg value
  have below := Int.fract_lt_one value
  rw [low, high, add_right_inj]
  -- A fraction below a half is rounded down on both sides, and one above it up.
  rcases lt_trichotomy (Int.fract value) (1 / 2) with less | half | more
  · have down : ⌈Int.fract value - 1 / 2⌉ = 0 :=
      Int.ceil_eq_iff.mpr ⟨by push_cast; linarith, by push_cast; linarith⟩
    have up : ⌊Int.fract value + 1 / 2⌋ = 0 :=
      Int.floor_eq_iff.mpr ⟨by push_cast; linarith, by push_cast; linarith⟩
    rw [down, up]
    exact iff_of_true rfl less.ne
  · rw [half]
    norm_num
  · have down : ⌈Int.fract value - 1 / 2⌉ = 1 :=
      Int.ceil_eq_iff.mpr ⟨by push_cast; linarith, by push_cast; linarith⟩
    have up : ⌊Int.fract value + 1 / 2⌋ = 1 :=
      Int.floor_eq_iff.mpr ⟨by push_cast; linarith, by push_cast; linarith⟩
    rw [down, up]
    exact iff_of_true rfl more.ne'

/--
A whole number and a value round as the value does, unless it is a half that the number takes across zero.
-/
theorem roundHalfUp_intCast_add_iff (n : ℤ) (value : ℚ) :
    roundHalfUp (n + value) = n + roundHalfUp value ↔
      (Int.fract value = 1 / 2 → (0 < value ↔ 0 < (n : ℚ) + value)) := by
  -- A half is not whole, so neither it nor the sum is zero.
  have apart : Int.fract value = 1 / 2 → value ≠ 0 ∧ (n : ℚ) + value ≠ 0 := by
    intro half
    constructor
    · rintro rfl
      norm_num at half
    · intro zero
      have whole : value = ((-n : ℤ) : ℚ) := by
        push_cast
        linarith
      rw [whole, Int.fract_intCast] at half
      norm_num at half
  have down : ⌈(n : ℚ) + value - 1 / 2⌉ = n + ⌈value - 1 / 2⌉ := by rw [add_sub_assoc, Int.ceil_intCast_add]
  have up : ⌊(n : ℚ) + value + 1 / 2⌋ = n + ⌊value + 1 / 2⌋ := by rw [add_assoc, Int.floor_intCast_add]
  -- Whether the two rounds go the same way depends on the sides of zero they start from.
  rcases lt_or_ge value 0 with negative | nonneg
  · rcases lt_or_ge ((n : ℚ) + value) 0 with below | above
    · -- Both round down.
      rw [roundHalfUp_of_neg below, roundHalfUp_of_neg negative, down]
      refine iff_of_true rfl fun _ => ?_
      exact iff_of_false (not_lt.mpr negative.le) (not_lt.mpr below.le)
    -- The value is rounded down and the sum up, which differ on a half alone.
    · rw [roundHalfUp_of_nonneg above, roundHalfUp_of_neg negative, up, add_right_inj, eq_comm,
        ceil_sub_half_eq_floor_add_half_iff]
      constructor
      · intro whole half
        exact absurd half whole
      · intro same half
        have positive : 0 < (n : ℚ) + value := lt_of_le_of_ne above (apart half).2.symm
        exact absurd ((same half).mpr positive) (not_lt.mpr negative.le)
  · rcases lt_or_ge ((n : ℚ) + value) 0 with below | above
    -- Here it is the other way round.
    · rw [roundHalfUp_of_neg below, roundHalfUp_of_nonneg nonneg, down, add_right_inj,
        ceil_sub_half_eq_floor_add_half_iff]
      constructor
      · intro whole half
        exact absurd half whole
      · intro same half
        have positive : 0 < value := lt_of_le_of_ne nonneg (apart half).1.symm
        exact absurd ((same half).mp positive) (not_lt.mpr below.le)
    · -- Both round up.
      rw [roundHalfUp_of_nonneg above, roundHalfUp_of_nonneg nonneg, up]
      refine iff_of_true rfl fun half => ?_
      exact iff_of_true (lt_of_le_of_ne nonneg (apart half).1.symm) (lt_of_le_of_ne above (apart half).2.symm)

/-- The value that a `Decimal(15, 2)` column takes when a value is assigned to it. -/
def moneyColumn (value : Decimal) : Decimal := value.toDecimalPlaces 2

/-- A value that such a column keeps as it is. -/
def InCents (value : Decimal) : Prop := moneyColumn value = value

instance : DecidablePred InCents := fun value => by
  unfold InCents
  infer_instance

/-- A value is in cents when a hundred times it is whole. -/
theorem inCents_iff {value : Decimal} : InCents value ↔ ∃ cents : ℤ, value * 100 = cents := by
  unfold InCents moneyColumn Decimal.toDecimalPlaces
  norm_num
  -- What rounding to cents keeps is a whole number of them.
  constructor
  · intro same
    refine ⟨roundHalfUp (value * 100), ?_⟩
    linarith
  · rintro ⟨cents, whole⟩
    rw [whole, roundHalfUp_intCast, ← whole]
    ring

/-- What a column holds is in cents. -/
theorem inCents_moneyColumn (value : Decimal) : InCents (moneyColumn value) := by
  rw [inCents_iff]
  -- A rounded value is a number of hundredths.
  refine ⟨roundHalfUp (value * 10 ^ 2), ?_⟩
  unfold moneyColumn Decimal.toDecimalPlaces
  norm_num

theorem inCents_zero : InCents 0 := inCents_iff.mpr ⟨0, by norm_num⟩

theorem InCents.neg {value : Decimal} (whole : InCents value) : InCents (-value) := by
  rcases inCents_iff.mp whole with ⟨cents, same⟩
  refine inCents_iff.mpr ⟨-cents, ?_⟩
  push_cast
  linarith

theorem InCents.add {first second : Decimal} (whole : InCents first) (whole' : InCents second) :
    InCents (first + second) := by
  rcases inCents_iff.mp whole with ⟨cents, same⟩
  rcases inCents_iff.mp whole' with ⟨cents', same'⟩
  refine inCents_iff.mpr ⟨cents + cents', ?_⟩
  push_cast
  linarith

theorem moneyColumn_neg (value : Decimal) : moneyColumn (-value) = -moneyColumn value := by
  unfold moneyColumn Decimal.toDecimalPlaces
  -- Rounding to hundredths is symmetric about zero, as rounding to whole numbers is.
  rw [neg_mul, roundHalfUp_neg]
  push_cast
  ring

/--
A change that a balance takes as it is rounded: it has no half cent, or it leaves the balance on its own side.
-/
def Settles (balance change : Decimal) : Prop :=
  Int.fract (change * 100) = 1 / 2 → (0 < change ↔ 0 < balance + change)

instance (balance change : Decimal) : Decidable (Settles balance change) := by
  unfold Settles
  infer_instance

/-- A balance in cents changes by the rounded change exactly when it takes the change as it is rounded. -/
theorem moneyColumn_add_iff {balance change : Decimal} (whole : InCents balance) :
    moneyColumn (balance + change) = balance + moneyColumn change ↔ Settles balance change := by
  rcases inCents_iff.mp whole with ⟨cents, same⟩
  -- In hundredths the balance is a whole number.
  have sum : (balance + change) * 100 = cents + change * 100 := by linarith
  have scaled : moneyColumn (balance + change) = balance + moneyColumn change ↔
      roundHalfUp (cents + change * 100) = cents + roundHalfUp (change * 100) := by
    have moved : balance = (cents : ℚ) / 100 := by linarith
    unfold moneyColumn Decimal.toDecimalPlaces
    norm_num
    rw [sum, moved, ← add_div, div_left_inj' (by norm_num)]
    exact_mod_cast Iff.rfl
  -- Scaling by a hundred keeps the sides of zero.
  have change_ : 0 < change * 100 ↔ 0 < change := by
    constructor <;> intro positive <;> linarith
  have sum_ : 0 < (cents : ℚ) + change * 100 ↔ 0 < balance + change := by
    constructor <;> intro positive <;> linarith
  rw [scaled, roundHalfUp_intCast_add_iff, change_, sum_]
  exact Iff.rfl

/-- A balance and a change that are both in cents are added as they are. -/
theorem InCents.settles {balance change : Decimal} (whole : InCents change) : Settles balance change := by
  -- A change in cents has no half cent.
  rcases inCents_iff.mp whole with ⟨cents, same⟩
  intro half
  rw [same, Int.fract_intCast] at half
  norm_num at half

end PocketMint
