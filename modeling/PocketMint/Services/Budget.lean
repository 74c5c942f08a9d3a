import PocketMint.Store.Client

/-! The amounts that the budget service takes from a client. -/

namespace PocketMint

namespace BudgetService

/-- `AMOUNT_SCALE`, in decimal places. -/
def amountScale : ℕ := 2

/-- `AMOUNT_MAX`, the largest value of the column: thirteen digits before the point and two behind it. -/
def amountMax : Decimal := 9999999999999.99

/-- `amount.decimalPlaces() <= places`: no digit is left behind that many places. -/
def FitsPlaces (places : ℕ) (amount : Decimal) : Prop := (amount * 10 ^ places).den = 1

instance (places : ℕ) : DecidablePred (FitsPlaces places) := fun amount =>
  inferInstanceAs (Decidable ((amount * 10 ^ places).den = 1))

end BudgetService

open BudgetService

/-- The amount of a budget; what is missing is `undefined`, `null` or the empty text. -/
def parseBudgetAmount (value : Option DecimalInput) : Except Failure Decimal :=
  match value with
  | none => .error (.service "amount is required" 400 "BAD_REQUEST")
  | some input =>
    match input.decimal with
    | some (.finite amount) =>
      if amount ≤ 0 then .error (.service "amount must be greater than zero" 422 "INVALID_AMOUNT")
      else if ¬FitsPlaces amountScale amount then
        .error (.service "amount must have at most 2 decimal places" 422 "INVALID_AMOUNT")
      else if amountMax < amount then
        .error (.service "amount exceeds the maximum supported value" 422 "INVALID_AMOUNT")
      else .ok amount
    -- The constructor throws on a malformed text, and infinities and `NaN` are refused alike.
    | _ => .error (.service "amount must be a valid number" 400 "BAD_REQUEST")

/-- An accepted amount is a positive number of cents that its column holds. -/
theorem parseBudgetAmount_ok {value : Option DecimalInput} {amount : Decimal}
    (accepted : parseBudgetAmount value = .ok amount) :
    ∃ cents : ℤ, amount = (cents : ℚ) / 100 ∧ 0 < cents ∧ cents < 10 ^ 15 := by
  -- Every check but the last branch refuses, so each check has passed.
  unfold parseBudgetAmount at accepted
  split at accepted
  · cases accepted
  · split at accepted
    · rename_i number valued
      split at accepted
      · cases accepted
      · rename_i positive
        split at accepted
        · cases accepted
        · rename_i scaled
          split at accepted
          · cases accepted
          · rename_i bounded
            obtain rfl := Except.ok.inj accepted
            -- A value without digits behind the second place is a number of hundredths.
            have whole : ((number * 100).num : ℚ) = number * 100 := by
              rw [not_not, FitsPlaces, amountScale] at scaled
              norm_num at scaled
              exact (Rat.den_eq_one_iff _).mp scaled
            have least : (0 : ℚ) < (number * 100).num := by
              rw [whole]
              linarith
            have most : ((number * 100).num : ℚ) < 10 ^ 15 := by
              rw [whole]
              rw [amountMax] at bounded
              norm_num at bounded ⊢
              linarith
            refine ⟨(number * 100).num, ?_, by exact_mod_cast least, by exact_mod_cast most⟩
            rw [whole]
            ring
    · cases accepted

end PocketMint
