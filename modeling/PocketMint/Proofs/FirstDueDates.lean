import PocketMint.Domain.BillingCycleLaws
import PocketMint.Domain.ReportingDays

/-! The first due date of a purchase follows its billing cycle, and so keeps the order of purchases. -/

namespace PocketMint

open Js Calendar BillingCycle

/-- A day of the years 1000 to 9990. -/
def Purchasable (day : Int) : Prop := 12 * 1000 ≤ monthOf day ∧ monthOf day < 12 * 9991

instance : DecidablePred Purchasable := fun day =>
  inferInstanceAs (Decidable (12 * 1000 ≤ monthOf day ∧ monthOf day < 12 * 9991))

/-- The first due date of a purchase on a day, as its text. -/
def firstDue (cutoffDay paymentDueDay day : Int) : Except String String :=
  calculateFirstDueDate
    { transactionDate := dayText day, cutoffDay, paymentDueDay, timeZone := "Asia/Jakarta" }

/--
A purchase is due on the payment day of the month after its cycle closes, which is after it closes. A
later purchase is due no earlier, and on the same day exactly when the same day closes its cycle.
-/
theorem calculateFirstDueDate_cycle {cutoffDay paymentDueDay : Int}
    (closing : 1 ≤ cutoffDay ∧ cutoffDay ≤ 31) (billing : 1 ≤ paymentDueDay ∧ paymentDueDay ≤ 31) :
    (∀ day, Purchasable day → ∃ closes, ClosesOn cutoffDay day closes ∧
        firstDue cutoffDay paymentDueDay day =
          .ok (dayText (dayIn paymentDueDay (monthOf closes + 1))) ∧
        closes < dayIn paymentDueDay (monthOf closes + 1)) ∧
      ∀ day later closes closes' due due', Purchasable day → Purchasable later → day ≤ later →
        ClosesOn cutoffDay day closes → ClosesOn cutoffDay later closes' →
        firstDue cutoffDay paymentDueDay day = .ok due →
        firstDue cutoffDay paymentDueDay later = .ok due' →
        due ≤ due' ∧ (due = due' ↔ closes = closes') := by
  have computed : ∀ {day}, Purchasable day → firstDue cutoffDay paymentDueDay day =
      .ok (dayText (dayIn paymentDueDay (monthOf (closingDay cutoffDay day) + 1))) := by
    intro day years
    obtain ⟨low, high⟩ := years
    exact calculateFirstDueDate_eq ⟨low, by omega⟩ closing billing
  -- A due date is two months after its purchase at most, and so still of a year of four digits.
  have written : ∀ {day}, Purchasable day →
      FourDigit (dayIn paymentDueDay (monthOf (closingDay cutoffDay day) + 1)) := by
    intro day years
    obtain ⟨low, high⟩ := years
    rw [FourDigit, monthOf_dayIn billing.1, monthOf_closingDay closing.1]
    split <;> omega
  refine ⟨?_, ?_⟩
  -- The due date lies in the month after the cycle closes, and so after the closing day.
  · intro day years
    exact ⟨_, closesOn_closingDay closing.1 day, computed years, lt_dayIn_succ billing.1 _⟩
  -- A cycle of a day closes on the one closing day, which the code computes.
  · intro day later closes closes' due due' years years' order ends ends' dated dated'
    rw [(closesOn_iff closing.1).mp ends, (closesOn_iff closing.1).mp ends']
    rw [computed years] at dated
    rw [computed years'] at dated'
    obtain rfl := Except.ok.inj dated
    obtain rfl := Except.ok.inj dated'
    -- The texts are ordered as the days due, these as the closing months, and these as the closing days.
    have own := dayIn_closingDay closing.1
    have months : closingDay cutoffDay day ≤ closingDay cutoffDay later ↔
        monthOf (closingDay cutoffDay day) ≤ monthOf (closingDay cutoffDay later) := by
      conv_lhs => rw [← own day, ← own later, dayIn_le_iff closing.1]
    have same : closingDay cutoffDay day = closingDay cutoffDay later ↔
        monthOf (closingDay cutoffDay day) = monthOf (closingDay cutoffDay later) := by
      conv_lhs => rw [← own day, ← own later, dayIn_inj closing.1]
    constructor
    · rw [← not_lt, dayText_lt_iff (written years') (written years), not_lt, dayIn_le_iff billing.1]
      have inOrder := months.mp (closingDay_le closing.1 order)
      omega
    · rw [same]
      constructor
      · intro texts
        have days := formatCalendarDate_inj texts
        rw [dayIn_inj billing.1] at days
        omega
      · intro equal
        rw [equal]

/--
With a cutoff on the 31st, purchases of the last of January and the first of February are a cycle apart.
-/
theorem calculateFirstDueDate_cycle_february :
    firstDue 31 30 19388 = .ok "2023-02-28" ∧ firstDue 31 30 19389 = .ok "2023-03-30" ∧
      "2023-02-28" ≤ "2023-03-30" := by
  have first : firstDue 31 30 19388 = .ok "2023-02-28" := by decide +kernel
  have second : firstDue 31 30 19389 = .ok "2023-03-30" := by decide +kernel
  have cycle := @calculateFirstDueDate_cycle 31 30 (by decide) (by decide)
  obtain ⟨closes, ends, -⟩ := cycle.1 19388 (by decide)
  obtain ⟨closes', ends', -⟩ := cycle.1 19389 (by decide)
  exact ⟨first, second,
    (cycle.2 19388 19389 closes closes' _ _ (by decide) (by decide) (by decide) ends ends' first second).1⟩

end PocketMint
