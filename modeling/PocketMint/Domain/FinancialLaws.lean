import Mathlib.Algebra.Order.BigOperators.Group.List
import Mathlib.Algebra.BigOperators.Group.List.Lemmas
import Mathlib.Tactic.Linarith
import PocketMint.Domain.Financial

/-! What each wallet adds to the totals of a snapshot, and when the totals count it as it stands. -/

namespace PocketMint

/-- Every kind of wallet is an asset or a liability, as the net worth classifies it. -/
theorem WalletType.isLiability_iff {type : WalletType} :
    type.isLiability ↔ classifyWalletForNetWorth type = .debt := by
  cases type <;> decide

theorem WalletType.isAsset_iff {type : WalletType} :
    type.isAsset ↔ classifyWalletForNetWorth type = .asset := by
  cases type <;> decide

/-- A credit wallet is not an asset. -/
theorem WalletType.isCredit_not_asset {type : WalletType} (credit : type.isCredit) :
    ¬type.isAsset := by
  cases type <;> simp_all [WalletType.isCredit, WalletType.isAsset]

namespace WalletInput

/-- What a wallet adds to the net worth. -/
def worth (w : WalletInput) : Decimal :=
  match classifyWalletForNetWorth w.type with
  | .asset => w.balance
  | .debt => -|w.balance|

/-- What a wallet adds to the total debt. -/
def debt (w : WalletInput) : Decimal :=
  match classifyWalletForNetWorth w.type with
  | .asset => 0
  | .debt => |w.balance|

/-- What a wallet's response reports as owed on it. -/
def owed (w : WalletInput) (creditLimit : Decimal) : Decimal :=
  (serializeWallet w.type w.balance creditLimit).outstanding.getD 0

/-- A wallet that is an asset, or on which nothing has been paid in advance. -/
def Ordinary (w : WalletInput) : Prop := w.type.isLiability → w.balance ≤ 0

/-- No wallet counts for more than its balance. -/
theorem worth_le (w : WalletInput) : w.worth ≤ w.balance := by
  -- An asset counts for its balance, and a debt for at most that.
  unfold worth
  split
  · exact le_rfl
  · exact neg_le.mp (neg_le_abs w.balance)

theorem worth_asset {type : WalletType} {balance : Decimal} (asset : type.isAsset) :
    worth { type, balance } = balance := by
  simp [worth, WalletType.isAsset_iff.mp asset]

theorem worth_eq_iff {w : WalletInput} : w.worth = w.balance ↔ w.Ordinary := by
  -- Only the balance of a liability can be counted for something else.
  simp only [worth, Ordinary, WalletType.isLiability_iff]
  cases classifyWalletForNetWorth w.type with
  | asset => simp
  | debt => simp [neg_eq_iff_eq_neg, abs_eq_neg_self]

/-- Ordinary wallets are counted in the debt with what they report as owed. -/
theorem Ordinary.debt_eq {w : WalletInput} (ordinary : w.Ordinary) (creditLimit : Decimal) :
    w.debt = w.owed creditLimit := by
  -- What the serialized wallet owes is its negative balance, as far as it is negative.
  simp only [debt, owed, serializeWallet]
  simp only [Ordinary, WalletType.isLiability_iff] at ordinary
  simp only [WalletType.isLiability_iff]
  cases side : classifyWalletForNetWorth w.type with
  | asset => simp
  | debt => simp [min_eq_left (ordinary side)]

/-- A positive amount arrives in full where it does not overpay a debt. -/
theorem worth_gain_iff {type : WalletType} {balance amount : Decimal} (positive : 0 < amount) :
    worth { type, balance := balance + amount } - worth { type, balance } = amount ↔
      type.isAsset ∨ balance + amount ≤ 0 := by
  simp only [worth, WalletType.isAsset_iff]
  cases classifyWalletForNetWorth type with
  | asset => simp
  | debt =>
    simp only [reduceCtorEq, false_or]
    -- A debt is counted by its absolute value before and after.
    rcases abs_cases balance with ⟨before, _⟩ | ⟨before, _⟩ <;>
      rcases abs_cases (balance + amount) with ⟨after, _⟩ | ⟨after, _⟩ <;>
        rw [before, after] <;> constructor <;> intro <;> linarith

end WalletInput

/-- The totals are sums of what each wallet adds. -/
theorem calculateNetWorth_eq (wallets : List WalletInput) :
    (calculateNetWorth wallets).totalUtang = (wallets.map WalletInput.debt).sum ∧
    (calculateNetWorth wallets).netWorth = (wallets.map WalletInput.worth).sum := by
  -- The loop adds the rest of the list to whatever it has accumulated.
  have loop : ∀ (rest : List WalletInput) (sums : NetWorth.Sums),
      let after := rest.foldl NetWorth.Sums.add sums
      after.totalUtang = sums.totalUtang + (rest.map WalletInput.debt).sum ∧
      after.totalAset - after.totalUtang =
        sums.totalAset - sums.totalUtang + (rest.map WalletInput.worth).sum := by
    intro rest
    induction rest with
    | nil => simp
    | cons w rest ih =>
      intro sums
      obtain ⟨debt, worth⟩ := ih (sums.add w)
      simp only [List.foldl_cons, List.map_cons, List.sum_cons] at *
      rw [worth, debt]
      simp only [NetWorth.Sums.add, WalletInput.debt, WalletInput.worth]
      cases classifyWalletForNetWorth w.type with
      | asset => constructor <;> ring
      | debt => constructor <;> ring
  obtain ⟨debt, worth⟩ := loop wallets {}
  exact ⟨by simpa [calculateNetWorth] using debt, by simpa [calculateNetWorth] using worth⟩

/-- The net worth is the sum of all balances exactly when every wallet is ordinary. -/
theorem netWorth_eq_sum_iff (wallets : List WalletInput) :
    (calculateNetWorth wallets).netWorth = (wallets.map WalletInput.balance).sum ↔
      ∀ w ∈ wallets, w.Ordinary := by
  rw [(calculateNetWorth_eq wallets).2]
  constructor
  · intro same w member
    by_contra extraordinary
    -- A wallet that counts for less than its balance makes the whole sum less.
    have less := lt_of_le_of_ne w.worth_le fun equal =>
      extraordinary (WalletInput.worth_eq_iff.mp equal)
    exact absurd same (List.sum_lt_sum _ _ (fun w _ => w.worth_le) ⟨w, member, less⟩).ne
  · intro ordinary
    exact congrArg List.sum (List.map_congr_left fun w member =>
      WalletInput.worth_eq_iff.mpr (ordinary w member))

end PocketMint
