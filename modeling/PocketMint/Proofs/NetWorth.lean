import PocketMint.Domain.FinancialLaws
import PocketMint.Proofs.Ledger

/-! The net worth is what the balances add up to, and transfers keep it, unless a debt is overpaid. -/

namespace PocketMint

open Prog

/-- A wallet, as the net worth is computed from it. -/
def Wallet.netWorthInput (row : Wallet) : WalletInput :=
  { type := row.type, balance := row.balance }

/-- What the responses report as owed on a wallet, which is nothing on an asset. -/
def Wallet.owed (row : Wallet) : Decimal :=
  (serializeWallet row.type row.balance row.creditLimit).outstanding.getD 0

namespace Store

/-- The wallets of a user. -/
def walletsOf (s : Store) (userId : Id) : Table Wallet :=
  s.wallets.filter fun row => row.userId = userId

/-- The totals of a user's wallets. -/
def totals (s : Store) (userId : Id) : WalletTotals :=
  calculateNetWorth ((s.walletsOf userId).rows.map Wallet.netWorthInput)

/-- The net worth is the total worth of the user's wallets. -/
theorem netWorth_eq (s : Store) (userId : Id) :
    (s.totals userId).netWorth = s.wallets.total fun row =>
      if row.userId = userId then row.netWorthInput.worth else 0 := by
  rw [totals, (calculateNetWorth_eq _).2, List.map_map]
  have passing := Table.total_passing (fun row => row.netWorthInput.worth) s.wallets
    fun row => row.userId = userId
  simpa [Table.total, walletsOf, Function.comp_def] using passing

/-- The totals are the sums of the balances and of what is owed when no debt is overpaid, and only
then. -/
theorem totals_iff (s : Store) (userId : Id) :
    (s.totals userId).netWorth = ((s.walletsOf userId).rows.map Wallet.balance).sum ∧
      (s.totals userId).totalUtang = ((s.walletsOf userId).rows.map Wallet.owed).sum ↔
    ∀ wallet ∈ (s.walletsOf userId).rows, wallet.type.isLiability → wallet.balance ≤ 0 := by
  -- The net worth is the sum exactly if no liability holds more than nothing.
  have ordinary : (s.totals userId).netWorth = ((s.walletsOf userId).rows.map Wallet.balance).sum ↔
      ∀ wallet ∈ (s.walletsOf userId).rows, wallet.netWorthInput.Ordinary := by
    have sums := netWorth_eq_sum_iff ((s.walletsOf userId).rows.map Wallet.netWorthInput)
    simpa [totals, Function.comp_def, Wallet.netWorthInput] using sums
  refine ⟨fun sums => ordinary.mp sums.1, fun none => ⟨ordinary.mpr none, ?_⟩⟩
  rw [totals, (calculateNetWorth_eq _).1, List.map_map]
  refine congrArg List.sum (List.map_congr_left fun wallet member => ?_)
  have paid : wallet.netWorthInput.Ordinary := none wallet member
  exact paid.debt_eq wallet.creditLimit

/-- A transfer out of an asset changes the net worth by what it is counted for where it arrives. -/
theorem netWorth_transfer {s s' : Store} (wallets : s'.wallets = s.wallets) {userId : Id}
    {source destination : Wallet} (own : s.ownWallet source.id userId = some source)
    (ownDestination : s.ownWallet destination.id userId = some destination)
    (asset : source.type.isAsset) (amount : Decimal) :
    ((s'.credit [⟨source.id, -amount⟩, ⟨destination.id, amount⟩]).totals userId).netWorth =
      (s.totals userId).netWorth - amount +
        (WalletInput.worth
            { type := destination.type, balance := destination.balance + amount } -
          WalletInput.worth { type := destination.type, balance := destination.balance }) := by
  obtain ⟨found, user⟩ := ownWallet_eq_some.mp own
  obtain ⟨foundDestination, userDestination⟩ := ownWallet_eq_some.mp ownDestination
  -- Each wallet's worth changes by what it loses as the source and gains as the destination.
  let gain (row : Wallet) : Decimal :=
    WalletInput.worth { type := row.type, balance := row.balance + amount } -
      WalletInput.worth { type := row.type, balance := row.balance }
  have each : ∀ row ∈ s.wallets.rows,
      (if row.userId = userId then
        WalletInput.worth
          { type := row.type
            balance := row.balance +
              WalletDelta.on [⟨source.id, -amount⟩, ⟨destination.id, amount⟩] row.id }
      else 0) =
        (if row.userId = userId then row.netWorthInput.worth else 0) +
          ((if row.id = source.id then -amount else 0) +
            if row.id = destination.id then gain row else 0) := by
    -- A wallet is the source, the destination, both or neither.
    intro row member
    have known : s.wallets.find? row.id = some row := Table.find?_of_mem member
    by_cases here : row.id = source.id
    · obtain rfl : row = source := Option.some.inj (known.symm.trans (here ▸ found))
      by_cases there : row.id = destination.id
      · simp [user, there, gain, WalletInput.worth_asset asset, Wallet.netWorthInput]
      · simp [user, there, Ne.symm there, WalletInput.worth_asset asset, Wallet.netWorthInput]
    · by_cases there : row.id = destination.id
      · obtain rfl : row = destination := Option.some.inj (known.symm.trans (there ▸ foundDestination))
        simp [userDestination, here, Ne.symm here, gain, Wallet.netWorthInput]
      · simp [here, there, Ne.symm here, Ne.symm there, Wallet.netWorthInput]
  -- The total of a change in one wallet is that change.
  have lost := Table.total_single (fun _ => -amount) found
  have gained := Table.total_single gain foundDestination
  rw [netWorth_eq, netWorth_eq, Store.credit, Table.total_mapRows, wallets]
  refine (Table.total_congr each).trans ?_
  rw [Table.total_add, Table.total_add]
  refine (congrArg₂ (fun lost gained => _ + (lost + gained)) lost gained).trans ?_
  simp only [gain]
  ring

/-- A transfer of a positive amount keeps the net worth unless it overpays a debt. -/
theorem netWorth_transfer_iff {s s' : Store} (wallets : s'.wallets = s.wallets) {userId : Id}
    {source destination : Wallet} (own : s.ownWallet source.id userId = some source)
    (ownDestination : s.ownWallet destination.id userId = some destination)
    (asset : source.type.isAsset) {amount : Decimal} (positive : 0 < amount) :
    ((s'.credit [⟨source.id, -amount⟩, ⟨destination.id, amount⟩]).totals userId).netWorth =
        (s.totals userId).netWorth ↔
      destination.type.isAsset ∨ destination.balance + amount ≤ 0 := by
  rw [netWorth_transfer wallets own ownDestination asset, ← WalletInput.worth_gain_iff positive]
  constructor <;> intro same <;> linarith

end Store

/-- The calls up to a second account, a wallet of cash, which is wallet 14. -/
def cashOpened : List Call :=
  onboarding 1 1000 5000 ++
    [{ now := 0, request := .createWallet { userId := 1, name := "Cash", type := .given .cash } }]

/-- A transfer of 300 out of the bank account. -/
def transferred (toWalletId : Id) : Call :=
  { now := 1
    request := .createTransaction
      { userId := 1, type := some .transfer, amount := some (.exact 300), walletId := .given 12,
        toWalletId := .given toWalletId } }

end PocketMint
