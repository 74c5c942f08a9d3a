import PocketMint.Proofs.Acceptance
import PocketMint.Proofs.Ledger

/-! Transfers are accepted for what their source holds, not for what the whole operation leaves it. -/

namespace PocketMint

open Prog TransactionService InstallmentPaymentService

/--
A call that transfers an amount out of a wallet and passes every check but that of the wallet's balance,
with what the call gives the wallet back otherwise.
-/
inductive Transfers (zone : Zone) (s : Store) : Call → Wallet → Numeric → Decimal → Prop where
  | created {now : Instant} {input : CreateTransactionInput} {amount : Numeric} {source : Wallet}
      {toWalletId : Id} {date : Instant}
      (checked : TransferChecked zone now input amount source toWalletId date s) :
      Transfers zone s { now, request := .createTransaction input } source amount 0
  /-- The old row is reversed, whatever it was. -/
  | updated {now : Instant} {input : UpdateTransactionInput} {existing : Transaction} {amount : Numeric}
      {source : Wallet} {toWalletId : Id}
      (checked : RetypeChecked zone now input existing amount source toWalletId s) :
      Transfers zone s { now, request := .updateTransaction input } source amount
        (-WalletDelta.on (plainDeltas existing.type existing.amount existing.walletId existing.toWalletId)
          source.id)
  /-- A wallet can have become an asset since it was billed, and then pays itself. -/
  | paid {now : Instant} {input : PayInstallmentInput} {installment : Installment} {source : Wallet}
      {amount : Decimal} {date due : Instant}
      (checked : PaymentChecked zone now input installment source amount date due s) :
      Transfers zone s { now, request := .payInstallment input } source (.finite amount)
        (if installment.walletId = source.id then amount else 0)

/-- What an amount leaves of a balance; an amount that is not finite leaves no balance at all. -/
def leaves (balance : Decimal) : Numeric → Option Decimal
  | .finite value => some (balance - value)
  | _ => none

/--
A call is accepted when it leaves its source a balance that is not negative, and otherwise refused for
its source's funds, with nothing changed.
-/
structure Affords (answer : Except Failure Response × Store) (s : Store) (sourceId : Id)
    (left : Option Decimal) : Prop where
  accepted : ∀ balance ∈ left, 0 ≤ balance → answer.1.toBool ∧
    (answer.2.wallets.find? sourceId).map Wallet.balance = some balance
  refused : (∀ balance ∈ left, balance < 0) → ∃ message, answer = (.error (insufficientFunds message), s)

/-- What a transfer does to the balance of its source. -/
theorem on_plainDeltas_source (amount : Decimal) (walletId toWalletId : Id) :
    WalletDelta.on (plainDeltas .transfer amount walletId (some toWalletId)) walletId =
      (if toWalletId = walletId then amount else 0) - amount := by
  simp [plainDeltas]
  ring

/-- The balance of a wallet after deltas. -/
theorem Store.credit_balance {s : Store} {wallet : Wallet} (found : s.wallets.find? wallet.id = some wallet)
    (deltas : List WalletDelta) : (((s.credit deltas).wallets.find? wallet.id).map Wallet.balance) =
      some (wallet.balance + WalletDelta.on deltas wallet.id) := by
  simp [credit, found]

namespace Transfers

variable {zone : Zone} {s : Store} {call : Call} {source : Wallet} {amount : Numeric} {returned : Decimal}

/-- A call that passes every other check is decided by the balance its source has before it. -/
theorem serves (numbered : s.Numbered) (linked : s.Linked)
    (transfers : Transfers zone s call source amount returned) :
    (amount.IsGreater source.balance → ∃ message, serve zone s call =
      (.error (insufficientFunds message), s)) ∧
      ∀ value, amount = .finite value → value ≤ source.balance →
        (serve zone s call).1.toBool ∧
          ((serve zone s call).2.wallets.find? source.id).map Wallet.balance =
            some (source.balance + returned - value) := by
  -- Each of the three requests compares the stored balance and then posts a transfer.
  cases transfers with
  | created checked =>
    -- The wallets hold what the posting moves, and a transfer goes to another wallet.
    refine ⟨fun short => ⟨_, checked.refused short⟩, ?_⟩
    intro value finite afforded
    have held := (Store.ownWallet_eq_some.mp checked.held).1
    rcases checked.accepted numbered finite afforded with ⟨response, rows, inserted, served⟩
    rw [served]
    refine ⟨rfl, (Store.credit_balance held _).trans ?_⟩
    rw [on_plainDeltas_source, if_neg checked.apart]
    congr 1
    ring
  | updated checked =>
    -- The update first takes the old effect back, so that the two movements add up.
    refine ⟨fun short => ⟨_, checked.refused short⟩, ?_⟩
    intro value finite afforded
    have held := (Store.ownWallet_eq_some.mp checked.held).1
    rcases checked.accepted linked finite afforded with ⟨response, date, served⟩
    rw [served]
    refine ⟨rfl, ?_⟩
    -- The reversal and the new effect are credited one after the other.
    rw [Store.credit_credit]
    refine (Store.credit_balance held _).trans ?_
    rw [WalletDelta.on_append, WalletDelta.on_negated, on_plainDeltas_source, if_neg checked.apart]
    congr 1
    ring
  | @paid now input installment source amount date due checked =>
    -- A payment leaves the source as a transfer does, and comes from a bill that has its wallet.
    refine ⟨fun short => ⟨_, checked.refused short⟩, ?_⟩
    intro value finite afforded
    cases finite
    have held := (Store.ownWallet_eq_some.mp checked.held).1
    have member := Table.mem_of_find? (Store.ownInstallment_eq_some.mp checked.own).1
    have bill := Option.isSome_of_isSome_filter _ _ (linked.installments installment member)
    rcases checked.accepted numbered bill afforded with ⟨response, walletName, rows, inserted, served⟩
    rw [served]
    refine ⟨rfl, (Store.credit_balance held _).trans ?_⟩
    rw [on_plainDeltas_source]
    congr 1
    ring

/-- The amount of a transfer is a number, or more than every balance. -/
theorem amount_cases (transfers : Transfers zone s call source amount returned) :
    amount = .infinity ∨ ∃ value, amount = .finite value := by
  -- A number that was checked to be positive is finite or infinite.
  have positive : ∀ {sent : Option DecimalInput} {number : Numeric}, positiveAmount sent = some number →
      number = .infinity ∨ ∃ value, number = .finite value := by
    intro sent number given
    have above : number.IsPositive := of_decide_eq_true (Option.filter_eq_some_iff.mp given).2
    cases number with
    | finite value => exact .inr ⟨value, rfl⟩
    | infinity => exact .inl rfl
    | negInfinity => exact above.elim
    | nan => exact above.elim
  -- The amounts of the requests are sent, or else kept from the row.
  cases transfers with
  | created checked => exact positive checked.given
  | @updated _ input existing _ _ _ checked =>
    have priced := checked.priced
    cases sent : positiveAmount input.amount with
    | none =>
      rw [sent] at priced
      exact .inr ⟨existing.amount, priced.symm⟩
    | some number =>
      rw [sent] at priced
      exact priced ▸ positive sent
  | paid checked => exact .inr ⟨_, rfl⟩

end Transfers

/-- A user's first calls, and a transaction of 100 on a bank account that held another amount before. -/
def moved100 (type : FinancialTxType) (categoryId : Id) (opening : Decimal) : List Call :=
  onboarding 1 opening 5000 ++
    [{ now := 0, request := .createTransaction
        { userId := 1, type := some type, amount := some (.exact 100), walletId := .given 12,
          categoryId := .given categoryId } }]

/-- The update that makes transaction 14 a transfer from the bank account to the card. -/
def retransfer : Call :=
  { now := 1, request := .updateTransaction
      { userId := 1, id := 14, type := .given .transfer, toWalletId := .given 13 } }

/-- Where the update passes every check but that of the balance. -/
theorem retransfer_transfers {s : Store} {existing : Transaction} {source : Wallet}
    (own : s.ownTransaction 14 1 = some existing) (held : s.ownWallet 12 1 = some source)
    (regular : existing.isInstallment = false) (plain : existing.type ≠ .transfer)
    (valued : existing.amount = 100) (onBank : existing.walletId = 12) (asset : source.type.isAsset)
    (arrives : (s.ownWallet 13 1).isSome) :
    Transfers defaultTimezone.zone s retransfer source (.finite 100)
      (-WalletDelta.on (plainDeltas existing.type existing.amount existing.walletId existing.toWalletId)
        source.id) := by
  have bank : source.id = 12 := Table.key_of_find? (Store.ownWallet_eq_some.mp held).1
  -- Every check of the update is discharged from what is known of the row and the wallet.
  have checked : RetypeChecked defaultTimezone.zone 1
      { userId := 1, id := 14, type := .given .transfer, toWalletId := .given 13 } existing (.finite 100)
      source 13 s :=
    { valid := by decide
      given := fun given => by cases given
      priced := congrArg Numeric.finite valued
      dated := fun text given => by cases given
      own
      regular
      unbilled := rfl
      complete := fun transfer => absurd transfer plain
      kind := rfl
      target := by
        rw [newWalletId, onBank, bank]
      onto := rfl
      apart := by
        rw [bank]
        decide
      held := bank ▸ held
      asset
      arrives
      uncategorized := rfl }
  exact .updated checked

/--
An income of 100 has to be taken back for the transfer of 100 in its place, which overdraws the account.
-/
example : (((serveAll defaultTimezone.zone .empty
    (moved100 .income 7 0 ++ [retransfer])).wallets.find? 12).map Wallet.balance) = some (-100) := by
  decide +kernel

end PocketMint
