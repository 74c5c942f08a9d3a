import PocketMint.Proofs.Ledger
import PocketMint.Relational.Selection

/-! Every instalment has exactly one purchase among the transactions, and every purchase an instalment. -/

namespace PocketMint

open Prog

namespace Store

/-- Purchases and instalments match: they name each other, agree on the amount, and were deducted. -/
structure Matched (s : Store) : Prop where
  named : ∀ row ∈ s.transactions.rows, row.isInstallment → row.installmentId.isSome
  amount : ∀ row ∈ s.transactions.rows, ∀ installment ∈ s.installments.rows,
    row.installmentId = some installment.id → row.amount = installment.monthlyAmount
  purchase : ∀ installment ∈ s.installments.rows, ∃ row ∈ s.transactions.rows,
    row.installmentId = some installment.id
  deducted : ∀ installment ∈ s.installments.rows, installment.balanceDeducted

theorem Matched.empty : Store.empty.Matched := by
  constructor <;> exact fun row member => by simp [Store.empty] at member

/-- Rows that continue matched rows match, when no instalment outlives its purchase. -/
theorem Matched.derive {s s' : Store} (matched : s.Matched) (paired : s.Paired)
    (rows : ∀ row' ∈ s'.transactions.rows,
      (∃ row ∈ s.transactions.rows, row'.isInstallment = row.isInstallment ∧
        row'.installmentId = row.installmentId ∧ (row.isInstallment → row'.amount = row.amount)) ∨
      (row'.isInstallment = false ∧ row'.installmentId = none))
    (kept : ∀ row ∈ s.transactions.rows, ∀ installment' ∈ s'.installments.rows,
      row.installmentId = some installment'.id →
      ∃ row' ∈ s'.transactions.rows, row'.installmentId = some installment'.id)
    (installments : ∀ installment' ∈ s'.installments.rows, ∃ installment ∈ s.installments.rows,
      installment'.id = installment.id ∧ installment'.monthlyAmount = installment.monthlyAmount ∧
      installment'.balanceDeducted = installment.balanceDeducted) : s'.Matched where
  named row' member instalment := by
    -- A row of the new store names what its old row named.
    rcases rows row' member with ⟨row, among, kind, names, -⟩ | ⟨regular, -⟩
    · rw [names]
      exact matched.named row among (kind ▸ instalment)
    · simp [regular] at instalment
  amount row' member installment' among' names' := by
    -- The amount is kept where the row is an instalment, and so is that of the plan.
    rcases rows row' member with ⟨row, among, -, names, amount⟩ | ⟨-, nothing⟩
    · obtain ⟨installment, there, id, monthly, -⟩ := installments installment' among'
      have names : row.installmentId = some installment.id := names ▸ id ▸ names'
      rw [amount (paired.backed row among installment.id names), monthly]
      exact matched.amount row among installment there names
    · simp [nothing] at names'
  purchase installment' among' := by
    -- The purchase of a plan that remains is kept with it.
    obtain ⟨installment, there, id, -⟩ := installments installment' among'
    obtain ⟨row, among, names⟩ := matched.purchase installment there
    exact kept row among installment' among' (id ▸ names)
  deducted installment' among' := by
    -- What was deducted stays deducted.
    obtain ⟨installment, there, -, -, deducted⟩ := installments installment' among'
    rw [deducted]
    exact matched.deducted installment there

theorem Matched.credit {s : Store} (matched : s.Matched) (deltas : List WalletDelta) :
    (s.credit deltas).Matched :=
  ⟨matched.named, matched.amount, matched.purchase, matched.deducted⟩

/-- A new regular row leaves purchases and instalments matched. -/
theorem Matched.insertRegular {s : Store} (matched : s.Matched) (paired : s.Paired) {row : Transaction}
    {rows : Table Transaction} (inserted : s.transactions.insert? row = some rows)
    (regular : row.isInstallment = false) (nothing : row.installmentId = none)
    {s' : Store} (after : s'.transactions = rows)
    (installments : ∀ installment' ∈ s'.installments.rows, ∃ installment ∈ s.installments.rows,
      installment'.id = installment.id ∧ installment'.monthlyAmount = installment.monthlyAmount ∧
      installment'.balanceDeducted = installment.balanceDeducted) : s'.Matched := by
  -- The one row that is added names no instalment.
  have mem : ∀ other, other ∈ s'.transactions.rows ↔ other ∈ s.transactions.rows ∨ other = row := by
    intro other
    rw [after]
    exact Table.mem_insert inserted
  refine matched.derive paired (fun other member => ?_) (fun other among installment' _ names => ?_)
    installments
  · rcases (mem other).mp member with old | rfl
    · exact .inl ⟨other, old, rfl, rfl, fun _ => rfl⟩
    · exact .inr ⟨regular, nothing⟩
  · exact ⟨other, (mem other).mpr (.inl among), names⟩

/-- Deleting a regular row leaves purchases and instalments matched. -/
theorem Matched.deleteRegular {s : Store} (matched : s.Matched) (paired : s.Paired) {id : Id}
    {existing : Transaction} (found : s.transactions.find? id = some existing)
    (regular : existing.isInstallment = false) : (s.deleteTransaction id).Matched := by
  refine matched.derive paired (fun row' member => ?_) (fun row among installment' _ names => ?_)
    fun installment' among' => ⟨installment', among', rfl, rfl, rfl⟩
  -- The rows that remain are old ones.
  · exact .inl ⟨row', (List.mem_filter.mp member).1, rfl, rfl, fun _ => rfl⟩
  · -- A row that names an instalment is not the regular row that goes.
    refine ⟨row, List.mem_filter.mpr ⟨among, ?_⟩, names⟩
    have apart : row.id ≠ id := by
      intro same
      have here := Table.find?_of_mem among
      change s.transactions.find? row.id = some row at here
      rw [same, found] at here
      have backed := paired.backed row among installment'.id names
      rw [← Option.some.inj here, regular] at backed
      cases backed
    simpa [Keyed.key] using apart

/-- Deleting a purchase with its instalment leaves the others matched. -/
theorem Matched.deletePurchase {s : Store} (matched : s.Matched) (paired : s.Paired)
    {id installmentId : Id} {existing : Transaction}
    (found : s.transactions.find? id = some existing)
    (names : existing.installmentId = some installmentId) :
    ((s.deleteTransaction id).deleteInstallment installmentId).Matched := by
  -- The row that goes names the plan that goes with it.
  have among := Table.mem_of_find? found
  have key : existing.id = id := Table.key_of_find? found
  -- No other row names the instalment that goes.
  have others : ∀ row ∈ s.transactions.rows, row.id ≠ id →
      row.installmentId.filter (· ≠ installmentId) = row.installmentId := by
    intro row member apart
    refine filter_kept fun other named => ?_
    have : other ≠ installmentId := by
      rintro rfl
      exact apart ((paired.alone row member existing among other named names).trans key)
    simpa using this
  refine matched.derive paired (fun row' member => ?_) (fun row member installment' among' named => ?_)
    fun installment' among' => ⟨installment', (List.mem_filter.mp among').1, rfl, rfl, rfl⟩
  -- The rows that remain keep the plans that they name.
  · obtain ⟨row, left, rfl⟩ := List.mem_map.mp member
    obtain ⟨old, apart⟩ := List.mem_filter.mp left
    exact .inl ⟨row, old, rfl, others row old (by simpa [Keyed.key] using apart), fun _ => rfl⟩
  -- The purchase of another plan is another row, so it remains.
  · have stays : installment'.id ≠ installmentId := by
      simpa [Keyed.key] using (List.mem_filter.mp among').2
    have apart : row.id ≠ id := by
      intro same
      have here := Table.find?_of_mem member
      change s.transactions.find? row.id = some row at here
      rw [same, found] at here
      rw [← Option.some.inj here, names] at named
      exact stays (Option.some.inj named).symm
    exact ⟨_, List.mem_map.mpr ⟨row, List.mem_filter.mpr ⟨member, by simpa [Keyed.key] using apart⟩, rfl⟩,
      (others row member apart).trans named⟩

/-- Deleting a wallet takes purchases and instalments away together. -/
theorem Matched.deleteWallet {s : Store} (matched : s.Matched) (linked : s.Linked) (paired : s.Paired)
    (id : Id) : (s.deleteWallet id).Matched := by
  -- A purchase on another wallet names an instalment on that wallet.
  have others : ∀ row ∈ s.transactions.rows, row.walletId ≠ id →
      row.installmentId.filter (fun other => !s.installmentOn id other) = row.installmentId := by
    intro row member apart
    refine filter_kept fun other named => ?_
    -- The plan is on the wallet of its row.
    obtain ⟨installment, own⟩ := Option.isSome_iff_exists.mp
      ((linked.transactions row member).2.2.2 other named)
    have there := (Store.ownInstallment_eq_some.mp own).1
    have same := paired.wallet row member other named installment there
    simp [Store.installmentOn, there, same, apart]
  refine matched.derive paired (fun row' member => ?_) (fun row member installment' among' named => ?_)
    fun installment' among' => ⟨installment', (List.mem_filter.mp among').1, rfl, rfl, rfl⟩
  · obtain ⟨row, left, rfl⟩ := List.mem_map.mp member
    obtain ⟨old, apart⟩ := List.mem_filter.mp left
    exact .inl ⟨row, old, rfl, others row old (by simpa [Keyed.key] using apart), fun _ => rfl⟩
  -- A plan that remains is on another wallet, and so is its purchase.
  · obtain ⟨old, stays⟩ := List.mem_filter.mp among'
    have same := paired.wallet row member installment'.id named installment'
      (Table.find?_of_mem old)
    have apart : row.walletId ≠ id := by
      rw [← same]
      simpa using stays
    exact ⟨_, List.mem_map.mpr ⟨row, List.mem_filter.mpr ⟨member, by simpa [Keyed.key] using apart⟩, rfl⟩,
      (others row member apart).trans named⟩

end Store

/-- A credit purchase makes a new match, and leaves the others as they are. -/
theorem CreditCreated.matched {zone : Zone} {now : Instant} {s s' : Store}
    {input : CreateTransactionInput} {principal rate : Decimal} {months : Int} {mode : BillKind}
    {plan : InstallmentPlan} {date nextDueDate : Instant} {wallet : Wallet}
    {installment : Installment} {row : Transaction} {installments : Table Installment}
    {rows : Table Transaction} (linked : s.Linked) (matched : s.Matched)
    (made : CreditCreated Eq zone now input principal rate months mode plan date nextDueDate wallet
      installment row installments rows s s') : s'.Matched := by
  -- The row names the plan and has its monthly amount.
  have names := made.names
  have amount : row.amount = installment.monthlyAmount :=
    (congrArg Transaction.amount made.shape).trans
      (congrArg Installment.monthlyAmount made.backing).symm
  have fresh : s.installments.find? installment.id = none :=
    (Table.insert?_eq_some_iff.mp made.backed).1
  -- No older row names the new instalment.
  have older : ∀ other ∈ s.transactions.rows, other.installmentId ≠ some installment.id := by
    intro other member named
    have link := (linked.transactions other member).2.2.2 installment.id named
    simp [Store.ownInstallment, fresh] at link
  -- The tables have one row more each.
  have rowOf : ∀ other, other ∈ s'.transactions.rows ↔ other ∈ s.transactions.rows ∨ other = row := by
    intro other
    rw [made.after]
    exact Table.mem_insert made.inserted
  have installmentOf : ∀ other, other ∈ s'.installments.rows ↔
      other ∈ s.installments.rows ∨ other = installment := by
    intro other
    rw [made.after]
    exact Table.mem_insert made.backed
  constructor
  -- A purchase names a plan, the new one or an old one.
  · intro other member kind
    rcases (rowOf other).mp member with old | rfl
    · exact matched.named other old kind
    · simp [names]
  -- Its amount is the monthly one of the plan that it names.
  · intro other member backing among named
    rcases (rowOf other).mp member with old | rfl
    · rcases (installmentOf backing).mp among with there | rfl
      · exact matched.amount other old backing there named
      · exact absurd named (older other old)
    · rcases (installmentOf backing).mp among with there | rfl
      · -- The new row names the new instalment, which no old one shares its identifier with.
        have same : installment.id = backing.id := Option.some.inj (names.symm.trans named)
        have found : s.installments.find? backing.id = some backing := Table.find?_of_mem there
        rw [← same, fresh] at found
        cases found
      · exact amount
  -- Every plan has its purchase.
  · intro backing among
    rcases (installmentOf backing).mp among with there | rfl
    · obtain ⟨other, member, named⟩ := matched.purchase backing there
      exact ⟨other, (rowOf other).mpr (.inl member), named⟩
    · exact ⟨row, (rowOf row).mpr (.inr rfl), names⟩
  -- And every plan is deducted.
  · intro backing among
    rcases (installmentOf backing).mp among with there | rfl
    · exact matched.deducted backing there
    · exact congrArg Installment.balanceDeducted made.backing

/-- Every write of a call that is executed alone keeps purchases and instalments matched. -/
theorem Commit.matched {zone : Zone} {call : Call} {seen : List Store} {s s' : Store}
    (commit : Commit Eq zone call seen s s') (sound : s.Sound) (matched : s.Matched) :
    s'.Matched := by
  have paired := sound.paired
  -- A plan that is left alone keeps its amount.
  have same : ∀ installment' ∈ s.installments.rows, ∃ installment ∈ s.installments.rows,
      installment'.id = installment.id ∧ installment'.monthlyAmount = installment.monthlyAmount ∧
      installment'.balanceDeducted = installment.balanceDeducted :=
    fun installment' among => ⟨installment', among, rfl, rfl, rfl⟩
  -- So does everything if neither table is written.
  have still : ∀ {s₂ : Store}, s₂.transactions = s.transactions →
      s₂.installments = s.installments → s₂.Matched := by
    intro s₂ transactions installments
    obtain ⟨named, amount, purchase, deducted⟩ := matched
    constructor
    · rwa [transactions]
    · rwa [transactions, installments]
    · rwa [transactions, installments]
    · rwa [installments]
  -- Only a purchase and its deletion change which rows name which instalments.
  cases commit with
  | walletDeleted asked made =>
    rw [made.after]
    exact matched.deleteWallet sound.linked paired _
  -- A regular row names no plan.
  | regularCreated asked made =>
    have shape := made.shape
    rw [made.after]
    exact matched.insertRegular paired made.inserted (congrArg Transaction.isInstallment shape)
      (congrArg Transaction.installmentId shape) rfl same
  | creditCreated asked made =>
    exact made.matched sound.linked matched
  | transactionUpdated asked made =>
    rw [made.after]
    refine Store.Matched.credit (Store.Matched.credit ?_ _) _
    refine matched.derive paired (fun row' member => ?_) (fun row among _ _ named => ?_) same
    · rcases Table.mem_update (fun _ => by rfl) member with old | ⟨row, found, rfl⟩
      · exact .inl ⟨row', old, rfl, rfl, fun _ => rfl⟩
      · -- The row that is written is the regular one that was read.
        obtain ⟨_, -, rfl, own⟩ := made.read
        have here := (Store.ownTransaction_eq_some.mp own).1
        have regular := made.regular
        rw [Option.some.inj (here.symm.trans found)] at regular
        refine .inl ⟨row, Table.mem_of_find? found, rfl, rfl, fun kind => ?_⟩
        rw [regular] at kind
        cases kind
    -- The rewritten row names what it named before.
    · refine ⟨_, List.mem_map.mpr ⟨row, among, rfl⟩, ?_⟩
      split <;> exact named
  | regularDeleted asked made =>
    rw [made.after]
    -- The row that goes is the regular one that was read.
    obtain ⟨_, -, rfl, own⟩ := made.read
    exact (matched.deleteRegular paired (Store.ownTransaction_eq_some.mp own).1 made.regular).credit _
  | installmentDeleted asked made =>
    rw [made.after]
    obtain ⟨_, -, rfl, own, -⟩ := made.read
    -- The row that goes is the purchase that was read.
    have here := (Store.ownTransaction_eq_some.mp own).1
    refine Store.Matched.credit ?_ _
    split
    · rename_i names
      exact matched.deletePurchase paired here names
    · -- A purchase always names its instalment.
      rename_i nameless
      have named := matched.named _ (Table.mem_of_find? here) made.backed
      simp [nameless] at named
  | installmentPaid asked made =>
    have shape := made.shape
    rw [made.after]
    refine (matched.insertRegular paired made.inserted (congrArg Transaction.isInstallment shape)
      (congrArg Transaction.installmentId shape) rfl fun installment' among => ?_).credit _
    -- The plan that is paid keeps its amount and its deduction.
    rcases Table.mem_update (fun _ => by rfl) among with old | ⟨row, found, rfl⟩
    · exact same installment' old
    · exact ⟨row, Table.mem_of_find? found, rfl, rfl, rfl⟩
  | reminderConfirmed asked made =>
    have shape := made.shape
    rw [made.after]
    exact matched.insertRegular paired made.inserted (congrArg Transaction.isInstallment shape)
      (congrArg Transaction.installmentId shape) rfl same
  | _ asked made =>
    rw [made.after]
    exact still rfl rfl

/-- Purchases and instalments match in every reachable store. -/
theorem Reachable.matched {zone : Zone} {s : Store} (reached : Reachable zone s) : s.Matched := by
  let holds (s : Store) : Prop := s.Sound ∧ s.Matched
  have numbers : ∀ s, holds s → s.Numbered := fun _ held => held.1.numbered
  have kept : ∀ call seen s s', holds s → Commit Eq zone call seen s s' → holds s' :=
    fun _ _ _ _ ⟨sound, matched⟩ commit => ⟨commit.sound .alone sound, commit.matched sound matched⟩
  exact (reached.invariant numbers ⟨.empty, .empty⟩ kept).2

/--
After any run of calls, the instalments and the transactions that are marked as purchases are in
bijection: each purchase is an expense that names an instalment of its user, on its wallet, for its
monthly amount, each instalment was deducted and has exactly one purchase, and no other transaction
names one.
-/
theorem serveAll_purchases (zone : Zone) (calls : List Call) :
    let s := serveAll zone .empty calls
    (∀ row ∈ s.transactions.rows, row.isInstallment → row.type = .expense ∧
      ∃ installment ∈ s.installments.rows, row.installmentId = some installment.id ∧
        installment.userId = row.userId ∧ installment.walletId = row.walletId ∧
        row.amount = installment.monthlyAmount) ∧
    (∀ row ∈ s.transactions.rows, ¬row.isInstallment → row.installmentId = none) ∧
    ∀ installment ∈ s.installments.rows, installment.balanceDeducted ∧
      ∃! row, row ∈ s.transactions.rows ∧ row.isInstallment ∧
        row.installmentId = some installment.id := by
  intro s
  have reached : Reachable zone s := ⟨calls, rfl⟩
  -- The invariants hold in every reachable store.
  obtain ⟨-, linked, paired⟩ := reached.sound
  have matched := reached.matched
  refine ⟨fun row member kind => ⟨paired.expense row member kind, ?_⟩, fun row member regular => ?_,
    fun installment among => ⟨matched.deducted installment among, ?_⟩⟩
  -- The plan that a purchase names belongs to its user, and is on its wallet.
  · obtain ⟨id, names⟩ := Option.isSome_iff_exists.mp (matched.named row member kind)
    obtain ⟨installment, own⟩ := Option.isSome_iff_exists.mp
      ((linked.transactions row member).2.2.2 id names)
    obtain ⟨found, user⟩ := Store.ownInstallment_eq_some.mp own
    obtain rfl : installment.id = id := Table.key_of_find? found
    have among := Table.mem_of_find? found
    exact ⟨installment, among, names, user, paired.wallet row member installment.id names installment
      found, matched.amount row member installment among names⟩
  -- A regular row that named a plan would be a purchase.
  · by_contra named
    obtain ⟨id, names⟩ := Option.ne_none_iff_exists'.mp named
    exact regular (paired.backed row member id names)
  -- The purchase of the plan exists, and it is the only one.
  · obtain ⟨row, member, names⟩ := matched.purchase installment among
    refine ⟨row, ⟨member, paired.backed row member _ names, names⟩, ?_⟩
    rintro other ⟨member', -, names'⟩
    -- Two rows that name one instalment have one identifier, so they are one row.
    have key := paired.alone other member' row member installment.id names' names
    have here := Table.find?_of_mem member
    have there := Table.find?_of_mem member'
    change s.transactions.find? row.id = some row at here
    change s.transactions.find? other.id = some other at there
    rw [key, here] at there
    exact (Option.some.inj there).symm

end PocketMint
