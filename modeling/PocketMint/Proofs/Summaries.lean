import PocketMint.Proofs.Bookkeeping
import PocketMint.Proofs.Conservation
import PocketMint.Proofs.Periods

/-!
The monthly summaries of a user and the user's wallets tell the same, but for the debts of purchases on
credit.
-/

namespace PocketMint

open Prog Calendar Reconciliation TransactionQueryService

namespace Store

/-- What the wallets of a user have gained since they were opened. -/
def gained (s : Store) (userId : Id) : Decimal :=
  ((s.wallets.rows.filter fun row => row.userId = userId).map fun row => row.balance - row.initialBalance).sum

/-- What the instalments of a user cost beyond the one month that the summaries count. -/
def unsummarized (s : Store) (userId : Id) : Decimal :=
  ((s.installments.rows.filter fun row => row.userId = userId).map fun row =>
    row.grandTotal - row.monthlyAmount).sum

/-- The transactions of a user. -/
def ownTransactions (s : Store) (userId : Id) : List Transaction :=
  s.transactions.rows.filter fun row => row.userId = userId

section Books

variable {s : Store} {userId : Id}

theorem mem_ownTransactions {row : Transaction} :
    row ∈ s.ownTransactions userId ↔ row ∈ s.transactions.rows ∧ row.userId = userId := by
  simp [ownTransactions]

/-- A purchase on credit names an instalment of its user, with the amount of the first month. -/
theorem Booked.purchase (booked : s.Booked) {row : Transaction} (member : row ∈ s.transactions.rows)
    (credit : row.isInstallment) :
    ∃ installment ∈ s.installments.rows, row.installmentId = some installment.id ∧
      installment.userId = row.userId ∧ s.grandTotal installment.id = some installment.grandTotal ∧
      row.amount = installment.monthlyAmount := by
  -- The purchase names a plan, which is its user's and has its total.
  rcases Option.isSome_iff_exists.mp (booked.matched.named row member credit) with ⟨id, names⟩
  have owned := (booked.sound.linked.transactions row member).2.2.2 id names
  rcases Option.isSome_iff_exists.mp owned with ⟨installment, own⟩
  rcases Store.ownInstallment_eq_some.mp own with ⟨found, user⟩
  obtain rfl : installment.id = id := Table.key_of_find? found
  have among := Table.mem_of_find? found
  refine ⟨installment, among, names, user, ?_, booked.matched.amount row member installment among names⟩
  simp [grandTotal, found]

/-- An instalment is named by a purchase of its user. -/
theorem Booked.purchased (booked : s.Booked) {installment : Installment}
    (among : installment ∈ s.installments.rows) :
    ∃ row ∈ s.transactions.rows, row.isInstallment ∧ row.installmentId = some installment.id ∧
      row.userId = installment.userId := by
  rcases booked.matched.purchase installment among with ⟨row, member, names⟩
  have credit := booked.sound.paired.backed row member installment.id names
  refine ⟨row, member, credit, names, ?_⟩
  -- The instalment that the purchase names is this one, and so of the purchase's user.
  rcases booked.purchase member credit with ⟨other, among', names', user, -⟩
  have same : other.id = installment.id := Option.some.inj (names'.symm.trans names)
  have distinct : (s.installments.rows.map Installment.id).Nodup := s.installments.unique
  obtain rfl := List.inj_on_of_nodup_map distinct among' among same
  exact user.symm

/-- The purchases on credit of a user. -/
def purchasesOf (s : Store) (userId : Id) : List Transaction :=
  (s.ownTransactions userId).filter fun row => row.isInstallment

theorem mem_purchasesOf {row : Transaction} :
    row ∈ s.purchasesOf userId ↔ row ∈ s.transactions.rows ∧ row.userId = userId ∧ row.isInstallment := by
  simp [purchasesOf, mem_ownTransactions, and_assoc]

/-- A purchase counts beyond its amount for what its instalment costs beyond one month. -/
theorem Booked.weighed (booked : s.Booked) {row : Transaction} (listed : row ∈ s.purchasesOf userId) :
    ∃ installment ∈ s.installments.rows, row.installmentId = some installment.id ∧
    installment.userId = userId ∧
      row.ledger.counted s.grandTotal - row.amount = installment.grandTotal - installment.monthlyAmount := by
  rcases mem_purchasesOf.mp listed with ⟨member, user, credit⟩
  rcases booked.purchase member credit with ⟨installment, among, names, owner, total, amount⟩
  refine ⟨installment, among, names, owner.trans user, ?_⟩
  simp [LedgerTransaction.counted, Transaction.ledger, credit, names, total, amount]

/-- No two purchases name one instalment. -/
theorem Booked.purchases_nodup (booked : s.Booked) (userId : Id) :
    ((s.purchasesOf userId).map fun row => row.installmentId.getD 0).Nodup := by
  -- The identifiers of the purchases are distinct, because each names its own plan.
  have rows : s.transactions.rows.Nodup := s.transactions.unique.of_map
  refine List.Nodup.map_on (fun row listed other listed' same => ?_) ((rows.filter _).filter _)
  rcases booked.weighed listed with ⟨installment, -, names, -⟩
  rcases booked.weighed listed' with ⟨installment', -, names', -⟩
  have shared : installment.id = installment'.id := by simpa [names, names'] using same
  have member := (mem_purchasesOf.mp listed).1
  have member' := (mem_purchasesOf.mp listed').1
  have key := booked.sound.paired.alone row member other member' installment.id names (shared ▸ names')
  exact List.inj_on_of_nodup_map s.transactions.unique member member' key

/-- Over the purchases of a user, the debts beyond the amounts are those of the user's instalments. -/
theorem Booked.sum_purchases (booked : s.Booked) (userId : Id) :
    ((s.purchasesOf userId).map fun row => row.ledger.counted s.grandTotal - row.amount).sum =
      s.unsummarized userId := by
  -- A purchase and its instalment share a key: the instalment's identifier.
  have distinct : (s.installments.rows.map Installment.id).Nodup := s.installments.unique
  refine sum_eq_of_keys (booked.purchases_nodup userId)
    (distinct.sublist (List.filter_sublist.map _)) (fun id => ?_)
    fun row listed installment own same => ?_
  -- The keys of the two sums are the same.
  · constructor
    · intro listed
      rcases List.mem_map.mp listed with ⟨row, among, rfl⟩
      rcases booked.weighed among with ⟨installment, there, names, user, -⟩
      refine List.mem_map.mpr ⟨installment, List.mem_filter.mpr ⟨there, decide_eq_true user⟩, ?_⟩
      simp [names]
    · intro listed
      rcases List.mem_map.mp listed with ⟨installment, own, rfl⟩
      rcases List.mem_filter.mp own with ⟨there, user⟩
      rcases booked.purchased there with ⟨row, member, credit, names, owner⟩
      have mine := mem_purchasesOf.mpr ⟨member, owner.trans (of_decide_eq_true user), credit⟩
      refine List.mem_map.mpr ⟨row, mine, ?_⟩
      simp [names]
  -- And under one key the two weights are equal.
  · rcases booked.weighed listed with ⟨other, there, names, -, weighs⟩
    have key : other.id = installment.id := by simpa [names] using same
    obtain rfl := List.inj_on_of_nodup_map distinct there (List.mem_filter.mp own).1 key
    exact weighs

/-- The transactions of a user are on wallets of the user, and a transfer goes to one. -/
theorem Booked.placed (booked : s.Booked) :
    ∀ tx ∈ (s.ownTransactions userId).map Transaction.ledger,
      tx.Placed ((s.wallets.rows.filter fun row => row.userId = userId).map Wallet.id) := by
  -- The wallet of a link is among the user's.
  have known : ∀ id, (s.ownWallet id userId).isSome →
      id ∈ (s.wallets.rows.filter fun row => row.userId = userId).map Wallet.id := by
    intro id own
    rcases Option.isSome_iff_exists.mp own with ⟨wallet, own⟩
    rcases Store.ownWallet_eq_some.mp own with ⟨found, user⟩
    refine List.mem_map.mpr ⟨wallet, List.mem_filter.mpr ⟨Table.mem_of_find? found, ?_⟩,
      Table.key_of_find? found⟩
    exact decide_eq_true user
  intro tx listed
  rcases List.mem_map.mp listed with ⟨row, own, rfl⟩
  rcases mem_ownTransactions.mp own with ⟨member, rfl⟩
  -- The wallet, the destination and the aim of the row are those of the books.
  have links := booked.sound.linked.transactions row member
  exact ⟨known _ links.1, fun id named => known id (links.2.1 id named), booked.aimed row member⟩

theorem Booked.expense (booked : s.Booked) {row : Transaction} (own : row ∈ s.ownTransactions userId)
    (credit : row.isInstallment) : row.type = .expense :=
  booked.sound.paired.expense row (mem_ownTransactions.mp own).1 credit

/-- Money comes in by incomes, with their amounts. -/
theorem Booked.sum_earned (booked : s.Booked) (userId : Id) :
    ((((s.ownTransactions userId).map Transaction.ledger).filter (·.earns)).map
      (·.counted s.grandTotal)).sum =
      sumOfType .income (s.ownTransactions userId) := by
  -- A purchase on credit is an expense, so no income is one.
  have earns : ∀ row ∈ s.ownTransactions userId, row.ledger.earns = decide (row.type = .income) := by
    intro row own
    cases credit : row.isInstallment with
    | true => simp [LedgerTransaction.earns, Transaction.ledger, credit, booked.expense own credit]
    | false => simp [LedgerTransaction.earns, Transaction.ledger, credit]
  rw [List.filter_map, List.map_map, sumOfType]
  have same : (s.ownTransactions userId).filter ((·.earns) ∘ Transaction.ledger) =
      (s.ownTransactions userId).filter fun row => row.type = .income := List.filter_congr earns
  -- The income counts its amount.
  rw [same]
  refine congrArg List.sum (List.map_congr_left fun row listed => ?_)
  rcases List.mem_filter.mp listed with ⟨own, income⟩
  have earned := (earns row own).trans income
  -- What is earned is no instalment.
  have regular : row.isInstallment = false := by
    simp only [LedgerTransaction.earns, Bool.and_eq_true, Bool.not_eq_true'] at earned
    exact earned.1
  simp [LedgerTransaction.counted, Transaction.ledger, regular]

/-- Money goes out by expenses, of which the purchases on credit count with all that they cost. -/
theorem Booked.sum_spent (booked : s.Booked) (userId : Id) :
    ((((s.ownTransactions userId).map Transaction.ledger).filter (·.spends)).map
      (·.counted s.grandTotal)).sum =
      sumOfType .expense (s.ownTransactions userId) + s.unsummarized userId := by
  let bought := s.purchasesOf userId
  let regular := (s.ownTransactions userId).filter fun row => !row.isInstallment && row.type = .expense
  -- The expenses are the purchases on credit and the regular expenses.
  have split : ∀ weight : Transaction → Decimal,
      (((s.ownTransactions userId).filter fun row => row.isInstallment || !row.isInstallment &&
        row.type = .expense).map
        weight).sum = (bought.map weight).sum + (regular.map weight).sum := fun weight =>
    sum_filter_either weight fun row _ credit => by simp [credit]
  -- The expenses are counted in the same two parts.
  have expenses : (s.ownTransactions userId).filter (fun row => row.type = .expense) =
      (s.ownTransactions userId).filter fun row => row.isInstallment || !row.isInstallment &&
          row.type = .expense := by
    refine List.filter_congr fun row own => ?_
    cases credit : row.isInstallment with
    | true => simp [booked.expense own credit]
    | false => simp
  -- And so is what is spent.
  have spends : (s.ownTransactions userId).filter ((·.spends) ∘ Transaction.ledger) =
      (s.ownTransactions userId).filter fun row => row.isInstallment || !row.isInstallment &&
          row.type = .expense := by
    refine List.filter_congr fun row _ => ?_
    cases credit : row.isInstallment with
    | true => simp [LedgerTransaction.spends, Transaction.ledger, credit]
    | false => simp [LedgerTransaction.spends, Transaction.ledger, credit]
  -- A regular expense counts its amount.
  have plain : (regular.map fun row => row.ledger.counted s.grandTotal).sum =
      (regular.map Transaction.amount).sum := by
    refine congrArg List.sum (List.map_congr_left fun row listed => ?_)
    have passes := (List.mem_filter.mp listed).2
    simp only [Bool.and_eq_true, Bool.not_eq_true'] at passes
    simp [LedgerTransaction.counted, Transaction.ledger, passes.1]
  -- A purchase counts the total of its plan, of which the summaries show one month.
  have owed : (bought.map fun row => row.ledger.counted s.grandTotal).sum =
      s.unsummarized userId + (bought.map Transaction.amount).sum := by
    rw [← booked.sum_purchases userId, ← List.sum_map_add]
    simp [bought]
  calc ((((s.ownTransactions userId).map Transaction.ledger).filter (·.spends)).map
    (·.counted s.grandTotal)).sum
      = (bought.map fun row => row.ledger.counted s.grandTotal).sum +
          (regular.map fun row => row.ledger.counted s.grandTotal).sum := by
        rw [List.filter_map, List.map_map, spends]
        exact split _
    _ = s.unsummarized userId + ((bought.map Transaction.amount).sum
        + (regular.map Transaction.amount).sum) := by
        rw [owed, plain, add_assoc]
    _ = sumOfType .expense (s.ownTransactions userId) + s.unsummarized userId := by
        rw [← split, ← expenses, sumOfType, add_comm]

/--
The wallets of a user have gained the incomes less the expenses, and less what instalments cost besides.
-/
theorem Booked.gained_eq (booked : s.Booked) (userId : Id) :
    s.gained userId =
      sumOfType .income (s.ownTransactions userId) - sumOfType .expense (s.ownTransactions userId) -
        s.unsummarized userId := by
  -- The wallets of the user are distinct.
  have unique : ((s.wallets.rows.filter fun row => row.userId = userId).map Wallet.id).Nodup :=
    s.wallets.unique.sublist (List.filter_sublist.map _)
  -- Each wallet has gained what the user's transactions assign to it.
  have assigns : s.gained userId = (((s.wallets.rows.filter fun row => row.userId = userId).map Wallet.id).map
      (assigned s.grandTotal ((s.ownTransactions userId).map Transaction.ledger))).sum := by
    rw [gained, List.map_map]
    refine congrArg List.sum (List.map_congr_left fun wallet own => ?_)
    rcases List.mem_filter.mp own with ⟨among, user⟩
    obtain rfl : wallet.userId = userId := of_decide_eq_true user
    have total := booked.sound.linked.assigned_own among (fun _ _ _ _ _ => rfl)
    simp only [Function.comp_apply, ownTransactions, total, booked.balanced wallet among]
    ring
  -- The assigned amounts are earned or spent.
  rw [assigns, sum_assigned unique s.grandTotal booked.placed, booked.sum_earned, booked.sum_spent]
  ring

end Books

/-- A window that covers the transactions of a user selects them all. -/
theorem transactionsIn_all {s : Store} {userId : Id} {low high : Instant}
    (covers : ∀ row ∈ s.transactions.rows, row.userId = userId → low ≤ row.date ∧ row.date < high) :
    s.transactionsIn userId low high = s.ownTransactions userId := by
  refine List.filter_eq_self.mpr fun row own => ?_
  rcases mem_ownTransactions.mp own with ⟨member, user⟩
  simpa using covers row member user

end Store

/--
The net savings of consecutive months are the incomes less the expenses from the first opening to the last
end.
-/
theorem FixedZone.sum_netSavings (fixed : FixedZone) (now : Instant) (s : Store) (userId : Id) {first : Int}
    {count : Nat} (low : 12 * 101 ≤ first) (high : first + count ≤ 12 * 10000) :
    let rows := s.transactionsIn userId (fixed.midnight (monthOpens first))
      (fixed.midnight (monthOpens (first + count)))
    ∃ summaries : Nat → TransactionSummaryResult,
      (∀ index < count, (getSummary fixed.zone now
        { userId
          month := some (calendarMonthAt (first + index)).month
          year := some (calendarMonthAt (first + index)).year }).run s = (.ok (summaries index), s)) ∧
      ((List.range count).map fun index => (summaries index).netSavings).sum =
        sumOfType .income rows - sumOfType .expense rows := by
  intro rows
  have reads : ∀ index < count, ∃ summary, (getSummary fixed.zone now
        { userId
          month := some (calendarMonthAt (first + index)).month
          year := some (calendarMonthAt (first + index)).year }).run s = (.ok summary, s) ∧
      summary.netSavings = sumOfType .income (fixed.monthRows s userId (first + index)) -
        sumOfType .expense (fixed.monthRows s userId (first + index)) := by
    -- Each of the months can be read.
    intro index within
    have before : 12 * 101 ≤ first + index := by omega
    have after : first + index < 12 * 10000 := by omega
    rcases fixed.month_reads before after with ⟨-, summary, -, answered, -, income, expenses⟩
    refine ⟨summary, answered, ?_⟩
    rw [(getSummary_fields answered).1, income, expenses]
    rfl
  have inhabited : Nonempty TransactionSummaryResult := ⟨⟨0, 0, 0, ""⟩⟩
  choose! summaries answered using reads
  refine ⟨summaries, fun index within => (answered index within).1, ?_⟩
  -- The months tile the window, so their sums add up to those over it.
  have tiles : ((List.range count).flatMap fun index : Nat =>
      fixed.monthRows s userId (first + index)).Perm rows :=
    fixed.monthRows_flatMap_perm first count
  rw [← sumOfType_perm tiles, ← sumOfType_perm tiles, sumOfType_flatMap, sumOfType_flatMap, eq_sub_iff_add_eq,
    ← List.sum_map_add]
  -- Month by month the savings are the income less the expenses.
  refine congrArg List.sum (List.map_congr_left fun index among => ?_)
  exact eq_sub_iff_add_eq.mp (answered index (List.mem_range.mp among)).2

/--
A user is made known, opens a bank account and a card, buys on credit over three months, and pays one term.
-/
def creditPurchase : List HttpRequest :=
  [.syncUser none (some "Alice"),
    .endpoint (.createWallet
      { userId := 1, name := "Bank", type := .given .bank, balance := some (.exact 1000) }),
    .endpoint (.createWallet
      { userId := 1, name := "Card", type := .given .creditCard, creditLimit := some (.exact 5000) }),
    .endpoint (.createTransaction
      { userId := 1, type := some .expense, amount := some (.exact 300), walletId := .given 13,
        categoryId := .given 0, isInstallment := true, installmentMonths := some (.finite 3),
        firstDueDate := some "1970-02-01" }),
    .endpoint (.payInstallment 14 { userId := 1, installmentId := 14, sourceWalletId := .given 12 })].map
      fun target => { now := 0, authorization := some "Bearer alice", target }

section Served

variable (jwtVerify : Instant → String → Option JwtPayload) (fixed : FixedZone)

end Served

end PocketMint
