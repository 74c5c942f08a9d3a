import PocketMint.Commit.Wallet
import PocketMint.Services.Transaction

/-! What the transaction service's requests can write. -/

namespace PocketMint

open Prog TransactionService

/-- A wallet was read as the user's. -/
def WalletRead (between : Store → Store → Prop) (userId walletId : Id) (s : Store) : Prop :=
  Before between (fun s₁ => (s₁.ownWallet walletId userId).isSome) s

/-- Every category that is named was read as the user's, and of the transaction's type. -/
def CategoryRead (between : Store → Store → Prop) (userId : Id) (categoryId : Option Id)
    (type : FinancialTxType) (s : Store) : Prop :=
  ∀ id ∈ categoryId, Before between (fun s₁ => ∃ category, s₁.ownCategory id userId = some category ∧
    category.type.transactionType = type) s

/-- A write leaves a row in the table that is new there, or the one it was to update. -/
def Posts (updated : Option Id) (row : Transaction) (s s' : Store) : Prop :=
  s'.transactions.find? row.id = some row ∧
    (s.transactions.find? row.id = none ∨ updated = some row.id)

/-- The last step of a program was a write that posted a row. -/
def Wrote (write : List Store → Store → Store → Prop) (updated : Option Id) (row : Transaction)
    (history : List Store) (s : Store) : Prop :=
  ∃ seen before, seen ++ [before] = history ∧ write seen before s ∧ Posts updated row before s

theorem Wrote.mono {write write' : List Store → Store → Store → Prop} {updated : Option Id}
    {row : Transaction} {history : List Store} {s : Store}
    (wrote : Wrote write updated row history s)
    (writes : ∀ seen s s', write seen s s' → write' seen s s') :
    Wrote write' updated row history s := by
  obtain ⟨seen, before, last, written, posts⟩ := wrote
  exact ⟨seen, before, last, writes _ _ _ written, posts⟩

/-- A write that posts a row and gives the answer is the last step. -/
theorem Wrote.now {write : List Store → Store → Store → Prop} {updated : Option Id}
    {row : Transaction} {history : List Store} {before after : Store}
    (written : write history before after) (posts : Posts updated row before after) :
    Wrote write updated row (history ++ [before]) after :=
  ⟨history, before, rfl, written, posts⟩

/-- An insertion posts its row. -/
theorem Posts.insert {updated : Option Id} {row : Transaction} {rows : Table Transaction}
    {s s' : Store} (inserted : s.transactions.insert? row = some rows)
    (after : s'.transactions = rows) : Posts updated row s s' :=
  ⟨after ▸ Table.find?_inserted inserted, .inl (Table.insert?_eq_some_iff.mp inserted).1⟩

/-- A row that an insertion posts is the inserted one. -/
theorem Posts.eq_inserted {row new : Transaction} {rows : Table Transaction} {s s' : Store}
    (posts : Posts none row s s') (inserted : s.transactions.insert? new = some rows)
    (after : s'.transactions = rows) : row = new := by
  -- A transaction that was not there before can only be the inserted one.
  obtain ⟨found, fresh | updated⟩ := posts
  · have member := Table.mem_of_find? found
    rw [after] at member
    rcases (Table.mem_insert inserted).mp member with old | same
    · -- A row of the old table would have been found there.
      have there := Table.find?_of_mem old
      exact absurd (fresh.symm.trans there) (by simp)
    · exact same
  · cases updated

/-- An update posts the rewritten row. -/
theorem Posts.update {id : Id} {rewrite : Transaction → Transaction} {row : Transaction}
    {s s' : Store} (keeps : ∀ row, Keyed.key (rewrite row) = Keyed.key row)
    (found : s.transactions.find? id = some row)
    (after : s'.transactions = s.transactions.update id rewrite keeps) :
    Posts (some id) (rewrite row) s s' := by
  -- The rewriting keeps the identifier.
  have same : (rewrite row).id = id := (keeps row).trans (Table.key_of_find? found)
  refine ⟨?_, .inr (congrArg some same.symm)⟩
  rw [after, same, Table.find?_update, if_pos rfl, found]
  rfl

/-- The creation of a regular transaction. -/
structure RegularCreated (between : Store → Store → Prop) (now : Instant)
    (input : CreateTransactionInput) (type : FinancialTxType) (amount : Decimal) (date : Instant)
    (wallet : Wallet) (row : Transaction) (rows : Table Transaction) (s s' : Store) : Prop where
  positive : 0 < amount
  source : Before between (fun s₁ => s₁.ownWallet wallet.id input.userId = some wallet) s
  transfer : type = .transfer → input.categoryId.truthy = none ∧ wallet.type.isAsset ∧
    amount ≤ wallet.balance ∧ ∃ toWalletId, destination input type = some toWalletId ∧
      toWalletId ≠ wallet.id ∧ WalletRead between input.userId toWalletId s
  posted : type ≠ .transfer → input.categoryId.truthy.isSome ∧ wallet.type.isAsset
  category : CategoryRead between input.userId input.categoryId.truthy type s
  shape : row = regularRow now input type amount wallet.id date s.nextId
  keys : s.TransactionKeys row
  inserted : s.transactions.insert? row = some rows
  after : s' = Store.credit { s with nextId := s.nextId + 1, transactions := rows }
    (plainDeltas row.type row.amount row.walletId row.toWalletId)

/-- The creation of a credit purchase with its instalment. -/
structure CreditCreated (between : Store → Store → Prop) (zone : Zone) (now : Instant)
    (input : CreateTransactionInput) (principal rate : Decimal) (months : Int) (mode : BillKind)
    (plan : InstallmentPlan) (date nextDueDate : Instant) (wallet : Wallet)
    (installment : Installment) (row : Transaction) (installments : Table Installment)
    (rows : Table Transaction) (s s' : Store) : Prop where
  positive : 0 < principal
  source : Before between (fun s₁ => s₁.ownWallet wallet.id input.userId = some wallet) s
  credit : wallet.type.isCredit
  category : CategoryRead between input.userId input.categoryId.truthy .expense s
  named : input.categoryId.truthy.isSome
  term : resolveMonths input = some months ∧ resolveBillingMode input = some mode
  planned : computeInstallmentPlan
    { principal, interestRatePctPerMonth := rate, months } = .ok plan
  affordable : plan.grandTotal ≤ remainingCredit wallet
  due : ∃ firstDueDate, resolveFirstDueDate zone input wallet date = .ok firstDueDate ∧
    businessDate (some firstDueDate) zone now = .ok nextDueDate
  backing : installment =
    { creditInstallment input wallet.id date mode months rate plan nextDueDate s.nextId with
      balanceDeducted := true }
  fits : installment.Fits
  shape : row = creditRow now input wallet.id date plan s.nextId (s.nextId + 1)
  present : (s.wallets.find? wallet.id).isSome
  categorized : ∀ id ∈ row.categoryId, (s.categories.find? id).isSome
  backed : s.installments.insert? installment = some installments
  inserted : s.transactions.insert? row = some rows
  after : s' = Store.credit
    { s with nextId := s.nextId + 2, installments, transactions := rows }
    [⟨wallet.id, -plan.grandTotal⟩]

namespace CreditCreated

variable {between : Store → Store → Prop} {zone : Zone} {now : Instant} {input : CreateTransactionInput}
  {principal rate : Decimal} {months : Int} {mode : BillKind} {plan : InstallmentPlan}
  {date nextDueDate : Instant} {wallet : Wallet} {installment : Installment} {row : Transaction}
  {installments : Table Installment} {rows : Table Transaction} {s s' : Store}

/-- The instalment of a purchase is there after it. -/
theorem found (made : CreditCreated between zone now input principal rate months mode plan date nextDueDate
    wallet installment row installments rows s s') :
    s'.installments.find? installment.id = some installment := by
  rw [made.after]
  exact Table.find?_inserted made.backed

/-- The transaction of a purchase names the instalment that is made with it. -/
theorem names (made : CreditCreated between zone now input principal rate months mode plan date nextDueDate
    wallet installment row installments rows s s') : row.installmentId = some installment.id := by
  -- Both have the number that the store gives next.
  rw [made.shape, made.backing]
  rfl

end CreditCreated

/-- The wallet a creation is for: the one it names, or else the user's first. -/
def targetWallet (input : CreateTransactionInput) (s : Store) : Option Id :=
  input.walletId.truthy.orElse fun _ =>
    (s.wallets.rows.find? fun row => row.userId = input.userId).map Wallet.id

/-- How many steps a creation takes before it reads its wallet. -/
def stepsToWallet (input : CreateTransactionInput) : Nat :=
  if input.walletId.truthy.isSome then 0 else 1

/-- A creation found the wallet it is for, and read that wallet. -/
def TargetRead (input : CreateTransactionInput) (wallet : Wallet) (seen : List Store) : Prop :=
  (∃ s₀ ∈ seen.head?, targetWallet input s₀ = some wallet.id) ∧
    ∃ s₁ ∈ seen[stepsToWallet input]?, s₁.ownWallet wallet.id input.userId = some wallet

/-- The writes of the credit branch of a purchase, all of them after its first read. -/
def CreditWrites (between : Store → Store → Prop) (zone : Zone) (now : Instant)
    (input : CreateTransactionInput) (date : Instant) (wallet : Wallet) (seen : List Store)
    (s s' : Store) : Prop :=
  (∃ s₀, seen.head? = some s₀ ∧ between s₀ s) ∧ TargetRead input wallet seen ∧
  ∃ principal rate months mode plan nextDueDate installment row installments rows,
    CreditCreated between zone now input principal rate months mode plan date nextDueDate wallet
      installment row installments rows s s'

/-- The writes of a creation, all of them after its first read. -/
def CreateWrites (between : Store → Store → Prop) (zone : Zone) (now : Instant)
    (input : CreateTransactionInput) (seen : List Store) (s s' : Store) : Prop :=
  (∃ s₀, seen.head? = some s₀ ∧ between s₀ s) ∧
  ((∃ type amount date wallet row rows, TargetRead input wallet seen ∧
    RegularCreated between now input type amount date wallet row rows s s') ∨
  ∃ wallet, TargetRead input wallet seen ∧
    ∃ principal rate months mode plan date nextDueDate installment row installments rows,
    CreditCreated between zone now input principal rate months mode plan date nextDueDate wallet
      installment row installments rows s s')

theorem CreditWrites.create {between : Store → Store → Prop} {zone : Zone} {now : Instant}
    {input : CreateTransactionInput} {date : Instant} {wallet : Wallet} {seen : List Store}
    {s s' : Store} (writes : CreditWrites between zone now input date wallet seen s s') :
    CreateWrites between zone now input seen s s' := by
  obtain ⟨first, aimed, principal, rate, months, mode, plan, nextDueDate, rest⟩ := writes
  exact ⟨first, .inr ⟨wallet, aimed, principal, rate, months, mode, plan, date, nextDueDate, rest⟩⟩

section Create

variable {between : Store → Store → Prop} {s : Store} {history : List Store}

variable (stays : ∀ s, between s s)
  (chain : ∀ {a b c}, between a b → between b c → between a c)

include stays in
/-- Resolving the wallet of a creation takes at most one step. -/
theorem resolveWalletId_sat {input : CreateTransactionInput} {guar} :
    (resolveWalletId input).Sat between guar
      (fun walletId seen s' => (∀ s₀, seen.head? = some s₀ → between s₀ s') ∧
        seen.length = stepsToWallet input ∧
        ∀ s₀, seen.head?.getD s₀ = s₀ → targetWallet input s₀ = some walletId) [] s := by
  unfold resolveWalletId
  split
  · -- A wallet that is named is taken as it is, without a read.
    rename_i walletId named
    exact sat_ret.mpr ⟨by simp, by simp [stepsToWallet, named],
      fun s₀ _ => by simp [targetWallet, named]⟩
  · -- Otherwise the first step reads the first wallet of the user.
    rename_i unnamed
    refine sat_query_bind fun s₁ _ => sat_orThrow_bind fun wallet found =>
      sat_ret.mpr ⟨?_, by simp [stepsToWallet, unnamed], ?_⟩
    · intro s₀ first
      -- The read of the first step has seen the store that is given.
      obtain rfl : s₁ = s₀ := by simpa using first
      exact stays s₁
    · intro s₀ first
      -- And its first wallet is the target.
      obtain rfl : s₁ = s₀ := by simpa using first
      simp [targetWallet, unnamed, found]

include stays in
/-- After its check, a named category was read as the user's and of the right type. -/
theorem verifyCategory_sat {userId : Id} {categoryId : Option Id} {type : FinancialTxType} {guar} :
    (verifyCategory userId categoryId type).Sat between guar
      (fun _ history' s' => history <+: history' ∧ between s s' ∧
        CategoryRead between userId categoryId type s') history s := by
  unfold verifyCategory
  split
  · -- Without a category there is nothing to read.
    exact sat_ret.mpr ⟨List.prefix_rfl, stays s, by simp [CategoryRead]⟩
  · rename_i id
    refine sat_query_bind fun s₁ moved => sat_orThrow_bind fun category found => ?_
    unfold throwIf
    -- A category of the wrong type is refused.
    split
    · exact sat_fail
    · rename_i matching
      -- The category is the one that is named, and it has the type of the row.
      refine sat_ret.mpr ⟨List.prefix_append _ _, moved, fun id' same => ?_⟩
      obtain rfl : id = id' := by simpa using same
      exact ⟨s₁, stays s₁, category, found, by simpa using matching⟩

include stays in
/-- After its check, the destination of a transfer was read as the user's. -/
theorem verifyDestination_sat {userId : Id} {toWalletId : Option Id} {type : FinancialTxType}
    {guar} :
    (verifyDestination userId toWalletId type).Sat between guar
      (fun _ history' s' => history <+: history' ∧ between s s' ∧
        ∀ id ∈ toWalletId, type = .transfer → WalletRead between userId id s') history s := by
  unfold verifyDestination
  split
  · rename_i id
    refine sat_query_bind fun s₁ moved => sat_orThrow_bind fun wallet found =>
      sat_ret.mpr ⟨List.prefix_append _ _, moved, ?_⟩
    intro id' same _
    -- The destination is the one that is named.
    obtain rfl : id = id' := by simpa using same
    exact ⟨s₁, stays s₁, by simp [found]⟩
  · -- Only a transfer has a destination to read.
    rename_i other
    refine sat_ret.mpr ⟨List.prefix_rfl, stays s, fun id same transfer => ?_⟩
    exact absurd (by simpa using same) (other id transfer)

/-- What a transaction of this amount is posted with is the amount, and positive. -/
theorem positiveAmount_some {amount : Option DecimalInput} {number : Numeric} {value : Decimal}
    (given : positiveAmount amount = some number) (column : columnValue number = .ok value) :
    number = .finite value ∧ 0 < value := by
  obtain ⟨-, positive⟩ := Option.filter_eq_some_iff.mp given
  obtain rfl := columnValue_ok.mp column
  exact ⟨rfl, of_decide_eq_true positive⟩

/-- A plan that is written is the plan of a finite, positive principal at a finite rate. -/
theorem creditPlan_some {amount rate : Numeric} {sent : Option DecimalInput} {months : Int}
    {plan : InstallmentPlan} {interestRate : Decimal} (given : positiveAmount sent = some amount)
    (rated : columnValue rate = .ok interestRate)
    (planning : creditPlan amount rate months = .ok (some plan)) :
    ∃ principal, 0 < principal ∧ computeInstallmentPlan
      { principal, interestRatePctPerMonth := interestRate, months } = .ok plan := by
  obtain rfl := columnValue_ok.mp rated
  -- A plan is computed from finite amounts alone, and its principal is the amount that was sent.
  cases amount with
  | finite principal =>
    refine ⟨principal, (positiveAmount_some given rfl).2, ?_⟩
    cases computed : computeInstallmentPlan
        { principal, interestRatePctPerMonth := interestRate, months } with
    | error message => simp [creditPlan, computed] at planning
    | ok other => simpa [creditPlan, computed] using planning
  | _ => simp [creditPlan] at planning

/-- The write of a credit purchase inserts its two rows and debits the wallet by the grand total. -/
theorem writeCredit_ok {now : Instant} {input : CreateTransactionInput} {walletId : Id}
    {date : Instant} {mode : BillKind} {months : Int} {rate : Decimal} {plan : InstallmentPlan}
    {nextDueDate : Instant} {value : TransactionWithRelations} {s after : Store}
    (done : writeCredit now input walletId date mode months rate plan nextDueDate s =
      .ok (value, after)) :
    ∃ installment row installments rows,
      installment = { creditInstallment input walletId date mode months rate plan nextDueDate s.nextId
        with balanceDeducted := true } ∧
      installment.Fits ∧
      row = creditRow now input walletId date plan s.nextId (s.nextId + 1) ∧
      (s.wallets.find? walletId).isSome ∧
      (∀ id ∈ row.categoryId, (s.categories.find? id).isSome) ∧
      s.installments.insert? installment = some installments ∧
      s.transactions.insert? row = some rows ∧ value.transaction = row ∧
      after = Store.credit { s with nextId := s.nextId + 2, installments, transactions := rows }
        [⟨walletId, -plan.grandTotal⟩] := by
  -- The writes of the transaction, one after the other.
  obtain ⟨installment, s₁, created, done⟩ := Tx.bind_ok.mp done
  -- The plan is stored within its columns, and the row names it.
  obtain ⟨fits, rfl, keys, installments, backed, rfl⟩ := Tx.createInstallment_ok.mp created
  obtain ⟨row, s₂, posted, done⟩ := Tx.bind_ok.mp done
  obtain ⟨rfl, rowKeys, rows, inserted, rfl⟩ := Tx.createTransaction_ok.mp posted
  obtain ⟨included, s₃, viewed, done⟩ := Tx.bind_ok.mp done
  obtain ⟨rfl, rfl⟩ := Tx.view_ok.mp viewed
  obtain ⟨_, s₄, debited, done⟩ := Tx.bind_ok.mp done
  -- The wallet is debited by the total, and the plan is marked as deducted.
  obtain ⟨-, rfl⟩ := Tx.incrementBalance_ok debited
  obtain ⟨_, s₅, marked, done⟩ := Tx.bind_ok.mp done
  obtain ⟨_, -, -, -, rfl⟩ := Tx.modify_ok.mp marked
  obtain ⟨rfl, rfl⟩ := Tx.pure_ok.mp done
  exact ⟨_, _, _, rows, rfl, fits, rfl, keys, rowKeys.2.2.1,
    Table.update_insert backed (fun row => { row with balanceDeducted := true }) fun _ => rfl,
    inserted, rfl, rfl⟩

omit stays in
include chain in
/-- The credit branch writes nothing but its instalment, its row and the debt. -/
theorem createCredit_sat {zone : Zone} {now : Instant} {input : CreateTransactionInput}
    {wallet : Wallet} {amount : Numeric} {date : Instant}
    (given : positiveAmount input.amount = some amount)
    (source : Before between (fun s₁ => s₁.ownWallet wallet.id input.userId = some wallet) s)
    (credit : wallet.type.isCredit)
    (category : CategoryRead between input.userId input.categoryId.truthy .expense s)
    (named : input.categoryId.truthy.isSome)
    (first : ∃ s₀, history.head? = some s₀ ∧ between s₀ s)
    (aimed : TargetRead input wallet history) :
    (createCredit zone now input wallet amount wallet.id date).Sat between
      (fun seen s s' => s' = s ∨ CreditWrites between zone now input date wallet seen s s')
      (fun answer => Wrote (CreditWrites between zone now input date wallet) none
        answer.transaction) history s := by
  unfold createCredit
  -- The checks run in the order of the source, and each leaves its fact behind.
  refine sat_orThrow_bind fun months term => sat_throwIf_bind fun _ => ?_
  refine sat_throwIf_bind fun _ => sat_throwIf_bind fun _ => ?_
  refine sat_ofExcept_bind fun planned planning => sat_ofExcept_bind fun firstDueDate resolved => ?_
  refine sat_ofExcept_bind fun nextDueDate due => sat_throwIf_bind fun affordable => ?_
  refine sat_orThrow_bind fun mode moded => sat_ofExcept_bind fun rate rated => ?_
  refine sat_orThrow_bind fun plan present => ?_
  subst present
  refine sat_commit (fun _ _ => .inl rfl) fun s' value after moved done => ?_
  obtain ⟨installment, row, installments, rows, backing, fits, shape, present, categorized, backed,
    inserted, answered, rfl⟩ := writeCredit_ok done
  -- The amount is positive, and the plan is the one computed from it.
  obtain ⟨principal, positive, planned⟩ := creditPlan_some given rated planning
  -- What was read earlier is carried to the store of the write.
  obtain ⟨s₀, here, before⟩ := first
  have writes : CreditWrites between zone now input date wallet history s' _ :=
    ⟨⟨s₀, here, chain before moved⟩, aimed, principal, rate, months, mode, plan, nextDueDate,
      installment, row, installments, rows, positive, source.later chain moved, credit,
      fun id same => (category id same).later chain moved, named, ⟨term, moded⟩, planned,
      by simpa [exceedsCredit] using affordable, ⟨firstDueDate, resolved, due⟩, backing, fits, shape,
      present, categorized, backed, inserted, rfl⟩
  rw [answered]
  exact ⟨.inr writes, .now writes (.insert inserted rfl)⟩

/-- The write of a regular transaction inserts its row and applies the row's plain deltas. -/
theorem writeRegular_ok {now : Instant} {input : CreateTransactionInput} {type : FinancialTxType}
    {amount : Decimal} {walletId : Id} {date : Instant} {value : TransactionWithRelations}
    {s after : Store} (done : (writeRegular now input type amount walletId date) s = .ok (value, after)) :
    ∃ row rows, row = regularRow now input type amount walletId date s.nextId ∧
      s.TransactionKeys row ∧ s.transactions.insert? row = some rows ∧ value.transaction = row ∧
      after = Store.credit { s with nextId := s.nextId + 1, transactions := rows }
        (plainDeltas row.type row.amount row.walletId row.toWalletId) := by
  -- Only the creation and the deltas change the store; the steps between them read.
  obtain ⟨row, s₁, created, done⟩ := Tx.bind_ok.mp done
  obtain ⟨rfl, keys, rows, inserted, rfl⟩ := Tx.createTransaction_ok.mp created
  obtain ⟨included, s₂, viewed, done⟩ := Tx.bind_ok.mp done
  obtain ⟨rfl, rfl⟩ := Tx.view_ok.mp viewed
  obtain ⟨effect, s₃, lifted, done⟩ := Tx.bind_ok.mp done
  obtain ⟨computed, rfl⟩ := Tx.lift_ok.mp lifted
  obtain ⟨-, rfl⟩ := computeBalanceEffect_ok.mp computed
  obtain ⟨_, s₄, applied, done⟩ := Tx.bind_ok.mp done
  obtain ⟨-, rfl⟩ := applyBalanceDeltas_ok.mp applied
  obtain ⟨rfl, rfl⟩ := Tx.pure_ok.mp done
  exact ⟨_, rows, rfl, keys, inserted, rfl, rfl⟩

include stays chain in
/-- Creating a transaction writes a regular row with its effect, or a credit purchase. -/
theorem createTransaction_sat {zone : Zone} {now : Instant} {input : CreateTransactionInput} :
    (createTransaction zone now input).Sat between
      (fun seen s s' => s' = s ∨ CreateWrites between zone now input seen s s')
      (fun answer => Wrote (CreateWrites between zone now input) none answer.transaction)
      [] s := by
  unfold createTransaction
  -- The target wallet comes first, and everything else is checked against it.
  refine sat_seq (resolveWalletId_sat stays) fun walletId history s ⟨resolved, steps, target⟩ => ?_
  refine sat_orThrow_bind fun type _ => sat_orThrow_bind fun amount given => ?_
  refine sat_throwIf_bind fun named => sat_throwIf_bind fun distinct => ?_
  refine sat_ofExcept_bind fun date _ => ?_
  refine sat_query_bind fun s₁ moved₁ => sat_orThrow_bind fun wallet found => ?_
  obtain rfl : wallet.id = walletId := Table.key_of_find? (Store.ownWallet_eq_some.mp found).1
  -- Whatever the request has read first, the wallet is read after it.
  have first : ∃ s₀, (history ++ [s₁]).head? = some s₀ ∧ between s₀ s₁ := by
    cases history with
    | nil => exact ⟨s₁, rfl, stays s₁⟩
    | cons s₀ rest => exact ⟨s₀, rfl, chain (resolved s₀ rfl) moved₁⟩
  refine sat_throwIf_bind fun source => sat_throwIf_bind fun funded => ?_
  refine sat_seq (verifyDestination_sat stays) fun _ history₂ s₂ ⟨more₂, moved₂, dest⟩ => ?_
  refine sat_throwIf_bind fun uncategorized => sat_throwIf_bind fun categorized => ?_
  refine sat_seq (verifyCategory_sat stays) fun _ history₃ s₃ ⟨more₃, moved₃, category⟩ => ?_
  refine sat_throwIf_bind fun notLoan => sat_throwIf_bind fun notDebt => ?_
  refine sat_throwIf_bind fun _ => ?_
  -- The wallet that was read is carried through the checks after it.
  have read : Before between (fun s₁ => s₁.ownWallet wallet.id input.userId = some wallet) s₃ :=
    ⟨s₁, chain moved₂ moved₃, found⟩
  obtain ⟨s₀, here, before⟩ := first
  -- The reads since the first one were added behind it.
  have here₃ : history₃.head? = some s₀ :=
    List.singleton_prefix_iff_head?_eq_some.mp
      ((List.singleton_prefix_iff_head?_eq_some.mpr here).trans (more₂.trans more₃))
  have first₃ : ∃ s₀, history₃.head? = some s₀ ∧ between s₀ s₃ :=
    ⟨s₀, here₃, chain before (chain moved₂ moved₃)⟩
  have aimed : TargetRead input wallet history₃ := by
    refine ⟨⟨s₀, here₃, target s₀ ?_⟩, s₁, ?_, found⟩
    · cases history <;> simp_all
    · -- The wallet was read right after it was resolved.
      obtain ⟨more, rfl⟩ := more₂.trans more₃
      simp [← steps]
  split
  · -- The credit branch.
    rename_i credit
    obtain ⟨rfl, credit⟩ := credit
    refine (createCredit_sat @chain given read credit category ?_ first₃ aimed).mono
      (fun _ _ same => same) (fun _ _ _ => Or.imp_right CreditWrites.create)
      fun _ _ _ wrote => wrote.mono fun _ _ _ => CreditWrites.create
    -- A credit purchase without a category was refused before.
    cases sent : input.categoryId.truthy <;> simp_all
  · -- The regular branch.
    rename_i regular
    refine sat_ofExcept_bind fun value column => ?_
    refine sat_commit (fun _ _ => .inl rfl) fun s' _ after moved done => ?_
    obtain ⟨row, rows, shape, keys, inserted, answered, rfl⟩ := writeRegular_ok done
    suffices writes : CreateWrites between zone now input history₃ s' _ by
      rw [answered]
      exact ⟨.inr writes, .now writes (.insert inserted rfl)⟩
    refine ⟨⟨s₀, here₃, chain before (chain moved₂ (chain moved₃ moved))⟩, .inl ?_⟩
    -- The column stores the positive amount that was sent.
    obtain ⟨rfl, positive⟩ := positiveAmount_some given column
    refine ⟨type, value, date, wallet, row, rows, aimed, positive, read.later chain moved, ?_, ?_,
      fun id same => (category id same).later chain moved, shape, keys, inserted, rfl⟩
    -- A transfer has a destination of its own, an asset to come from and the funds for it.
    · rintro rfl
      obtain ⟨toWalletId, sent⟩ := Option.isSome_iff_exists.mp
        (Option.ne_none_iff_isSome.mp fun missing => named ⟨rfl, missing⟩)
      refine ⟨by simpa using uncategorized, by simpa using source,
        by simpa [Numeric.IsGreater] using funded, toWalletId, by simp [destination, sent], ?_, ?_⟩
      · rintro rfl
        exact distinct ⟨rfl, sent⟩
      · exact (dest toWalletId sent rfl).later chain (chain moved₃ moved)
    -- Any other row has a category, and an income is booked on an asset.
    · intro posted
      refine ⟨Option.ne_none_iff_isSome.mp fun missing => categorized ⟨posted, missing⟩, ?_⟩
      cases kind : wallet.type <;>
        cases type <;> simp_all [WalletType.isAsset, WalletType.isCredit, classifyWalletForNetWorth]

end Create

/-- The update of a transaction, which the request has read as its user's. -/
structure TransactionUpdated (between : Store → Store → Prop) (seen : List Store)
    (input : UpdateTransactionInput) (existing : Transaction) (type : FinancialTxType)
    (amount : Decimal) (walletId : Id) (date : Option Instant) (s s' : Store) : Prop where
  read : ∃ s₁, seen.head? = some s₁ ∧ between s₁ s ∧
    s₁.ownTransaction input.id input.userId = some existing
  regular : existing.isInstallment = false
  complete : existing.type = .transfer → existing.toWalletId.isSome
  typed : type = input.type.truthy.getD existing.type
  valued : (input.amount = none → amount = existing.amount) ∧ (input.amount.isSome → 0 < amount)
  priced : columnValue ((positiveAmount input.amount).getD (.finite existing.amount)) = .ok amount
  source : newWalletId input existing = some walletId
  posted : type ≠ .transfer → input.walletId.truthy.isSome ∨ type = .income →
    Before between (fun s₂ => ∃ wallet, s₂.ownWallet walletId input.userId = some wallet ∧
      (type = .income → wallet.type.isAsset)) s
  transfer : type = .transfer → input.categoryId.truthy = none ∧
    Before between (fun s₂ => ∃ wallet, s₂.ownWallet walletId input.userId = some wallet ∧
      wallet.type.isAsset ∧ amount ≤ wallet.balance) s ∧
    ∃ toWalletId, newToWalletId input existing type = some toWalletId ∧ toWalletId ≠ walletId ∧
      WalletRead between input.userId toWalletId s
  category : CategoryRead between input.userId input.categoryId.truthy type s
  found : (s.transactions.find? input.id).isSome
  keys : ∀ row, s.transactions.find? input.id = some row → s.TransactionKeys
    (updatedRow input type amount walletId (newToWalletId input existing type) date row)
  after : s' = Store.credit (Store.credit
    { s with
      transactions := s.transactions.update input.id
        (updatedRow input type amount walletId (newToWalletId input existing type) date) }
    (negated (plainDeltas existing.type existing.amount existing.walletId existing.toWalletId)))
    (plainDeltas type amount walletId (newToWalletId input existing type))

/-- The deletion of a regular transaction, which the request has read as its user's. -/
structure RegularDeleted (between : Store → Store → Prop) (seen : List Store)
    (input : DeleteTransactionInput) (existing : Transaction) (s s' : Store) : Prop where
  read : ∃ s₁, seen.head? = some s₁ ∧ between s₁ s ∧
    s₁.ownTransaction input.id input.userId = some existing
  regular : existing.isInstallment = false
  complete : existing.type = .transfer → existing.toWalletId.isSome
  found : (s.transactions.find? input.id).isSome
  after : s' = Store.credit (s.deleteTransaction input.id)
    (negated (plainDeltas existing.type existing.amount existing.walletId existing.toWalletId))

/-- The deletion of an instalment's transaction, which the request has read with its grand total. -/
structure InstallmentDeleted (between : Store → Store → Prop) (seen : List Store)
    (input : DeleteTransactionInput) (existing : Transaction) (grandTotal : Option Decimal)
    (s s' : Store) : Prop where
  read : ∃ s₁, seen.head? = some s₁ ∧ between s₁ s ∧
    s₁.ownTransaction input.id input.userId = some existing ∧
    grandTotal = existing.installmentId.bind s₁.grandTotal
  backed : existing.isInstallment = true
  found : (s.transactions.find? input.id).isSome
  backing : ∀ id ∈ existing.installmentId, (s.installments.find? id).isSome
  after : s' = Store.credit
    (match existing.installmentId with
      | some id => (s.deleteTransaction input.id).deleteInstallment id
      | none => s.deleteTransaction input.id)
    [⟨existing.walletId, grandTotal.getD existing.amount⟩]

section Change

variable {between : Store → Store → Prop} {s : Store} {history : List Store}

variable (stays : ∀ s, between s s)
  (chain : ∀ {a b c}, between a b → between b c → between a c)

/-- A wallet that was read under an optional identifier was read under that identifier. -/
theorem boundWallet_some {walletId : Option Id} {userId : Id} {wallet : Wallet}
    (found : (walletId.bind fun id => s.ownWallet id userId) = some wallet) {id : Id}
    (named : walletId = some id) : s.ownWallet id userId = some wallet := by
  simpa [named] using found

include stays in
/-- After its check, the wallet of an income or an expense was read as the user's. -/
theorem verifyTarget_sat {input : UpdateTransactionInput} {type : FinancialTxType}
    {walletId : Option Id} {guar} :
    (verifyTarget input type walletId).Sat between guar
      (fun _ history' s' => history <+: history' ∧ between s s' ∧ ∀ id, walletId = some id →
        type ≠ .transfer → input.walletId.truthy.isSome ∨ type = .income →
        Before between (fun s₂ => ∃ wallet, s₂.ownWallet id input.userId = some wallet ∧
          (type = .income → wallet.type.isAsset)) s') history s := by
  unfold verifyTarget
  split
  · refine sat_query_bind fun s₁ moved => sat_orThrow_bind fun wallet found => ?_
    unfold throwIf
    -- Income on a debt wallet is refused.
    split
    · exact sat_fail
    · rename_i notDebt
      -- The wallet was read for the user, and income found an asset.
      refine sat_ret.mpr ⟨List.prefix_append _ _, moved, fun id named _ _ => ⟨s₁, stays s₁, wallet,
        boundWallet_some found named, fun income => ?_⟩⟩
      cases kind : wallet.type <;> simp_all [WalletType.isAsset, classifyWalletForNetWorth]
  · rename_i unchecked
    -- The wallet is only read if it was sent or if the row is an income.
    exact sat_ret.mpr ⟨List.prefix_rfl, stays s, fun id _ posted asked => absurd ⟨posted, asked⟩ unchecked⟩

include stays chain in
/-- After its checks, both wallets of a transfer were read as the user's. -/
theorem verifyTransfer_sat {input : UpdateTransactionInput} {type : FinancialTxType}
    {amount : Numeric} {walletId toWalletId : Option Id} {guar} :
    (verifyTransfer input type amount walletId toWalletId).Sat between guar
      (fun _ history' s' => history <+: history' ∧ between s s' ∧ ∀ id value, walletId = some id →
        amount = .finite value → type = .transfer →
        Before between (fun s₂ => ∃ wallet, s₂.ownWallet id input.userId = some wallet ∧
          wallet.type.isAsset ∧ value ≤ wallet.balance) s' ∧
        ∃ dest, toWalletId = some dest ∧ dest ≠ id ∧ WalletRead between input.userId dest s')
      history s := by
  unfold verifyTransfer
  split
  · refine sat_throwIf_bind fun named => sat_throwIf_bind fun distinct => ?_
    -- The source is read before the destination, and both reads are kept.
    refine sat_query_bind fun s₁ moved₁ => sat_orThrow_bind fun source found => ?_
    refine sat_throwIf_bind fun asset => sat_throwIf_bind fun funded => ?_
    refine sat_query_bind fun s₂ moved₂ => sat_orThrow_bind fun wallet foundDest => ?_
    refine sat_ret.mpr ⟨⟨[s₁, s₂], by simp⟩, chain moved₁ moved₂, ?_⟩
    rintro id value rfl rfl -
    -- The destination is named and is another wallet than the source.
    obtain ⟨dest, rfl⟩ := Option.ne_none_iff_exists'.mp named
    refine ⟨⟨s₁, moved₂, source, found, by simpa using asset, ?_⟩, dest, rfl, ?_, s₂, stays s₂, ?_⟩
    · simpa [Numeric.IsGreater] using funded
    · rintro rfl
      exact distinct rfl
    · simp only [Option.bind_some] at foundDest
      simp [foundDest]
  · -- Nothing is checked of a row that is no transfer.
    rename_i other
    exact sat_ret.mpr ⟨List.prefix_rfl, stays s, fun _ _ _ _ transfer => absurd transfer other⟩

/-- The amount after an update is the stored one when none is sent, and positive when one is. -/
theorem updatedAmount {sent : Option DecimalInput} {stored amount : Decimal}
    (positive : ¬(sent.isSome ∧ positiveAmount sent = none))
    (column : columnValue ((positiveAmount sent).getD (.finite stored)) = .ok amount) :
    (sent = none → amount = stored) ∧ (sent.isSome → 0 < amount) := by
  constructor
  · -- Without an amount the stored one goes through the column, which holds it already.
    rintro rfl
    have kept : Numeric.finite stored = .finite amount := columnValue_ok.mp column
    simpa using kept.symm
  · intro given
    -- An amount that is sent was read as a positive number.
    cases read : positiveAmount sent with
    | none => exact absurd ⟨given, read⟩ positive
    | some number => exact (positiveAmount_some read (by simpa [read] using column)).2

/-- The write of an update reverses what was read, rewrites the row, and applies the new effect. -/
theorem writeUpdate_ok {input : UpdateTransactionInput} {existing : Transaction}
    {type : FinancialTxType} {number : Numeric} {date : Option Instant}
    {value : TransactionWithRelations} {after : Store}
    (done : (writeUpdate input existing type number date) s = .ok (value, after)) :
    ∃ amount walletId, columnValue number = .ok amount ∧
      newWalletId input existing = some walletId ∧ (s.transactions.find? input.id).isSome ∧
      (∀ row, s.transactions.find? input.id = some row → s.TransactionKeys
        (updatedRow input type amount walletId (newToWalletId input existing type) date row)) ∧
      after = Store.credit (Store.credit
        { s with
          transactions := s.transactions.update input.id
            (updatedRow input type amount walletId (newToWalletId input existing type) date) }
        (negated (plainDeltas existing.type existing.amount existing.walletId existing.toWalletId)))
        (plainDeltas type amount walletId (newToWalletId input existing type)) ∧
      ∃ row, s.transactions.find? input.id = some row ∧ value.transaction =
        updatedRow input type amount walletId (newToWalletId input existing type) date row := by
  -- The old effect is taken back first, then the row is rewritten, and the new effect follows.
  obtain ⟨reversal, s₁, lifted, done⟩ := Tx.bind_ok.mp done
  obtain ⟨reversed, rfl⟩ := Tx.lift_ok.mp lifted
  -- The movement that was booked is undone.
  obtain ⟨-, rfl⟩ := reverseBalanceEffect_ok.mp reversed
  obtain ⟨_, s₂, applied, done⟩ := Tx.bind_ok.mp done
  obtain ⟨-, rfl⟩ := applyBalanceDeltas_ok.mp applied
  obtain ⟨amount, s₃, column, done⟩ := Tx.bind_ok.mp done
  -- The new amount must fit the column.
  cases taken : columnValue number with
  | error error => simp [taken, Except.map] at column
  | ok amount' =>
    obtain ⟨rfl, rfl⟩ := by simpa [taken, Except.map] using column
    -- A row without a wallet is refused by the database client.
    cases source : newWalletId input existing with
    | none => simp [source] at done
    | some walletId =>
      simp only [source] at done
      obtain ⟨updated, s₄, rewritten, done⟩ := Tx.bind_ok.mp done
      -- The row is rewritten if it is there and its new keys hold.
      obtain ⟨row, found, keys, rfl, rfl⟩ := Tx.updateTransaction_ok.mp rewritten
      obtain ⟨_, s₅, viewed, done⟩ := Tx.bind_ok.mp done
      obtain ⟨rfl, rfl⟩ := Tx.view_ok.mp viewed
      obtain ⟨effect, s₆, computed, done⟩ := Tx.bind_ok.mp done
      obtain ⟨computing, rfl⟩ := Tx.lift_ok.mp computed
      -- The movement of the new row is applied.
      obtain ⟨-, rfl⟩ := computeBalanceEffect_ok.mp computing
      obtain ⟨_, s₇, credited, done⟩ := Tx.bind_ok.mp done
      obtain ⟨-, rfl⟩ := applyBalanceDeltas_ok.mp credited
      obtain ⟨rfl, rfl⟩ := Tx.pure_ok.mp done
      have present : s.transactions.find? input.id = some row := found
      refine ⟨amount', walletId, rfl, rfl, by simp [present], fun other same => ?_, rfl, row, present,
        rfl⟩
      obtain rfl : row = other := by simpa [present] using same
      simpa using keys

/-- The writes of an update. -/
def UpdateWrites (between : Store → Store → Prop) (input : UpdateTransactionInput)
    (seen : List Store) (s s' : Store) : Prop :=
  ∃ existing type amount walletId date,
    TransactionUpdated between seen input existing type amount walletId date s s'

include stays chain in
/-- Updating a transaction writes nothing but its row and the difference of its effects. -/
theorem updateTransaction_sat {zone : Zone} {now : Instant} {input : UpdateTransactionInput} :
    (updateTransaction zone now input).Sat between
      (fun seen s s' => s' = s ∨ UpdateWrites between input seen s s')
      (fun answer => Wrote (UpdateWrites between input) (some input.id) answer.transaction)
      [] s := by
  unfold updateTransaction
  -- The row is read before the wallets, so the first read of the history is the row.
  refine sat_throwIf_bind fun _ => sat_throwIf_bind fun positive => ?_
  refine sat_ofExcept_bind fun date _ => ?_
  refine sat_query_bind fun s₁ _ => sat_orThrow_bind fun existing found => ?_
  refine sat_throwIf_bind fun regular => sat_throwIf_bind fun _ => sat_throwIf_bind fun complete => ?_
  refine sat_seq (verifyTarget_sat stays) fun _ history₂ s₂ ⟨grown₂, moved₂, target⟩ => ?_
  refine sat_seq (verifyTransfer_sat stays chain) fun _ history₃ s₃ ⟨grown₃, moved₃, transfer⟩ => ?_
  refine sat_throwIf_bind fun uncategorized => sat_throwIf_bind fun _ => ?_
  refine sat_seq (verifyCategory_sat stays) fun _ history₄ s₄ ⟨grown₄, moved₄, category⟩ => ?_
  refine sat_commit (fun _ _ => .inl rfl) fun s' _ after moved done => ?_
  obtain ⟨amount, walletId, column, source, present, keys, rfl, row, stored, answered⟩ :=
    writeUpdate_ok done
  suffices writes : UpdateWrites between input history₄ s' _ by
    rw [answered]
    exact ⟨.inr writes, .now writes (.update (fun _ => rfl) stored rfl)⟩
  have first : history₄.head? = some s₁ := by
    obtain ⟨more, rfl⟩ := grown₂.trans (grown₃.trans grown₄)
    rfl
  -- Facts of earlier reads are carried through the steps that came after them.
  have fromTarget : between s₂ s' := chain moved₃ (chain moved₄ moved)
  have fromTransfer : between s₃ s' := chain moved₄ moved
  refine ⟨existing, _, amount, walletId, date, ⟨s₁, first, chain moved₂ fromTarget, found⟩,
    by simpa using regular, fun kind => ?_, rfl, ?_, ?_, source, fun posted asked => ?_, fun kind => ?_,
    fun id same => (category id same).later chain moved, present, keys, rfl⟩
  -- A transfer has a stored destination.
  · exact Option.ne_none_iff_isSome.mp fun missing => complete ⟨kind, missing⟩
  -- The amount is the sent one, if any, and the stored one otherwise.
  · exact updatedAmount positive column
  · exact column
  -- The target was read for the user if it was sent or if the row is an income.
  · exact (target walletId source posted asked).later chain fromTarget
  -- The transfer was checked against the source that was read.
  · obtain ⟨funded, dest, named, distinct, read⟩ :=
      transfer walletId amount source (columnValue_ok.mp column) kind
    refine ⟨by simpa [kind] using uncategorized, funded.later chain fromTransfer, dest, named,
      distinct, read.later chain fromTransfer⟩

/-- The write of a regular row's deletion reverses what was read and deletes the row. -/
theorem writeDelete_regular {input : DeleteTransactionInput} {existing : Transaction}
    {grandTotal : Option Decimal} {id : Id} {after : Store} (regular : existing.isInstallment = false)
    (done : (writeDelete input existing grandTotal) s = .ok (id, after)) :
    (s.transactions.find? input.id).isSome ∧ after = Store.credit (s.deleteTransaction input.id)
      (negated (plainDeltas existing.type existing.amount existing.walletId existing.toWalletId)) := by
  simp only [writeDelete, regular] at done
  -- The effect is taken back before the row is deleted.
  obtain ⟨reversal, s₁, lifted, done⟩ := Tx.bind_ok.mp done
  obtain ⟨reversed, rfl⟩ := Tx.lift_ok.mp lifted
  obtain ⟨-, rfl⟩ := reverseBalanceEffect_ok.mp reversed
  obtain ⟨_, s₂, applied, done⟩ := Tx.bind_ok.mp done
  obtain ⟨-, rfl⟩ := applyBalanceDeltas_ok.mp applied
  obtain ⟨_, s₃, deleted, done⟩ := Tx.bind_ok.mp done
  obtain ⟨found, rfl⟩ := Tx.delete_ok.mp deleted
  obtain ⟨-, rfl⟩ := Tx.pure_ok.mp done
  exact ⟨found, rfl⟩

/-- The write of an instalment row's deletion credits the grand total and deletes both rows. -/
theorem writeDelete_installment {input : DeleteTransactionInput} {existing : Transaction}
    {grandTotal : Option Decimal} {id : Id} {after : Store} (backed : existing.isInstallment = true)
    (done : (writeDelete input existing grandTotal) s = .ok (id, after)) :
    (s.transactions.find? input.id).isSome ∧
    (∀ id ∈ existing.installmentId, (s.installments.find? id).isSome) ∧
    after = Store.credit
      (match existing.installmentId with
        | some id => (s.deleteTransaction input.id).deleteInstallment id
        | none => s.deleteTransaction input.id)
      [⟨existing.walletId, grandTotal.getD existing.amount⟩] := by
  -- The effect of an instalment is its grand total, which goes back to the wallet.
  simp only [writeDelete, backed, if_true, reverseBalanceEffect_installment] at done
  obtain ⟨reversal, s₁, lifted, done⟩ := Tx.bind_ok.mp done
  obtain ⟨same, rfl⟩ := Tx.lift_ok.mp lifted
  obtain rfl := by simpa using same
  obtain ⟨_, s₂, applied, done⟩ := Tx.bind_ok.mp done
  obtain ⟨-, rfl⟩ := applyBalanceDeltas_ok.mp applied
  obtain ⟨_, s₃, deleted, done⟩ := Tx.bind_ok.mp done
  obtain ⟨found, rfl⟩ := Tx.delete_ok.mp deleted
  -- The instalment goes along with the row, if the row names one.
  cases linked : existing.installmentId with
  | none =>
    simp only [linked] at done
    obtain ⟨-, rfl⟩ := Tx.pure_ok.mp done
    exact ⟨found, by simp, rfl⟩
  | some installmentId =>
    simp only [linked] at done
    obtain ⟨_, s₄, dropped, done⟩ := Tx.bind_ok.mp done
    obtain ⟨present, rfl⟩ := Tx.delete_ok.mp dropped
    obtain ⟨-, rfl⟩ := Tx.pure_ok.mp done
    refine ⟨found, fun other same => ?_, rfl⟩
    obtain rfl : installmentId = other := by simpa using same
    exact present

/-- Deleting a transaction writes nothing but its deletion and the reversal of its effect. -/
theorem deleteTransaction_sat {input : DeleteTransactionInput} :
    (deleteTransaction input).Sat between
      (fun seen s s' => s' = s ∨ (∃ existing, RegularDeleted between seen input existing s s') ∨
        ∃ existing grandTotal, InstallmentDeleted between seen input existing grandTotal s s')
      (fun _ _ _ => True) [] s := by
  unfold deleteTransaction
  refine sat_query_bind fun s₁ _ => sat_orThrow_bind fun ⟨existing, grandTotal⟩ found => ?_
  refine sat_throwIf_bind fun complete => ?_
  refine sat_commit (fun _ _ => .inl rfl) fun s' _ after moved done => ⟨.inr ?_, trivial⟩
  -- The row was read as the user's own, with the total of its plan.
  obtain ⟨row, own, same⟩ := Option.map_eq_some_iff.mp found
  obtain ⟨rfl, rfl⟩ := by simpa using same
  -- The two kinds of rows are deleted by different writes.
  cases kind : row.isInstallment with
  | false =>
    obtain ⟨present, rfl⟩ := writeDelete_regular kind done
    refine .inl ⟨row, ⟨s₁, rfl, moved, own⟩, kind, fun transfer => ?_, present, rfl⟩
    -- A transfer without a destination is refused.
    exact Option.ne_none_iff_isSome.mp fun missing => complete ⟨transfer, missing⟩
  | true =>
    obtain ⟨present, backing, rfl⟩ := writeDelete_installment kind done
    -- An instalment goes with its plan, whose total was read.
    exact .inr ⟨row, _, ⟨s₁, rfl, moved, own, rfl⟩, kind, present, backing, rfl⟩

end Change

end PocketMint
