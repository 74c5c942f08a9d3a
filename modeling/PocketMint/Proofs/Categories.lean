import PocketMint.Invariant.Rules
import PocketMint.Proofs.LedgerRaces
import PocketMint.Proofs.PostingRules

/-! Every income and expense keeps a category of its type, as long as a new type brings one. -/

namespace PocketMint

open Prog TransactionService

/-- A row's category is its user's and of the row's type; a transfer has none. -/
def Store.Categorized (s : Store) (row : Transaction) : Prop :=
  if row.type = .transfer then row.categoryId = none
  else ∃ id ∈ row.categoryId, ∃ category ∈ s.ownCategory id row.userId,
    category.type.transactionType = row.type

instance (s : Store) : DecidablePred s.Categorized := fun row => by
  unfold Store.Categorized
  infer_instance

/--
What a call needs of the store so that the row it posts has a category of its type.

An update that makes another type of income or expense sends a category with it, and the category of
a confirmed reminder's template is of the template's type. A creation needs nothing: it checks.
-/
def Call.KeepsCategory (call : Call) (s : Store) : Prop :=
  match call.request with
  | .updateTransaction input => ∀ existing ∈ s.ownTransaction input.id input.userId,
      existing.isInstallment = false →
      input.type.truthy.getD existing.type ≠ .transfer →
      input.type.truthy.getD existing.type ≠ existing.type → input.categoryId.truthy.isSome
  | .confirmReminder input => ∀ event ∈ s.ownEvent input.id input.userId,
      event.completedAt = none → ∀ templateId ∈ event.templateId,
      ∀ template ∈ s.templates.find? templateId, template.type ≠ .transfer →
      ∀ categoryId ∈ template.categoryId, ∀ category ∈ s.ownCategory categoryId input.userId,
      category.type.transactionType = template.type
  | _ => True

instance (call : Call) : DecidablePred call.KeepsCategory := fun s => by
  unfold Call.KeepsCategory
  rcases call with ⟨_, _ | _⟩ <;> infer_instance

section Posted

variable {zone : Zone} {call : Call} {seen : List Store} {row : Transaction} {s s' : Store}

/-- A row other than a transfer is categorized by a category that was read for it. -/
theorem Store.categorized_read {categoryId : Option Id} {type : FinancialTxType}
    (read : CategoryRead Eq row.userId categoryId type s) (named : categoryId.isSome)
    (same : row.categoryId = categoryId) (typed : row.type = type) (other : type ≠ .transfer) :
    s.Categorized row := by
  obtain ⟨id, rfl⟩ := Option.isSome_iff_exists.mp named
  obtain ⟨category, own, matching⟩ := (read id rfl).alone
  rw [Store.Categorized, if_neg (typed ▸ other)]
  exact ⟨id, same, category, own, typed ▸ matching⟩

/-- What a creation posts is categorized. -/
theorem RegularCreated.categorized {now : Instant} {input : CreateTransactionInput}
    {type : FinancialTxType} {amount : Decimal} {date : Instant} {wallet : Wallet}
    {rows : Table Transaction}
    (made : RegularCreated Eq now input type amount date wallet row rows s s') :
    s.Categorized row := by
  have user : row.userId = input.userId := congrArg Transaction.userId made.shape
  have typed : row.type = type := congrArg Transaction.type made.shape
  have same : row.categoryId = input.categoryId.truthy := congrArg Transaction.categoryId made.shape
  by_cases transfer : type = .transfer
  · rw [Store.Categorized, if_pos (typed.trans transfer), same]
    exact (made.transfer transfer).1
  · exact Store.categorized_read (user ▸ made.category) (made.posted transfer).1 same typed transfer

/-- What an update posts is categorized, when what it updates is and a new type brings a category. -/
theorem TransactionUpdated.categorized {input : UpdateTransactionInput} {existing : Transaction}
    {type : FinancialTxType} {amount : Decimal} {walletId : Id} {date : Option Instant}
    (made : TransactionUpdated Eq seen input existing type amount walletId date s s')
    (shape : row = updatedRow input type amount walletId (newToWalletId input existing type) date
      existing) (before : s.Categorized existing)
    (brought : type ≠ .transfer → type ≠ existing.type → input.categoryId.truthy.isSome) :
    s.Categorized row := by
  have typed : row.type = type := (congrArg Transaction.type shape).trans made.typed.symm
  have categorized : row.categoryId = if type = .transfer then none
      else input.categoryId.truthy.orElse fun _ => existing.categoryId :=
    congrArg Transaction.categoryId shape
  -- The row that is updated was read for the user, and keeps its user.
  obtain ⟨_, -, rfl, own⟩ := made.read
  have user : row.userId = input.userId :=
    (congrArg Transaction.userId shape).trans (Store.ownTransaction_eq_some.mp own).2
  -- A transfer is written without a category.
  by_cases transfer : type = .transfer
  · rw [Store.Categorized, if_pos (typed.trans transfer), categorized, if_pos transfer]
  · rw [if_neg transfer] at categorized
    cases sent : input.categoryId.truthy with
    | some id =>
      -- A category that was sent was checked against the new type.
      have read := made.category
      rw [sent] at categorized read
      exact Store.categorized_read (user ▸ read) rfl categorized typed transfer
    | none =>
      -- The type stays, so the category that the row had still matches.
      have stays : type = existing.type := by
        by_contra changed
        simp [sent] at brought
        exact changed (brought transfer)
      rw [sent] at categorized
      have userKept : row.userId = existing.userId := (congrArg Transaction.userId shape :)
      have categoryKept : row.categoryId = existing.categoryId := categorized
      simpa only [Store.Categorized, typed.trans stays, userKept, categoryKept] using before

/-- What a confirmed reminder posts is categorized when its template is. -/
theorem ReminderConfirmed.posts_categorized {input : ConfirmReminderInput}
    {existing : NotificationWithTemplate} {template : TemplateRef} {categoryId : Id}
    {amount : Decimal} {rows : Table Transaction}
    (asked : call.request = .confirmReminder input)
    (made : ReminderConfirmed Eq call.now seen input existing template categoryId amount row rows s
      s') (kept : call.KeepsCategory s) : s.Categorized row := by
  -- The reminder that waits is the one that was read, since nothing ran in between.
  obtain ⟨event, own, waits⟩ := made.waiting
  obtain ⟨s₁, -, rfl, read⟩ := made.read
  rw [own, Option.map_some] at read
  obtain rfl := Option.some.inj read
  -- The reminder names the template that it was confirmed from.
  obtain ⟨templateId, names, joined⟩ := Option.bind_eq_some_iff.mp made.sourced
  obtain ⟨stored, there, rfl⟩ := Option.map_eq_some_iff.mp joined
  obtain ⟨category, owned⟩ := Option.isSome_iff_exists.mp made.category.alone
  have typed : row.type = stored.type := congrArg Transaction.type made.shape
  have user : row.userId = input.userId := congrArg Transaction.userId made.shape
  have same : row.categoryId = some categoryId := congrArg Transaction.categoryId made.shape
  simp only [Call.KeepsCategory, asked] at kept
  -- The condition says that the category which is written has the type of the template.
  have matching : category.type.transactionType = stored.type :=
    kept event own waits templateId names stored there made.posted categoryId made.categorized
      category owned
  rw [Store.Categorized, if_neg (typed ▸ made.posted)]
  exact ⟨categoryId, same, category, by rw [user]; exact owned, matching.trans typed.symm⟩

/-- A posting write leaves the categories as they are. -/
theorem Posting.categories (posting : Posting Eq zone call seen row s s') :
    s'.categories = s.categories := by
  cases posting with
  | _ asked made =>
    rw [made.after]
    rfl

/-- A posted row is categorized when every row before is and its call met what it needs. -/
theorem Posting.categorized (posting : Posting Eq zone call seen row s s')
    (before : ∀ other ∈ s.transactions.rows, s.Categorized other) (kept : call.KeepsCategory s) :
    s'.Categorized row := by
  have still : s'.Categorized row ↔ s.Categorized row := by
    simp only [Store.Categorized, Store.ownCategory, posting.categories]
  rw [still]
  -- Each request has read the category of what it posts, except where the condition says so.
  cases posting with
  | regular asked made => exact made.categorized
  | credit asked made =>
    have user : row.userId = _ := congrArg Transaction.userId made.shape
    have typed : row.type = .expense := congrArg Transaction.type made.shape
    exact Store.categorized_read (user ▸ made.category) made.named
      (congrArg Transaction.categoryId made.shape) typed (by decide)
  -- The row that is updated is the one that was read, and it was categorized before.
  | update asked made stored shape =>
    obtain rfl := Option.some.inj (made.stored.symm.trans stored)
    obtain ⟨s₁, -, alone, own⟩ := made.read
    rw [alone] at own
    simp only [Call.KeepsCategory, asked] at kept
    refine made.categorized shape (before _ (Table.mem_of_find? stored)) ?_
    rw [made.typed]
    exact kept _ own made.regular
  | payment asked made =>
    have typed : row.type = .transfer := congrArg Transaction.type made.shape
    rw [Store.Categorized, if_pos typed]
    exact congrArg Transaction.categoryId made.shape
  | confirmation asked made => exact made.posts_categorized asked kept

/-- A row that remains keeps its category, because no category is ever deleted or retyped. -/
theorem Store.Categorized.remains {row' : Transaction} (categorized : s.Categorized row)
    (evolves : s.Evolves s') (numbered : s.Numbered) (linked : s'.TransactionLinks row')
    (remains : row.Remains row') : s'.Categorized row' := by
  rw [Store.Categorized, remains.type, remains.categoryId, remains.userId]
  rw [Store.Categorized] at categorized
  -- The row's type and category do not change, so only the category itself could.
  split
  · rename_i transfer
    rwa [if_pos transfer] at categorized
  · rename_i other
    rw [if_neg other] at categorized
    obtain ⟨id, names, category, own, matching⟩ := categorized
    have there := linked.2.2.1 id (remains.categoryId.trans names)
    rw [remains.userId] at there
    obtain ⟨after, owned⟩ := Option.isSome_iff_exists.mp there
    -- What is found under the identifier is the category that was there.
    obtain ⟨found, -⟩ := Store.ownCategory_eq_some.mp own
    obtain rfl : category = after :=
      evolves.categories.frozen numbered.categories found (Store.ownCategory_eq_some.mp owned).1
    exact ⟨id, names, category, owned, matching⟩

end Posted

/--
In every run in which each update to another type of income or expense sends a category, and each
confirmed reminder's template has a category of its type, every transaction has a category of its
type.
-/
theorem serveAll_categorized {zone : Zone} {calls : List Call}
    (meets : RunMeets zone Call.KeepsCategory .empty calls) :
    let s := serveAll zone .empty calls
    ∀ row ∈ s.transactions.rows, s.Categorized row := by
  refine runMeets_rows Store.Categorized ?_ (fun posting _ before met => posting.categorized before met)
    meets
  intro call seen s s' row row' commit sound after _ member remains categorized
  exact categorized.remains commit.evolves sound.numbered (after.linked.transactions row' member)
    remains

/-- The expense updated to an income, with or without a category. -/
def retyped (categoryId : Arg Id) : Call :=
  { now := 1, request := .updateTransaction
      { userId := 1, id := 14, type := .given .income, categoryId } }

/-- An expense becomes an income, and brings a category for incomes. -/
theorem serveAll_categorized_retyped :
    let s := serveAll defaultTimezone.zone .empty (spent ++ [retyped (.given 7)])
    ∃ row ∈ s.transactions.rows, row.type = .income ∧ s.Categorized row := by
  intro s
  have meets : RunMeets defaultTimezone.zone Call.KeepsCategory .empty
      (spent ++ [retyped (.given 7)]) := by
    decide
  obtain ⟨row, member, income⟩ : ∃ row ∈ s.transactions.rows, row.type = .income := by decide
  exact ⟨row, member, income, serveAll_categorized meets row member⟩

/-- An expense becomes an income, and keeps a category for expenses. -/
theorem updateTransaction_keeps_category :
    let s := serveAll defaultTimezone.zone .empty (spent ++ [retyped .omitted])
    ∃ row ∈ s.transactions.rows, row.type = .income ∧ row.categoryId = some 0 ∧ ¬s.Categorized row := by
  decide

end PocketMint
