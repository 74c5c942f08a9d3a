import PocketMint.Invariant.SeenReminders
import PocketMint.Services.TransactionQuery
import PocketMint.System.Request

/-! Every request does for its user what it would do where only that user's rows are. -/

namespace PocketMint

open Prog

variable {s : Store} {userId : Id} {zone : Zone} {now : Instant}

section Categories

/-- A default category is found among the user's, or added there. -/
theorem upsertCategory_confined (type : CategoryType) (name : String) :
    Confined (Store.seenBy userId) Store.Numbered (CategoryService.upsert userId type name) := by
  -- The entry is looked up among the categories of its user, which both stores hold.
  let key : Category → Bool := fun row => row.userId = userId && row.name = name && row.type = type
  intro s numbered
  have among : (s.seenBy userId).categories.rows.find? key = s.categories.rows.find? key :=
    find?_among fun row _ wanted => by
      simp only [key, Bool.and_eq_true] at wanted
      exact wanted.1.1
  constructor
  · -- Over the user's rows alone, the entry is found or inserted as it is over all.
    refine Tx.local_commit ?_
    simp only [key] at among
    simp only [Tx.Local, among]
    cases s.categories.rows.find? _ with
    | some category => rfl
    | none =>
      exact Tx.local_insert Category.userId rfl (fun _ => rfl) Iff.rfl rfl (numbered.categories.free le_rfl)
  · -- What is found leaves the store alone, and a new row takes the next number.
    cases taken : s.categories.rows.find? key with
    | some category =>
      have same : (CategoryService.upsert userId type name).run s = (.ok category, s) :=
        run_commit_ok (by simp only [key] at taken; simp only [taken])
      rw [same]
      exact numbered
    | none =>
      have free : s.categories.find? (Keyed.key ({ id := s.nextId, userId, name, type } : Category)) = none :=
        numbered.categories.free le_rfl
      obtain ⟨rows, inserted⟩ := Table.exists_insert free
      have made : (CategoryService.upsert userId type name).run s =
          (.ok { id := s.nextId, userId, name, type },
              { s with nextId := s.nextId + 1, categories := rows }) :=
        run_commit_ok (by
          simp only [key] at taken
          simp only [taken]
          exact Tx.insert_ok.mpr ⟨rfl, trivial, rows, inserted, rfl⟩)
      rw [made]
      exact { numbered.later (Nat.le_succ _) with
        categories := numbered.categories.insert (Nat.lt_succ_self _) (Nat.le_succ _) inserted }

theorem upsertCategories_confined (entries : List (CategoryType × String)) :
    Confined (Store.seenBy userId) Store.Numbered (upsertCategories userId entries) := by
  -- The entries are added one after the other.
  induction entries with
  | nil => exact .ret ()
  | cons entry rest ih =>
    obtain ⟨type, name⟩ := entry
    exact Confined.bind (upsertCategory_confined type name) fun _ => ih

theorem ensureDefaultCategories_local (numbered : s.Numbered) :
    (ensureDefaultCategories userId).Local (Store.seenBy userId) s :=
  (upsertCategories_confined _ s numbered).1

end Categories

section Queries

/-- The instalment of a transaction of the user has one grand total in both. -/
theorem Store.Linked.sparklineTransaction (linked : s.Linked) {row : Transaction}
    (member : row ∈ s.transactions.rows)
    (user : row.userId = userId) :
    (s.seenBy userId).sparklineTransaction row = s.sparklineTransaction row := by
  -- The instalment of a row belongs to the user of the row, and both stores hold it.
  have links := (linked.transactions row member).2.2.2
  rw [user] at links
  unfold Store.sparklineTransaction
  cases named : row.installmentId with
  | none => rfl
  | some id => simp only [Option.bind_some, Store.grandTotal, Store.installment_seenBy (links id named)]

theorem getNetWorth_local : (getNetWorth userId).Local (Store.seenBy userId) s := by
  refine local_query ?_
  simp [Store.seenBy, Store.rowsOf, List.filter_filter]

theorem getWalletSparkline_local {input : GetWalletSparklineInput} (sound : s.Intact) :
    (getWalletSparkline zone now input).Local (Store.seenBy input.userId) s := by
  unfold getWalletSparkline
  refine local_query_bind Store.ownWallet_seenBy (local_orThrow_bind fun wallet _ => ?_)
  refine local_ofExcept_bind fun buckets _ => local_query_bind ?_ (local_ret _)
  unfold Store.recentTransactions
  congr 1
  -- The rows of the window are the user's, and each is joined with the same instalment.
  have among : (s.seenBy input.userId).transactions.rows = s.transactions.rows.filter fun row =>
      row.userId = input.userId := rfl
  rw [among, List.filter_filter]
  have kept : ∀ test : Transaction → Bool, (∀ row, test row → row.userId = input.userId) →
      s.transactions.rows.filter (fun row => test row && decide (row.userId = input.userId)) =
        s.transactions.rows.filter test := fun test mine => List.filter_congr fun row _ => by
    cases selected : test row with
    | false => rfl
    | true => simp [mine row selected]
  rw [kept _ fun row wanted => by simp at wanted; tauto]
  refine List.map_congr_left fun row listed => ?_
  obtain ⟨member, wanted⟩ := List.mem_filter.mp listed
  refine sound.linked.sparklineTransaction member ?_
  simp at wanted
  tauto

theorem listTransactions_local {input : ListTransactionsInput} (sound : s.Intact) :
    (listTransactions zone now input).Local (Store.seenBy input.userId) s := by
  unfold listTransactions
  -- The selected rows are the user's own, so that nothing is lost by leaving out the others.
  refine local_throwIf_bind fun _ => local_ofExcept_bind fun window _ => local_query ?_
  have same : (s.seenBy input.userId).selectedTransactions input window =
      s.selectedTransactions input window := by
    simp only [Store.selectedTransactions, Store.seenBy, Store.rowsOf, Table.rows_filter, List.filter_filter]
    refine List.filter_congr fun row _ => ?_
    cases decide (row.userId = input.userId) <;> simp
  simp only [same]
  refine List.map_congr_left fun row taken => ?_
  -- What is taken was selected, and so is the user's.
  have listed : row ∈ s.selectedTransactions input window := by
    cases limit : TransactionQueryService.resolveTake input.limit with
    | none =>
      rw [limit] at taken
      exact (List.mem_insertionSort _).mp taken
    | some take =>
      rw [limit] at taken
      exact (List.mem_insertionSort _).mp (List.mem_of_mem_take taken)
  obtain ⟨member, wanted⟩ := List.mem_filter.mp listed
  refine Store.includeTransaction_seenBy (sound.linked.transactions row member) ?_
  simp at wanted
  tauto

end Queries

/-- A call for a user runs as where only that user's rows are. -/
theorem handle_local {call : Call} (acts : call.request.actor = some userId) (sound : s.Intact) :
    (handle zone call).Local (Store.seenBy userId) s := by
  -- Wrapping the answer of a service as a response reads nothing.
  have answered : ∀ {α : Type} {program : Service α} {respond : α → Response},
      program.Local (Store.seenBy userId) s →
      (program >>= fun value => ret (respond value)).Local (Store.seenBy userId) s :=
    fun here => local_seq here fun _ _ _ => local_ret _
  obtain ⟨now, request⟩ := call
  -- Each request names its user in its input, and runs the service whose locality was shown before.
  cases request with
  | createWallet input =>
    obtain rfl := Option.some.inj acts
    exact answered (createWallet_local sound)
  | updateWallet input =>
    obtain rfl := Option.some.inj acts
    exact answered updateWallet_local
  | deleteWallet input =>
    obtain rfl := Option.some.inj acts
    exact answered (deleteWallet_local sound)
  | createTransaction input =>
    obtain rfl := Option.some.inj acts
    exact answered (createTransaction_local sound)
  | updateTransaction input =>
    obtain rfl := Option.some.inj acts
    exact answered (updateTransaction_local sound)
  | deleteTransaction input =>
    obtain rfl := Option.some.inj acts
    exact answered (deleteTransaction_local sound)
  | payInstallment input =>
    obtain rfl := Option.some.inj acts
    exact answered (payInstallment_local sound)
  | createRecurringTransaction input =>
    obtain rfl := Option.some.inj acts
    exact answered (createRecurringTransaction_local sound)
  | updateRecurringTransaction input =>
    obtain rfl := Option.some.inj acts
    exact answered (updateRecurringTransaction_local sound)
  -- An evaluation names the user only by its filter.
  | evaluateReminders evaluationDate owner =>
    obtain rfl : owner = some userId := acts
    exact answered (evaluateReminders_local sound)
  | markNotificationRead input =>
    obtain rfl := Option.some.inj acts
    exact answered (markNotificationRead_local sound)
  | confirmReminder input =>
    obtain rfl := Option.some.inj acts
    exact answered (confirmReminder_local sound)
  -- The categories' names are added one by one, which is shown by another rule.
  | ensureDefaultCategories owner =>
    obtain rfl := Option.some.inj acts
    exact local_seq (ensureDefaultCategories_local sound.numbered) fun _ _ _ => local_ret _
  | getNetWorth owner =>
    obtain rfl := Option.some.inj acts
    exact answered getNetWorth_local
  | getWalletSparkline input =>
    obtain rfl := Option.some.inj acts
    exact answered (getWalletSparkline_local sound)
  | listTransactions input =>
    obtain rfl := Option.some.inj acts
    exact answered (listTransactions_local sound)

end PocketMint
