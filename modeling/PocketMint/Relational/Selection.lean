import Mathlib.Data.List.Find
import PocketMint.Relational.Table

/-! What a test selects from a table, before and after an operation on it. -/

namespace PocketMint

open Keyed (key)

/-- An optional value that passes a test is kept by it. -/
theorem filter_kept {α : Type} {value : Option α} {test : α → Bool}
    (passes : ∀ a ∈ value, test a) : value.filter test = value := by
  cases value with
  | none => rfl
  | some a => simpa [Option.filter] using passes a rfl

namespace Table

variable {α : Type} [Keyed α] {table after : Table α} {test : α → Bool}

/-! Operations on rows that the test leaves out. -/

/-- A row that fails the test can be inserted. -/
theorem filter_insert_other {row : α} (inserted : table.insert? row = some after)
    (fails : test row = false) : after.filter test = table.filter test := by
  -- The new row stands at the end, where the test drops it.
  apply Table.ext
  simp [(insert?_eq_some_iff.mp inserted).2, fails]

/-- A rewriting leaves the selected rows as they are, and selects no further ones. -/
theorem filter_rewritten_other {rewrite : α → α} (rewritten : after.rows = table.rows.map rewrite)
    (blind : ∀ row, test (rewrite row) = test row)
    (still : ∀ row ∈ table.rows, test row → rewrite row = row) : after.filter test = table.filter test := by
  apply Table.ext
  have same : test ∘ rewrite = test := funext blind
  simp only [rows_filter, rewritten, List.filter_map, same]
  -- Every selected row is rewritten to itself.
  refine (List.map_congr_left fun row member => ?_).trans (List.map_id _)
  have selected := List.mem_filter.mp member
  exact still row selected.1 selected.2

/-- A row that fails the test can be updated. -/
theorem filter_updated_other {at_ : Nat} {rewrite : α → α}
    (updated : after.rows = table.rows.map fun row => if key row = at_ then rewrite row else row)
    (blind : ∀ row, test (rewrite row) = test row)
    (fails : ∀ row, table.find? at_ = some row → test row = false) :
    after.filter test = table.filter test := by
  -- A row that the update touches is not selected, before or after.
  apply filter_rewritten_other updated
  · intro row
    split
    · exact blind row
    · rfl
  · intro row member passes
    split
    · -- The row that is rewritten is the one that is found, which is not selected.
      rename_i named
      have found := find?_of_mem member
      rw [named] at found
      rw [fails row found] at passes
      cases passes
    · rfl

/-- A deletion that keeps the selected rows changes no selection. -/
theorem filter_filter_other {other : α → Bool} (kept : ∀ row ∈ table.rows, test row → other row) :
    (table.filter other).filter test = table.filter test := by
  -- Selecting twice is selecting once, when the first test lets all wanted rows pass.
  apply Table.ext
  simp only [rows_filter, List.filter_filter]
  refine List.filter_congr fun row member => ?_
  cases selected : test row with
  | false => rfl
  | true => simp [kept row member selected]

/-- A row that fails the test can be erased. -/
theorem filter_erase_other {at_ : Nat} (fails : ∀ row, table.find? at_ = some row → test row = false) :
    (table.erase at_).filter test = table.filter test := by
  apply filter_filter_other
  -- The row that is erased was not among the selected ones.
  intro row member passes
  simp only [ne_eq, decide_not, Bool.not_eq_true', decide_eq_false_iff_not]
  intro named
  have found := find?_of_mem member
  rw [named] at found
  rw [fails row found] at passes
  cases passes

/-! Operations on rows that the test selects. -/

/-- What is found under an identifier is found in the selection, when it passes the test. -/
theorem find?_selected {at_ : Nat} (passes : ∀ row ∈ table.find? at_, test row) :
    (table.filter test).find? at_ = table.find? at_ := by
  rw [find?_filter]
  exact filter_kept passes

/-- A row that passes the test is inserted in the selection, where its identifier is free. -/
theorem insert?_selected {row : α} (passes : test row) (free : table.find? (key row) = none) :
    (table.filter test).insert? row = (table.insert? row).map fun after => after.filter test := by
  -- A number that is free in the table is free among the selected rows.
  obtain ⟨after, inserted⟩ := exists_insert free
  have free' : (table.filter test).find? (key row) = none := by simp [free]
  obtain ⟨after', inserted'⟩ := exists_insert free'
  rw [inserted, inserted', Option.map_some]
  congr 1
  apply Table.ext
  simp [(insert?_eq_some_iff.mp inserted).2, (insert?_eq_some_iff.mp inserted').2, passes]

/-- A rewriting that the test does not see rewrites the selection. -/
theorem filter_rewritten {rewrite rewrite' : α → α} {after' : Table α}
    (rewritten : after.rows = table.rows.map rewrite)
    (rewritten' : after'.rows = (table.filter test).rows.map rewrite')
    (blind : ∀ row, test (rewrite row) = test row)
    (same : ∀ row ∈ table.rows, test row → rewrite row = rewrite' row) : after.filter test = after' := by
  -- What the test selects is not affected by the rewriting, so the two may be exchanged.
  apply Table.ext
  have unseen : test ∘ rewrite = test := funext blind
  rw [rows_filter, rewritten, rewritten', List.filter_map, unseen, rows_filter]
  refine List.map_congr_left fun row member => ?_
  have selected := List.mem_filter.mp member
  exact same row selected.1 selected.2

/-- A row is updated in the selection as in the table. -/
theorem filter_updated {at_ : Nat} {rewrite : α → α} {after' : Table α}
    (updated : after.rows = table.rows.map fun row => if key row = at_ then rewrite row else row)
    (updated' : after'.rows = (table.filter test).rows.map fun row =>
      if key row = at_ then rewrite row else row)
    (blind : ∀ row, test (rewrite row) = test row) : after.filter test = after' := by
  -- The same update is made on both sides.
  refine filter_rewritten updated updated' (fun row => ?_) fun _ _ _ => rfl
  split
  · exact blind row
  · rfl

/-- Two deletions that agree on the selected rows leave the same selection. -/
theorem filter_filter {other other' : α → Bool}
    (same : ∀ row ∈ table.rows, test row → other row = other' row) :
    (table.filter other).filter test = (table.filter test).filter other' := by
  -- The tests commute on the rows that are selected.
  apply Table.ext
  simp only [rows_filter, List.filter_filter]
  refine List.filter_congr fun row member => ?_
  cases selected : test row with
  | false => simp
  | true => simp [same row member selected]

end Table

/-- What rows of distinct keys yield tells what each of them does, when what is yielded tells the key. -/
theorem filterMap_eq_iff {α β κ : Type} {rows : List α} {named : α → κ} {tag : β → κ}
    (distinct : (rows.map named).Nodup) {yields yields' : α → Option β}
    (tagged : ∀ row, ∀ b ∈ yields row, tag b = named row)
    (tagged' : ∀ row, ∀ b ∈ yields' row, tag b = named row) :
    rows.filterMap yields = rows.filterMap yields' ↔ ∀ row ∈ rows, yields row = yields' row := by
  -- What one row yields is yielded by a row of the same key on the other side, which is the row itself.
  have found : ∀ {f g : α → Option β}, (∀ row, ∀ b ∈ f row, tag b = named row) →
      (∀ row, ∀ b ∈ g row, tag b = named row) → rows.filterMap f = rows.filterMap g →
      ∀ row ∈ rows, ∀ b ∈ f row, b ∈ g row := by
    intro f g first second same row among b yielded
    have listed : b ∈ rows.filterMap g := same ▸ List.mem_filterMap.mpr ⟨row, among, yielded⟩
    obtain ⟨other, among', yielded'⟩ := List.mem_filterMap.mp listed
    have key : named other = named row := (second other b yielded').symm.trans (first row b yielded)
    exact List.inj_on_of_nodup_map distinct among' among key ▸ yielded'
  constructor
  · intro same row among
    apply Option.ext
    intro b
    exact ⟨found tagged tagged' same row among b, found tagged' tagged same.symm row among b⟩
  · intro each
    exact List.filterMap_congr each

/-- A search whose finds pass a test can be made among the rows that pass it. -/
theorem find?_among {α : Type} {rows : List α} {wanted test : α → Bool}
    (passes : ∀ row ∈ rows, wanted row → test row) : (rows.filter test).find? wanted = rows.find? wanted := by
  -- The row that is wanted first is not left out by the test.
  rw [List.find?_filter]
  refine List.find?_congr fun row member => ?_
  cases sought : wanted row with
  | false => simp
  | true => simp [passes row member sought]

end PocketMint
