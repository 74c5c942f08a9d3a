import Mathlib.Algebra.BigOperators.Group.List.Basic
import Mathlib.Data.List.Nodup
import Mathlib.Tactic.Abel

/-! Finite tables whose rows carry a primary key, in insertion order. -/

namespace PocketMint

/-- Rows that carry their own primary key. -/
class Keyed (α : Type) where
  key : α → Nat

open Keyed (key)

/-- A list of rows in which no primary key occurs twice. -/
@[ext] structure Table (α : Type) [Keyed α] where
  rows : List α
  unique : (rows.map key).Nodup

namespace Table

variable {α : Type} [Keyed α]

/-- The table without rows. -/
def empty : Table α := ⟨[], List.nodup_nil⟩

/-- The row with a given primary key. -/
def find? (table : Table α) (at_ : Nat) : Option α :=
  table.rows.find? fun row => key row = at_

/-- A table with one more row at its end, unless the row's key is taken. -/
def insert? (table : Table α) (row : α) : Option (Table α) :=
  if free : key row ∉ table.rows.map key then
    some ⟨table.rows ++ [row], by
      rw [List.map_append]
      exact List.nodup_append.mpr ⟨table.unique, List.nodup_singleton _,
        fun a among b here => by
          rintro rfl
          rw [List.map_singleton, List.mem_singleton] at here
          exact free (here ▸ among)⟩⟩
  else none

/-- Rewrite every row, keeping its key. -/
def mapRows (table : Table α) (rewrite : α → α)
    (keeps : ∀ row, key (rewrite row) = key row := by intro _; exact Eq.symm rfl) : Table α :=
  ⟨table.rows.map rewrite, by
    have same : key ∘ rewrite = key := funext keeps
    rw [List.map_map, same]
    exact table.unique⟩

/-- Rewrite the row with a given key, if there is one. -/
def update (table : Table α) (at_ : Nat) (rewrite : α → α)
    (keeps : ∀ row, key (rewrite row) = key row := by intro _; exact Eq.symm rfl) : Table α :=
  table.mapRows (fun row => if key row = at_ then rewrite row else row) (by
    intro row
    split
    · exact keeps row
    · rfl)

/-- Keep the rows that pass a test. -/
def filter (table : Table α) (test : α → Bool) : Table α :=
  ⟨table.rows.filter test, table.unique.sublist (List.filter_sublist.map key)⟩

/-- Remove the row with a given key, if there is one. -/
def erase (table : Table α) (at_ : Nat) : Table α :=
  table.filter fun row => key row ≠ at_

/-! Lookups determine membership, and each operation has one equation for its lookups. -/

/-- A lookup answers exactly with the row that carries the key. -/
theorem find?_eq_some_iff {table : Table α} {at_ : Nat} {row : α} :
    table.find? at_ = some row ↔ row ∈ table.rows ∧ key row = at_ := by
  constructor
  · intro found
    exact ⟨List.mem_of_find?_eq_some found, by simpa using List.find?_some found⟩
  · rintro ⟨member, rfl⟩
    -- Uniqueness leaves no earlier row with the same key to answer instead.
    cases located : table.find? (key row) with
    | none =>
      have absent := List.find?_eq_none.mp located row member
      simp at absent
    | some other =>
      have same : key other = key row := by simpa using List.find?_some located
      have present := List.mem_of_find?_eq_some located
      rw [List.inj_on_of_nodup_map table.unique present member same]

theorem mem_of_find? {table : Table α} {at_ : Nat} {row : α}
    (found : table.find? at_ = some row) : row ∈ table.rows :=
  (find?_eq_some_iff.mp found).1

theorem key_of_find? {table : Table α} {at_ : Nat} {row : α}
    (found : table.find? at_ = some row) : key row = at_ :=
  (find?_eq_some_iff.mp found).2

theorem find?_of_mem {table : Table α} {row : α} (member : row ∈ table.rows) :
    table.find? (key row) = some row :=
  find?_eq_some_iff.mpr ⟨member, rfl⟩

theorem find?_eq_none_iff {table : Table α} {at_ : Nat} :
    table.find? at_ = none ↔ ∀ row ∈ table.rows, key row ≠ at_ := by
  simp [find?]

@[simp] theorem find?_empty (at_ : Nat) : (empty : Table α).find? at_ = none := rfl

@[simp] theorem rows_empty : (empty : Table α).rows = [] := rfl

/-- An insertion succeeds exactly when the key is free, and appends the row. -/
theorem insert?_eq_some_iff {table after : Table α} {row : α} :
    table.insert? row = some after ↔
      table.find? (key row) = none ∧ after.rows = table.rows ++ [row] := by
  -- An identifier is free exactly if nothing is found under it.
  have free : key row ∉ table.rows.map key ↔ table.find? (key row) = none := by
    rw [find?_eq_none_iff]
    simp
  unfold insert?
  split
  -- A row whose number is free is put at the end of the table.
  · rename_i fresh
    simp only [Option.some.injEq, free.mp fresh, true_and, Table.ext_iff]
    exact eq_comm
  · rename_i taken
    simp [free.not.mp taken]

theorem find?_insert {table after : Table α} {row : α} (inserted : table.insert? row = some after)
    (at_ : Nat) : after.find? at_ = if key row = at_ then some row else table.find? at_ := by
  -- What was there is found as before, and under the new number only the new row.
  obtain ⟨free, rows⟩ := insert?_eq_some_iff.mp inserted
  simp only [find?, rows, List.find?_append, List.find?_singleton]
  by_cases same : key row = at_
  · subst same
    simp only [find?] at free
    simp [free]
  · simp [same]

/-- A row whose key is free can be inserted. -/
theorem exists_insert {table : Table α} {row : α} (free : table.find? (key row) = none) :
    ∃ after, table.insert? row = some after := by
  have fresh : key row ∉ table.rows.map key := by
    simpa using find?_eq_none_iff.mp free
  exact ⟨_, dif_pos fresh⟩

/-- The inserted row is found under its key. -/
theorem find?_inserted {table after : Table α} {row : α} (inserted : table.insert? row = some after) :
    after.find? (key row) = some row := by
  rw [find?_insert inserted, if_pos rfl]

@[simp] theorem rows_mapRows (table : Table α) (rewrite : α → α)
    (keeps : ∀ row, key (rewrite row) = key row) :
    (table.mapRows rewrite keeps).rows = table.rows.map rewrite := rfl

@[simp] theorem find?_mapRows (table : Table α) (rewrite : α → α)
    (keeps : ∀ row, key (rewrite row) = key row) (at_ : Nat) :
    (table.mapRows rewrite keeps).find? at_ = (table.find? at_).map rewrite := by
  -- Rewriting keeps keys, so the same position answers.
  simp only [find?, rows_mapRows, List.find?_map, Function.comp_def, keeps]

@[simp] theorem find?_update (table : Table α) (at_ : Nat) (rewrite : α → α)
    (keeps : ∀ row, key (rewrite row) = key row) (other : Nat) :
    (table.update at_ rewrite keeps).find? other =
      if other = at_ then (table.find? other).map rewrite else table.find? other := by
  rw [update, find?_mapRows]
  -- A row that is found under a number keeps the number when it is rewritten.
  cases found : table.find? other with
  | none => simp
  | some row =>
    have named := key_of_find? found
    simp only [Option.map_some, named]
    split <;> rfl

/-- After an insertion the rows are the old ones and the new one. -/
theorem mem_insert {table after : Table α} {row other : α} (inserted : table.insert? row = some after) :
    other ∈ after.rows ↔ other ∈ table.rows ∨ other = row := by
  simp [(insert?_eq_some_iff.mp inserted).2]

/-- After an update every row is an old one, or the rewriting of the one that was found. -/
theorem mem_update {table : Table α} {at_ : Nat} {rewrite : α → α} {other : α}
    (keeps : ∀ row, key (rewrite row) = key row)
    (member : other ∈ (table.update at_ rewrite keeps).rows) :
    other ∈ table.rows ∨ ∃ row, table.find? at_ = some row ∧ other = rewrite row := by
  -- A row of the updated table comes from one row, which was rewritten or not.
  obtain ⟨row, among, rfl⟩ := List.mem_map.mp member
  split
  · rename_i named
    exact .inr ⟨row, named ▸ find?_of_mem among, rfl⟩
  · exact .inl among

/-- An update that keeps a view of every row keeps the list of the views. -/
theorem map_rows_update {β : Type} {table : Table α} {at_ : Nat} {rewrite : α → α} {view : α → β}
    (keeps : ∀ row, key (rewrite row) = key row) (kept : ∀ row, view (rewrite row) = view row) :
    (table.update at_ rewrite keeps).rows.map view = table.rows.map view := by
  rw [update, rows_mapRows, List.map_map]
  -- Seen through the view, a rewritten row is the row it was.
  refine List.map_congr_left fun row _ => ?_
  simp only [Function.comp_apply]
  split
  · exact kept row
  · rfl

/-- Rewriting a row that was just inserted is inserting the rewritten row. -/
theorem update_insert {table after : Table α} {row : α} (inserted : table.insert? row = some after)
    (rewrite : α → α) (keeps : ∀ row, key (rewrite row) = key row) :
    table.insert? (rewrite row) = some (after.update (key row) rewrite keeps) := by
  -- No earlier row carries the new key, so only the last one is rewritten.
  obtain ⟨free, rows⟩ := insert?_eq_some_iff.mp inserted
  refine insert?_eq_some_iff.mpr ⟨by rw [keeps]; exact free, ?_⟩
  have still : (table.rows.map fun other => if key other = key row then rewrite other else other) =
      table.rows := by
    refine (List.map_congr_left fun other among => ?_).trans (List.map_id _)
    rw [if_neg (find?_eq_none_iff.mp free other among), id]
  simp only [update, rows_mapRows, rows, List.map_append, still, List.map_cons, List.map_nil, if_true]

@[simp] theorem rows_filter (table : Table α) (test : α → Bool) :
    (table.filter test).rows = table.rows.filter test := rfl

@[simp] theorem find?_filter (table : Table α) (test : α → Bool) (at_ : Nat) :
    (table.filter test).find? at_ = (table.find? at_).filter test := by
  -- Both sides say of a row that it is listed, has the number and passes the test.
  apply Option.ext
  intro row
  simp only [Option.filter_eq_some_iff, find?_eq_some_iff, rows_filter, List.mem_filter]
  tauto

@[simp] theorem find?_erase (table : Table α) (at_ other : Nat) :
    (table.erase at_).find? other = if other = at_ then none else table.find? other := by
  -- What the erased table lacks is the row of that number alone.
  rw [erase, find?_filter]
  cases found : table.find? other with
  | none => simp
  | some row =>
    have named := key_of_find? found
    by_cases same : other = at_ <;> simp [Option.filter, named, same]

/-! Sums over the rows of a table, as each operation changes them. -/

section Sums

variable {M : Type} [AddCommGroup M] (weight : α → M)

/-- The total weight of a table's rows. -/
def total (table : Table α) : M := (table.rows.map weight).sum

@[simp] theorem total_empty : (empty : Table α).total weight = 0 := rfl

theorem total_insert {table after : Table α} {row : α} (inserted : table.insert? row = some after) :
    after.total weight = table.total weight + weight row := by
  simp [total, (insert?_eq_some_iff.mp inserted).2]

theorem total_mapRows (table : Table α) (rewrite : α → α)
    (keeps : ∀ row, key (rewrite row) = key row) :
    (table.mapRows rewrite keeps).total weight = table.total fun row => weight (rewrite row) := by
  simp [total, Function.comp_def]

/-- Weights that agree on every row give the same total. -/
theorem total_congr {table : Table α} {weight other : α → M}
    (agree : ∀ row ∈ table.rows, weight row = other row) :
    table.total weight = table.total other := by
  rw [total, total, List.map_congr_left agree]

/-- Rows of no weight can be filtered away. -/
theorem total_filter {table : Table α} {test : α → Bool}
    (weightless : ∀ row ∈ table.rows, test row = false → weight row = 0) :
    (table.filter test).total weight = table.total weight := by
  unfold total
  rw [rows_filter]
  generalize table.rows = rows at weightless
  -- A row that is removed weighs nothing.
  induction rows with
  | nil => rfl
  | cons row rows ih =>
    have tail := ih fun other member => weightless other (List.mem_cons_of_mem _ member)
    cases passes : test row with
    | true => simp [passes, tail]
    | false => simp [passes, tail, weightless row List.mem_cons_self passes]

/-- A list with distinct keys splits around any of its rows. -/
private theorem split_at {rows : List α} (unique : (rows.map key).Nodup) {row : α}
    (member : row ∈ rows) :
    ∃ before after, rows = before ++ row :: after ∧
      (∀ other ∈ before, key other ≠ key row) ∧ ∀ other ∈ after, key other ≠ key row := by
  -- The list splits at the row, and no number occurs on both sides of it.
  obtain ⟨before, after, rfl⟩ := List.append_of_mem member
  rw [List.map_append, List.map_cons, List.nodup_append, List.nodup_cons] at unique
  obtain ⟨_, ⟨later, _⟩, apart⟩ := unique
  refine ⟨before, after, rfl, fun other among same => ?_, fun other among same => ?_⟩
  · exact apart _ (List.mem_map_of_mem among) _ List.mem_cons_self same
  · exact later (same ▸ List.mem_map_of_mem among)

/-- Rewriting one row replaces its weight. -/
theorem total_update {table : Table α} {at_ : Nat} {row : α} (found : table.find? at_ = some row)
    (rewrite : α → α) (keeps : ∀ row, key (rewrite row) = key row) :
    (table.update at_ rewrite keeps).total weight =
      table.total weight - weight row + weight (rewrite row) := by
  obtain ⟨member, rfl⟩ := find?_eq_some_iff.mp found
  obtain ⟨before, after, shape, earlier, later⟩ := split_at table.unique member
  -- Identifiers are unique, so the rows before and after the one are as they were.
  have still : ∀ rows : List α, (∀ other ∈ rows, key other ≠ key row) →
      rows.map (fun other => weight (if key other = key row then rewrite other else other)) =
        rows.map weight :=
    fun rows apart => List.map_congr_left fun other among => by rw [if_neg (apart other among)]
  rw [update, total_mapRows]
  simp only [total, shape, List.map_append, List.map_cons, List.sum_append, List.sum_cons,
    still before earlier, still after later, if_true]
  abel

/-- Removing one row removes its weight. -/
theorem total_erase {table : Table α} {at_ : Nat} {row : α} (found : table.find? at_ = some row) :
    (table.erase at_).total weight = table.total weight - weight row := by
  obtain ⟨member, rfl⟩ := find?_eq_some_iff.mp found
  obtain ⟨before, after, shape, earlier, later⟩ := split_at table.unique member
  -- Identifiers are unique, so only the one row goes.
  have still : ∀ rows : List α, (∀ other ∈ rows, key other ≠ key row) →
      (rows.filter fun other => decide (key other ≠ key row)) = rows :=
    fun rows apart => List.filter_eq_self.mpr fun other among => by simpa using apart other among
  simp only [erase, total, rows_filter, shape, List.filter_append, still before earlier]
  rw [List.filter_cons_of_neg (by simp), still after later]
  simp only [List.map_append, List.map_cons, List.sum_append, List.sum_cons]
  abel

/-- A weight that only one key has counts once. -/
theorem total_single {table : Table α} {at_ : Nat} {row : α} (found : table.find? at_ = some row) :
    (table.total fun other => if key other = at_ then weight other else 0) = weight row := by
  have rest := total_erase (fun other => if key other = at_ then weight other else 0) found
  -- Without the row of the identifier nothing is left to weigh.
  have nothing : ((table.erase at_).total fun other => if key other = at_ then weight other else 0) =
      (table.erase at_).total fun _ => 0 := by
    refine total_congr fun other member => if_neg ?_
    exact of_decide_eq_true (List.mem_filter.mp member).2
  have empty : ((table.erase at_).total fun _ => (0 : M)) = 0 := by simp [total]
  rw [nothing, empty, if_pos (key_of_find? found)] at rest
  exact sub_eq_zero.mp rest.symm

theorem total_add (table : Table α) (other : α → M) :
    (table.total fun row => weight row + other row) = table.total weight + table.total other :=
  List.sum_map_add

/-- The rows that pass a test weigh what the whole table does when the others weigh nothing. -/
theorem total_passing (table : Table α) (test : α → Bool) :
    (table.filter test).total weight = table.total fun row => if test row then weight row else 0 := by
  -- A row that fails the test counts for nothing.
  have weightless : ∀ row ∈ table.rows, test row = false → (if test row then weight row else 0) = 0 :=
    fun row _ fails => if_neg (by simp [fails])
  rw [← total_filter _ weightless]
  refine total_congr fun row member => (if_pos ?_).symm
  exact (List.mem_filter.mp member).2

end Sums

end Table

end PocketMint
