import Mathlib.Algebra.Order.BigOperators.Group.List
import Mathlib.Algebra.BigOperators.Group.List.Basic
import Mathlib.Data.List.Dedup

/-! Sums over the rows of a query, whole and in groups, as a database aggregates them. -/

namespace PocketMint

section Aggregates

variable {α κ M : Type} [AddCommMonoid M] (amount : α → M)

/-- The sum over the rows of a query, absent when there are none. -/
def aggregateSum (rows : List α) : Option M :=
  if rows.isEmpty then none else some (rows.map amount).sum

/-- The rows of a query grouped by a key: each key that occurs, with the sum over its rows. -/
def groupSums [DecidableEq κ] (key : α → κ) (rows : List α) : List (κ × Option M) :=
  (rows.map key).dedup.map fun group =>
    (group, aggregateSum amount (rows.filter fun row => key row = group))

/-- With nothing standing for zero, an aggregate is the sum. -/
@[simp] theorem aggregateSum_getD (rows : List α) :
    (aggregateSum amount rows).getD 0 = (rows.map amount).sum := by
  cases rows with
  | nil => rfl
  | cons row rows => rfl

/-- A map built from distinct keys answers each of them with its own value. -/
private theorem lookup_map_self {β : Type} [BEq κ] [LawfulBEq κ] (value : κ → β) (keys : List κ) (at_ : κ) :
    (keys.map fun key => (key, value key)).lookup at_ =
      if at_ ∈ keys then some (value at_) else none := by
  -- The first key that equals the given one carries its value.
  induction keys with
  | nil => rfl
  | cons key keys ih =>
    rw [List.map_cons, List.lookup_cons, ih]
    by_cases same : at_ = key
    · simp [same]
    · have differs : (at_ == key) = false := by simpa using same
      simp [differs, same]

/-- Looking a key up among the groups gives the sum over its rows; a missing group counts as zero. -/
theorem lookup_groupSums [BEq κ] [LawfulBEq κ] [DecidableEq κ] (key : α → κ) (rows : List α) (at_ : κ) :
    (((groupSums amount key rows).lookup at_).bind id).getD 0 =
      ((rows.filter fun row => key row = at_).map amount).sum := by
  -- Groups are formed of the keys that occur.
  rw [groupSums, lookup_map_self]
  by_cases occurs : at_ ∈ (rows.map key).dedup
  · rw [if_pos occurs]
    exact aggregateSum_getD amount _
  · -- No row has the key, so the sum it stands for is empty.
    have none_ : (rows.filter fun row => key row = at_) = [] := by
      apply List.filter_eq_nil_iff.mpr
      intro row among same
      apply occurs
      rw [List.mem_dedup, List.mem_map]
      exact ⟨row, among, of_decide_eq_true same⟩
    simp [occurs, none_]

/-- Rows picked by either of two tests that exclude each other are those of each test. -/
theorem filter_either_perm {first second : α → Bool} {rows : List α}
    (apart : ∀ row ∈ rows, first row = true → second row = false) :
    (rows.filter first ++ rows.filter second).Perm
      (rows.filter fun row => first row || second row) := by
  -- The rows of either test split into those of the first and the others.
  have split := List.filter_append_perm first (rows.filter fun row => first row || second row)
  rw [List.filter_filter, List.filter_filter] at split
  have ones : (rows.filter fun row => first row && (first row || second row)) = rows.filter first := by
    apply List.filter_congr
    intro row _
    cases first row <;> simp
  have others : (rows.filter fun row => !first row && (first row || second row)) =
      rows.filter second := by
    apply List.filter_congr
    intro row among
    cases one : first row with
    | true => simp [apart row among one]
    | false => simp
  rwa [ones, others] at split

theorem sum_filter_either {first second : α → Bool} {rows : List α}
    (apart : ∀ row ∈ rows, first row = true → second row = false) :
    ((rows.filter fun row => first row || second row).map amount).sum =
      ((rows.filter first).map amount).sum + ((rows.filter second).map amount).sum := by
  rw [← List.sum_append, ← List.map_append]
  exact ((filter_either_perm apart).map amount).sum_eq.symm

/-- Sums over the groups of distinct keys add up to the sum over the rows with any of the keys. -/
theorem sum_groups [BEq κ] [LawfulBEq κ] [DecidableEq κ] (key : α → κ) (rows : List α) {keys : List κ}
    (distinct : keys.Nodup) :
    (keys.map fun group => ((rows.filter fun row => key row = group).map amount).sum).sum =
      ((rows.filter fun row => key row ∈ keys).map amount).sum := by
  -- The induction is on the keys: the first one's rows are apart from those of the others.
  induction keys with
  | nil => simp
  | cons group keys ih =>
    obtain ⟨fresh, distinct⟩ := List.nodup_cons.mp distinct
    -- A row of the first group is in none of the others.
    have apart : ∀ row ∈ rows, decide (key row = group) = true → decide (key row ∈ keys) = false := by
      intro row _ same
      have same : key row = group := of_decide_eq_true same
      simpa [same] using fresh
    simp only [List.map_cons, List.sum_cons, ih distinct, List.mem_cons, Bool.decide_or]
    exact (sum_filter_either amount apart).symm

/-- Rows with the same keys, each key once, have the same sum when rows of one key weigh the same. -/
theorem sum_eq_of_keys [DecidableEq κ] {β : Type} {rows : List α} {others : List β}
    {name : α → κ} {key : β → κ}
    {weight : α → M} {value : β → M} (unique : (rows.map name).Nodup) (distinct : (others.map key).Nodup)
    (same : ∀ id, id ∈ rows.map name ↔ id ∈ others.map key)
    (agree : ∀ row ∈ rows, ∀ other ∈ others, name row = key other → weight row = value other) :
    (rows.map weight).sum = (others.map value).sum := by
  -- Both sums are over the keys, of what the row of each key in the second list weighs.
  let shared : κ → M := fun id => ((others.find? fun other => key other = id).map value).getD 0
  have found : ∀ id ∈ others.map key, ∃ other ∈ others, key other = id ∧ shared id = value other := by
    intro id listed
    cases first : others.find? fun other => key other = id with
    | none =>
      obtain ⟨other, among, named⟩ := List.mem_map.mp listed
      simpa [named] using List.find?_eq_none.mp first other among
    | some other =>
      refine ⟨other, List.mem_of_find?_eq_some first, by simpa using List.find?_some first, ?_⟩
      simp [shared, first]
  -- On either side the weights are those of the keys.
  have left : rows.map weight = (rows.map name).map shared := by
    rw [List.map_map]
    refine List.map_congr_left fun row member => ?_
    obtain ⟨other, among, named, weighs⟩ := found _ ((same _).mp (List.mem_map_of_mem member))
    exact (agree row member other among named.symm).trans weighs.symm
  have right : others.map value = (others.map key).map shared := by
    rw [List.map_map]
    refine List.map_congr_left fun row member => ?_
    obtain ⟨other, among, named, weighs⟩ := found _ (List.mem_map_of_mem member)
    obtain rfl := List.inj_on_of_nodup_map distinct among member named
    exact weighs.symm
  -- Since no key is listed twice on either side, the lists of keys are permutations of each other.
  rw [left, right]
  exact (((List.perm_ext_iff_of_nodup unique distinct).mpr same).map shared).sum_eq

end Aggregates

/-- Some of the rows add up to no more than all of them, when no amount is negative. -/
theorem sum_filter_le {α M : Type} [AddCommMonoid M] [PartialOrder M] [IsOrderedAddMonoid M]
    (amount : α → M) (test : α → Bool) {rows : List α} (nonneg : ∀ row ∈ rows, 0 ≤ amount row) :
    ((rows.filter test).map amount).sum ≤ (rows.map amount).sum := by
  -- Leaving rows out leaves out weights that are not negative.
  apply (List.filter_sublist.map amount).sum_le_sum
  intro value among
  obtain ⟨row, member, rfl⟩ := List.mem_map.mp among
  exact nonneg row member

end PocketMint
