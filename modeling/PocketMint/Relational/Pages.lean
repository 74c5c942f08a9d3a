import Mathlib.Data.List.Basic
import Mathlib.Data.List.Range

/-! Pages of a list: as many elements each as fit, one page after the other. -/

namespace PocketMint

section Pages

variable {α : Type} (size : Nat) (list : List α)

/-- The page of a list at an index counted from zero, as a query with `skip` and `take` reads it. -/
def pageAt (index : Nat) : List α := (list.drop (index * size)).take size

/-- The first pages hold the first elements, each once and in their order. -/
theorem flatMap_pageAt (count : Nat) :
    (List.range count).flatMap (pageAt size list) = list.take (count * size) := by
  -- Each page goes on where the pages before it have ended.
  induction count with
  | zero => simp
  | succ count ih =>
    rw [List.range_succ, List.flatMap_append, ih, List.flatMap_singleton, pageAt, Nat.succ_mul,
      List.take_add]

theorem length_pageAt (index : Nat) :
    (pageAt size list index).length = min size (list.length - index * size) := by
  simp [pageAt]

/-- A page is full when it ends within the list. -/
theorem length_pageAt_eq {index : Nat} (within : (index + 1) * size ≤ list.length) :
    (pageAt size list index).length = size := by
  rw [length_pageAt]
  rw [Nat.succ_mul] at within
  omega

/-- A page beyond the end is empty. -/
theorem pageAt_eq_nil {index : Nat} (beyond : list.length ≤ index * size) : pageAt size list index = [] := by
  rw [pageAt, List.drop_eq_nil_of_le beyond, List.take_nil]

/-- A page has an element when it begins within the list. -/
theorem exists_mem_pageAt_iff (positive : 0 < size) (index : Nat) :
    (∃ element, element ∈ pageAt size list index) ↔ index * size < list.length := by
  rw [← List.length_pos_iff_exists_mem, length_pageAt]
  omega

end Pages

end PocketMint
