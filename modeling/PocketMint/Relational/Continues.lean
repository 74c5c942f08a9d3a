import PocketMint.Relational.Table

/-! Tables over time: rows of identifiers already used are never made again, and keep what is frozen. -/

namespace PocketMint

open Keyed (key)

namespace Table

variable {α β : Type} [Keyed α]

/-- Every later row of an identifier below the limit was there, with the same frozen part. -/
def Continues (limit : Nat) (frozen : α → α → Prop) (table later : Table α) : Prop :=
  ∀ row' ∈ later.rows, key row' < limit → ∃ row ∈ table.rows, key row = key row' ∧ frozen row row'

namespace Continues

variable {limit : Nat} {frozen : α → α → Prop} {table later last : Table α}

theorem refl (same : ∀ row, frozen row row) (table : Table α) : table.Continues limit frozen table :=
  fun row' member _ => ⟨row', member, rfl, same row'⟩

/-- Continuation composes, since limits only grow. -/
theorem trans (compose : ∀ {a b c}, frozen a b → frozen b c → frozen a c) {limit' : Nat}
    (grows : limit ≤ limit') (first : table.Continues limit frozen later)
    (second : later.Continues limit' frozen last) : table.Continues limit frozen last := by
  -- A late row goes back to one in between, and that one to an early row.
  intro row'' member below
  obtain ⟨row', member', same', kept'⟩ := second row'' member (below.trans_le grows)
  obtain ⟨row, member, same, kept⟩ := first row' member' (same' ▸ below)
  exact ⟨row, member, same.trans same', compose kept kept'⟩

/-- A row of a fresh identifier continues nothing. -/
theorem insert (same : ∀ row, frozen row row) {row : α} (fresh : limit ≤ key row)
    (inserted : table.insert? row = some later) : table.Continues limit frozen later := by
  -- Only the inserted row is new, and its number is not below the limit.
  intro row' member below
  rw [(insert?_eq_some_iff.mp inserted).2, List.mem_append, List.mem_singleton] at member
  obtain member | rfl := member
  · exact ⟨row', member, rfl, same row'⟩
  · exact absurd below (Nat.not_lt.mpr fresh)

/-- Rewriting that keeps the frozen part continues a table. -/
theorem mapRows {rewrite : α → α} (kept : ∀ row, frozen row (rewrite row))
    (keeps : ∀ row, key (rewrite row) = key row := by intro _; exact Eq.symm rfl) :
    table.Continues limit frozen (table.mapRows rewrite keeps) := by
  -- A row that is rewritten stands for the row it was made from.
  intro row' member _
  obtain ⟨row, among, rfl⟩ := List.mem_map.mp member
  exact ⟨row, among, (keeps row).symm, kept row⟩

/-- Updating one row with a rewriting that keeps its frozen part continues a table. -/
theorem update (same : ∀ row, frozen row row) {at_ : Nat} {rewrite : α → α}
    (kept : ∀ row, table.find? at_ = some row → frozen row (rewrite row))
    (keeps : ∀ row, key (rewrite row) = key row := by intro _; exact Eq.symm rfl) :
    table.Continues limit frozen (table.update at_ rewrite keeps) := by
  -- The row of that number is rewritten, and the others are kept as they are.
  intro row' member _
  obtain ⟨row, among, rfl⟩ := List.mem_map.mp member
  refine ⟨row, among, ?_, ?_⟩
  · split
    · exact (keeps row).symm
    · rfl
  · split
    · rename_i named
      exact kept row (named ▸ find?_of_mem among)
    · exact same row

/-- Removing rows continues a table. -/
theorem filter (same : ∀ row, frozen row row) (test : α → Bool) :
    table.Continues limit frozen (table.filter test) :=
  fun row' member _ => ⟨row', (List.mem_filter.mp member).1, rfl, same row'⟩

/-- A row found under an identifier below the limit was found before. -/
theorem find? (continues : table.Continues limit frozen later) {at_ : Nat} (below : at_ < limit)
    {row' : α} (found : later.find? at_ = some row') :
    ∃ row, table.find? at_ = some row ∧ frozen row row' := by
  obtain ⟨member, rfl⟩ := find?_eq_some_iff.mp found
  obtain ⟨row, member, same, kept⟩ := continues row' member below
  exact ⟨row, same ▸ find?_of_mem member, kept⟩

end Continues

/-- Every row has an identifier below the limit. -/
def Below (limit : Nat) (table : Table α) : Prop :=
  ∀ row ∈ table.rows, key row < limit

namespace Below

variable {limit limit' : Nat} {table later : Table α}

theorem mono (below : table.Below limit) (grows : limit ≤ limit') : table.Below limit' :=
  fun row member => (below row member).trans_le grows

theorem insert (below : table.Below limit) {row : α} (named : key row < limit')
    (grows : limit ≤ limit') (inserted : table.insert? row = some later) : later.Below limit' := by
  -- The rows from before are below the old limit, which has only grown.
  intro other member
  rw [(insert?_eq_some_iff.mp inserted).2, List.mem_append, List.mem_singleton] at member
  obtain member | rfl := member
  · exact (below other member).trans_le grows
  · exact named

theorem mapRows (below : table.Below limit) {rewrite : α → α}
    (keeps : ∀ row, key (rewrite row) = key row := by intro _; exact Eq.symm rfl) :
    (table.mapRows rewrite keeps).Below limit := by
  intro row member
  obtain ⟨old, among, rfl⟩ := List.mem_map.mp member
  rw [keeps]
  exact below old among

theorem update (below : table.Below limit) {at_ : Nat} {rewrite : α → α}
    (keeps : ∀ row, key (rewrite row) = key row := by intro _; exact Eq.symm rfl) :
    (table.update at_ rewrite keeps).Below limit := below.mapRows _

theorem filter (below : table.Below limit) (test : α → Bool) : (table.filter test).Below limit :=
  fun row member => below row (List.mem_filter.mp member).1

/-- A row that is found has an identifier below the limit. -/
theorem find? (below : table.Below limit) {at_ : Nat} {row : α}
    (found : table.find? at_ = some row) : at_ < limit :=
  key_of_find? found ▸ below row (mem_of_find? found)

end Below

/-- A row that is found before and after keeps its frozen part. -/
theorem Continues.frozen {limit : Nat} {frozen : α → α → Prop} {table later : Table α}
    (continues : table.Continues limit frozen later) (below : table.Below limit) {at_ : Nat} {row row' : α}
    (found : table.find? at_ = some row) (found' : later.find? at_ = some row') : frozen row row' := by
  obtain ⟨before, there, kept⟩ := continues.find? (below.find? found) found'
  -- An identifier names one row of a table.
  obtain rfl : row = before := Option.some.inj (found.symm.trans there)
  exact kept

end Table

end PocketMint
