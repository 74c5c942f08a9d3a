import Mathlib.Data.List.Sort
import PocketMint.Store.Client

/-! The category service: every user gets the default categories. -/

namespace PocketMint

namespace CategoryService

/-- The default categories, expenses first. -/
def defaultCategories : List (CategoryType × String) :=
  (["Makanan", "Transportasi", "Belanja", "Tagihan", "Kesehatan", "Hiburan", "Lainnya"].map
    fun name => (.expense, name)) ++
  (["Gaji", "Bonus", "Investasi", "Hadiah", "Lainnya"].map fun name => (.income, name))

/-- Create a category unless the user has it. -/
def upsert (userId : Id) (type : CategoryType) (name : String) : Service Category :=
  commit id fun s =>
    match s.categories.rows.find? fun row =>
        row.userId = userId && row.name = name && row.type = type with
    | some category => .ok (category, s)
    | none => Tx.createCategory (fun id => { id, userId, name, type }) s

end CategoryService

/-- One upsert for each default category. -/
def upsertCategories (userId : Id) : List (CategoryType × String) → Service Unit
  | [] => return ()
  | (type, name) :: rest => do
    let _ ← CategoryService.upsert userId type name
    upsertCategories userId rest

def ensureDefaultCategories (userId : Id) : Service Unit :=
  upsertCategories userId CategoryService.defaultCategories

/-- `orderBy: [{ type: 'asc' }, { name: 'asc' }]`, where the type INCOME is declared before EXPENSE. -/
def Category.ListedBefore (row other : Category) : Prop :=
  row.type = .income ∧ other.type = .expense ∨ row.type = other.type ∧ row.name ≤ other.name

instance : DecidableRel Category.ListedBefore := fun row other =>
  inferInstanceAs
    (Decidable (row.type = .income ∧ other.type = .expense ∨ row.type = other.type ∧ row.name ≤ other.name))

def listCategories (userId : Id) : Service (List Category) := do
  ensureDefaultCategories userId
  Prog.query fun s =>
    (s.categories.rows.filter fun row => row.userId = userId).insertionSort Category.ListedBefore

end PocketMint
