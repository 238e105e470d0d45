/-!
# Tables

A table keeps one value for each of finitely many keys.

* `Table.get?`: the value of a key, the view by which tables are told apart.
* `Table.set`, `Table.erase`: give a key a value, take it away; `get?_set_self`, `get?_set_of_ne`,
  `get?_erase_self` and `get?_erase_of_ne` say what that does to the view.
-/

namespace ConversationMemory

/-- Keys with their values. -/
abbrev Table (κ α : Type) := List (κ × α)

namespace Table

variable {κ α : Type} [DecidableEq κ]

/-- The value of a key. -/
def get? : Table κ α → κ → Option α
  | [], _ => none
  | (other, value) :: rest, key => if other = key then some value else get? rest key

/-- The table without a key. -/
def erase : Table κ α → κ → Table κ α
  | [], _ => []
  | (other, value) :: rest, key =>
    if other = key then erase rest key else (other, value) :: erase rest key

/-- The table with a value for a key, in place of the one it had. -/
def set (table : Table κ α) (key : κ) (value : α) : Table κ α := (key, value) :: table.erase key

@[simp] theorem get?_erase_self (table : Table κ α) (key : κ) :
    (table.erase key).get? key = none := by
  induction table with
  | nil => rfl
  | cons entry rest ih =>
    simp only [erase]
    split
    · exact ih
    · simp [get?, *]

theorem get?_erase_of_ne {table : Table κ α} {key other : κ} (h : other ≠ key) :
    (table.erase key).get? other = table.get? other := by
  induction table with
  | nil => rfl
  | cons entry rest ih =>
    simp only [erase]
    split
    · rename_i heq
      have : entry.1 ≠ other := by rw [heq]; exact h.symm
      simp [get?, this, ih]
    · simp [get?, ih]

@[simp] theorem get?_set_self (table : Table κ α) (key : κ) (value : α) :
    (table.set key value).get? key = some value := by
  simp [set, get?]

theorem get?_set_of_ne {table : Table κ α} {key other : κ} (value : α) (h : other ≠ key) :
    (table.set key value).get? other = table.get? other := by
  simp [set, get?, h.symm, get?_erase_of_ne h]

theorem mem_of_get? {table : Table κ α} {key : κ} {value : α} (h : table.get? key = some value) :
    (key, value) ∈ table := by
  induction table with
  | nil => cases h
  | cons entry rest ih =>
    obtain ⟨other, kept⟩ := entry
    simp only [get?] at h
    split at h
    · rename_i heq
      cases h
      exact heq ▸ List.mem_cons_self
    · exact List.mem_cons_of_mem _ (ih h)

end Table

end ConversationMemory
