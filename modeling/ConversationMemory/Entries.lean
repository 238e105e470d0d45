/-!
# Entries under names

* `Entries`: values under names, in the order in which they are written.
* `Entries.insert`: puts an entry into a list sorted by name, in place of one with the same name.
* `Entries.get?`, `Entries.erase`, `Entries.has`: look a name up, drop it, ask for it.
* `Entries.get?_insert_self`, `Entries.get?_insert_of_ne`: an insertion changes what its own name
  gives, and nothing else.
-/

namespace ConversationMemory

/-- Values under names. -/
abbrev Entries (α : Type) := List (String × α)

namespace Entries

variable {α : Type}

/-- The value of the first entry with this name. -/
def get? (entries : Entries α) (name : String) : Option α := entries.lookup name

/-- Whether some entry has this name. -/
def has (entries : Entries α) (name : String) : Bool := entries.any fun entry => entry.1 == name

/-- The entries with another name. -/
def erase (entries : Entries α) (name : String) : Entries α :=
  entries.filter fun entry => entry.1 != name

/-- Puts an entry into a list sorted by name; an entry with the same name gives way. -/
def insert (entries : Entries α) (name : String) (value : α) : Entries α :=
  match entries with
  | [] => [(name, value)]
  | (other, kept) :: rest =>
    if name = other then (name, value) :: rest
    else if name < other then (name, value) :: (other, kept) :: rest
    else (other, kept) :: insert rest name value

/-- The entries sorted by name, the last one of each name. -/
def ofList (entries : List (String × α)) : Entries α :=
  entries.foldl (fun sorted entry => insert sorted entry.1 entry.2) []

/-- Names rise strictly: sorted and without repetition. -/
def Sorted (entries : Entries α) : Prop := entries.Pairwise fun x y => x.1 < y.1

/-! ## The view by names -/

@[simp] theorem get?_nil (name : String) : get? ([] : Entries α) name = none := rfl

theorem get?_cons (entry : String × α) (rest : Entries α) (name : String) :
    get? (entry :: rest) name = if name = entry.1 then some entry.2 else get? rest name := by
  rw [get?, List.lookup_cons]
  by_cases h : name = entry.1
  · simp [h]
  · simp [beq_false_of_ne h, h, get?]

@[simp] theorem get?_insert_self (entries : Entries α) (name : String) (value : α) :
    get? (entries.insert name value) name = some value := by
  induction entries with
  | nil => simp [insert, get?_cons]
  | cons entry rest ih =>
    obtain ⟨other, kept⟩ := entry
    simp only [insert]
    split
    · simp [get?_cons]
    · rename_i hne
      split
      · simp [get?_cons]
      · simp [get?_cons, hne, ih]

theorem get?_insert_of_ne {entries : Entries α} {name other : String} (value : α)
    (h : other ≠ name) : get? (entries.insert name value) other = get? entries other := by
  induction entries with
  | nil => simp [insert, get?_cons, h]
  | cons entry rest ih =>
    obtain ⟨here, kept⟩ := entry
    simp only [insert]
    split
    · rename_i heq
      subst heq
      simp [get?_cons, h]
    · split
      · simp [get?_cons, h]
      · simp [get?_cons, ih]

theorem has_iff {entries : Entries α} {name : String} :
    entries.has name = true ↔ ∃ value, (name, value) ∈ entries := by
  simp only [has, List.any_eq_true, beq_iff_eq]
  constructor
  · rintro ⟨⟨_, value⟩, hmem, rfl⟩
    exact ⟨value, hmem⟩
  · rintro ⟨value, hmem⟩
    exact ⟨(name, value), hmem, rfl⟩

end Entries

end ConversationMemory
