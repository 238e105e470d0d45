import ConversationMemory.Entries

/-!
# Sorted entries

* `sorted_insert`: putting an entry into a sorted list keeps it sorted.
* **`foldl_insert_of_sorted`**: sorted entries that are put in one by one come out as they were.
* `perm_ofList`: other entries with different names come out in another order.
-/

namespace ConversationMemory.Entries

variable {α : Type} {entries : Entries α} {name : String} {value : α}

theorem insert_of_lt (h : ∀ entry ∈ entries, entry.1 < name) :
    entries.insert name value = entries ++ [(name, value)] := by
  induction entries with
  | nil => rfl
  | cons entry rest ih =>
    obtain ⟨other, kept⟩ := entry
    have before : other < name := h (other, kept) (by simp)
    have differs : name ≠ other := by
      rintro rfl
      exact String.lt_irrefl name before
    have after : ¬ name < other := fun behind => String.lt_irrefl name (String.lt_trans behind before)
    rw [insert, if_neg differs, if_neg after, ih fun entry hmem => h entry (by simp [hmem])]
    rfl

theorem mem_insert {entry : String × α} (h : entry ∈ entries.insert name value) :
    entry = (name, value) ∨ entry ∈ entries := by
  induction entries with
  | nil => exact .inl (List.mem_singleton.1 h)
  | cons first rest ih =>
    obtain ⟨other, kept⟩ := first
    rw [insert] at h
    split at h
    · exact (List.mem_cons.1 h).imp id fun hrest => by simp [hrest]
    · split at h
      · exact List.mem_cons.1 h
      · rcases List.mem_cons.1 h with rfl | hrest
        · exact .inr (by simp)
        · exact (ih hrest).imp id fun hmem => by simp [hmem]

theorem sorted_insert (h : Sorted entries) (name : String) (value : α) :
    Sorted (entries.insert name value) := by
  induction entries with
  | nil => exact List.pairwise_singleton _ _
  | cons first rest ih =>
    obtain ⟨other, kept⟩ := first
    obtain ⟨hfirst, hrest⟩ := List.pairwise_cons.1 h
    rw [insert]
    split
    · rename_i heq
      subst heq
      exact List.pairwise_cons.2 ⟨hfirst, hrest⟩
    · rename_i hne
      split
      · rename_i hlt
        refine List.pairwise_cons.2 ⟨fun entry hmem => ?_, h⟩
        rcases List.mem_cons.1 hmem with rfl | hmem
        · exact hlt
        · exact String.lt_trans hlt (hfirst entry hmem)
      · rename_i hnlt
        have behind : other < name := by
          by_cases before : other < name
          · exact before
          · exact absurd (String.le_antisymm (String.not_lt.1 before) (String.not_lt.1 hnlt)) hne
        refine List.pairwise_cons.2 ⟨fun entry hmem => ?_, ih hrest⟩
        rcases mem_insert hmem with rfl | hmem
        · exact behind
        · exact hfirst entry hmem

/-- **Sorted entries that are put in one by one come out as they were.** -/
theorem foldl_insert_of_sorted (entries : Entries α) :
    ∀ before : Entries α, Sorted (before ++ entries) →
      entries.foldl (fun sorted entry => sorted.insert entry.1 entry.2) before =
        before ++ entries := by
  induction entries with
  | nil => exact fun before _ => (List.append_nil before).symm
  | cons entry rest ih =>
    intro before h
    have last : ∀ kept ∈ before, kept.1 < entry.1 := fun kept hmem =>
      (List.pairwise_append.1 h).2.2 kept hmem entry (by simp)
    rw [List.foldl_cons, insert_of_lt last, ih _ (by simpa using h)]
    simp

/-! ## Entries put in one by one -/

theorem perm_insert (h : ∀ entry ∈ entries, name ≠ entry.1) :
    (entries.insert name value).Perm ((name, value) :: entries) := by
  induction entries with
  | nil => exact .refl _
  | cons entry rest ih =>
    obtain ⟨other, kept⟩ := entry
    rw [insert, if_neg (h (other, kept) (by simp))]
    split
    · exact .refl _
    · exact ((ih fun entry hmem => h entry (by simp [hmem])).cons _).trans (.swap _ _ _)

theorem perm_foldl_insert (entries : Entries α) :
    ∀ before : Entries α, (before ++ entries).Pairwise (fun x y => x.1 ≠ y.1) →
      (entries.foldl (fun sorted entry => sorted.insert entry.1 entry.2) before).Perm
        (before ++ entries) := by
  induction entries with
  | nil => exact fun before _ => by simp
  | cons entry rest ih =>
    intro before h
    have new : ∀ kept ∈ before, entry.1 ≠ kept.1 := fun kept hmem =>
      ((List.pairwise_append.1 h).2.2 kept hmem entry (by simp)).symm
    have placed : (before.insert entry.1 entry.2 ++ rest).Perm (before ++ entry :: rest) :=
      ((perm_insert new).append_right rest).trans List.perm_middle.symm
    have differ : (before.insert entry.1 entry.2 ++ rest).Pairwise fun x y => x.1 ≠ y.1 :=
      h.perm placed.symm Ne.symm
    exact (ih _ differ).trans placed

theorem perm_ofList (h : entries.Pairwise fun x y => x.1 ≠ y.1) : (ofList entries).Perm entries :=
  perm_foldl_insert entries [] h

theorem sorted_ofList (entries : Entries α) : Sorted (ofList entries) := by
  have keeps (entries before : Entries α) (h : Sorted before) :
      Sorted (entries.foldl (fun sorted entry => sorted.insert entry.1 entry.2) before) := by
    induction entries generalizing before with
    | nil => exact h
    | cons entry rest ih => exact ih _ (sorted_insert h _ _)
  exact keeps entries [] List.Pairwise.nil

theorem Sorted.eq_of_perm {other : Entries α} (h : Sorted entries) (h' : Sorted other)
    (perm : entries.Perm other) : entries = other :=
  perm.eq_of_pairwise (fun _ _ _ _ before behind => (String.lt_asymm before behind).elim) h h'

theorem Sorted.get?_of_mem (h : Sorted entries) (hmem : (name, value) ∈ entries) :
    get? entries name = some value := by
  induction entries with
  | nil => cases hmem
  | cons entry rest ih =>
    obtain ⟨first, others⟩ := List.pairwise_cons.1 h
    rw [get?_cons]
    rcases List.mem_cons.1 hmem with rfl | hmem
    · exact if_pos rfl
    · have behind : entry.1 < name := first _ hmem
      have differs : name ≠ entry.1 := by
        rintro rfl
        exact String.lt_irrefl _ behind
      rw [if_neg differs, ih others hmem]

theorem erase_of_has (h : entries.has name = false) : entries.erase name = entries := by
  refine List.filter_eq_self.2 fun entry hmem => ?_
  rw [bne_iff_ne]
  rintro rfl
  have given : entries.has entry.1 = true := has_iff.2 ⟨entry.2, hmem⟩
  rw [h] at given
  cases given

theorem has_erase_self (entries : Entries α) (name : String) :
    (entries.erase name).has name = false := by
  rw [← Bool.not_eq_true, has_iff]
  simp [erase]

theorem has_erase_of_ne (entries : Entries α) {other : String} (h : other ≠ name) :
    (entries.erase name).has other = entries.has other := by
  rw [Bool.eq_iff_iff, has_iff, has_iff]
  simp [erase, h]

theorem mem_of_get? (h : get? entries name = some value) : (name, value) ∈ entries := by
  induction entries with
  | nil => cases h
  | cons entry rest ih =>
    rw [get?_cons] at h
    split at h
    · rename_i heq
      cases h
      rw [heq]
      exact List.mem_cons_self
    · exact List.mem_cons_of_mem _ (ih h)

theorem Sorted.perm_erase (h : Sorted entries) (hmem : (name, value) ∈ entries) :
    ((name, value) :: entries.erase name).Perm entries := by
  induction entries with
  | nil => cases hmem
  | cons entry rest ih =>
    obtain ⟨first, others⟩ := List.pairwise_cons.1 h
    rcases List.mem_cons.1 hmem with rfl | hmem
    · have absent : Entries.has rest name = false := by
        rw [← Bool.not_eq_true, has_iff]
        rintro ⟨other, hother⟩
        exact String.lt_irrefl name (first _ hother)
      rw [erase, List.filter_cons_of_neg (by simp)]
      exact .of_eq (congrArg _ (erase_of_has absent))
    · have differs : entry.1 ≠ name := String.ne_of_lt (first _ hmem)
      rw [erase, List.filter_cons_of_pos (by simpa using differs)]
      exact (List.Perm.swap _ _ _).trans ((ih others hmem).cons _)

end ConversationMemory.Entries
