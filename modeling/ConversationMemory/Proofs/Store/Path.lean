import ConversationMemory.Proofs.FileTree.View
import ConversationMemory.Store.FileBacked

/-!
# The paths of a store

* `pathOf_eq_ok`: which names have a path, and which one. `temporaryOf_filePath`: the path beside it.
* **`directoryOf_inj`**: different resources have different directories or different names.
* **`not_prefix_directoryOf`**: no file of a store stands where one of its directories does.
-/

namespace ConversationMemory.FileBacked

variable {root : TreePath} {family family' : Family} {name name' namespaceName namespaceName' : String}

/-! ## Names -/

theorem append_right_cancel {a b c : String} : a ++ c = b ++ c ↔ a = b := by
  rw [← String.toList_inj, String.toList_append, String.toList_append, List.append_left_inj,
    String.toList_inj]

/-- The name of the file of a resource. -/
def fileName (name : String) : String := name ++ ".json"

/-- The name of the file beside it. -/
def spareName (name : String) : String := name ++ ".json" ++ ".tmp"

theorem fileName_inj : fileName name = fileName name' ↔ name = name' := append_right_cancel

theorem spareName_inj : spareName name = spareName name' ↔ name = name' :=
  append_right_cancel.trans append_right_cancel

theorem last_fileName (name : String) : (fileName name).toList.getLast? = some 'n' := by
  simp [fileName, String.toList_append]

theorem last_spareName (name : String) : (spareName name).toList.getLast? = some 'p' := by
  simp [spareName, String.toList_append]

theorem fileName_ne {other : String} (h : other.toList.getLast? ≠ some 'n') : fileName name ≠ other := by
  rintro rfl
  exact h (last_fileName name)

theorem spareName_ne {other : String} (h : other.toList.getLast? ≠ some 'p') :
    spareName name ≠ other := by
  rintro rfl
  exact h (last_spareName name)

theorem fileName_ne_spareName : fileName name ≠ spareName name' :=
  fileName_ne (by simp [last_spareName])

/-- There is a point in the name. -/
def HasPoint (name : String) : Prop := '.' ∈ name.toList

theorem hasPoint_fileName (name : String) : HasPoint (fileName name) := by
  simp [HasPoint, fileName]

theorem hasPoint_spareName (name : String) : HasPoint (spareName name) := by
  simp [HasPoint, spareName]

theorem not_hasPoint_directory (family : Family) : ¬ HasPoint family.directory := by
  unfold HasPoint
  cases family with
  | memory => decide
  | values kind => cases kind <;> decide

theorem directory_inj : family.directory = family'.directory ↔ family = family' := by
  constructor
  · intro h
    cases family with
    | memory =>
      cases family' with
      | memory => rfl
      | values kind => cases kind <;> exact absurd h (by decide)
    | values kind =>
      cases family' with
      | memory => cases kind <;> exact absurd h (by decide)
      | values kind' => cases kind <;> cases kind' <;> first | rfl | exact absurd h (by decide)
  · rintro rfl
    rfl

theorem step_inj : step name = step name' ↔ name = name' := by
  constructor
  · intro h
    unfold step at h
    by_cases hname : name = "."
    · by_cases hname' : name' = "."
      · rw [hname, hname']
      · simp [hname, hname'] at h
    · by_cases hname' : name' = "."
      · simp [hname, hname'] at h
      · simpa [hname, hname'] using h
  · rintro rfl
    rfl

theorem step_cases (name : String) : name = "." ∧ step name = [] ∨ name ≠ "." ∧ step name = [name] := by
  unfold step
  split
  · rename_i h
    exact .inl ⟨h, rfl⟩
  · rename_i h
    exact .inr ⟨h, rfl⟩

/-! ## Paths -/

/-- The path of a resource. -/
def filePath (root : TreePath) (family : Family) (namespaceName name : String) : TreePath :=
  directoryOf root family namespaceName ++ [fileName name]

/-- The path beside it. -/
def sparePath (root : TreePath) (family : Family) (namespaceName name : String) : TreePath :=
  directoryOf root family namespaceName ++ [spareName name]

@[simp] theorem dropLast_filePath (root : TreePath) (family : Family) (namespaceName name : String) :
    (filePath root family namespaceName name).dropLast = directoryOf root family namespaceName :=
  List.dropLast_concat

/-- A name that can be a step of a path. -/
def IsSegment (name : String) : Prop := segment name = .ok name

theorem segment_eq_ok {value : String} (h : segment name = .ok value) :
    value = name ∧ IsSegment name := by
  have hvalue : value = name := by
    unfold segment at h
    split at h
    · cases h
    · split at h
      · cases h
      · split at h
        · cases h
        · exact (Except.ok.inj h).symm
  subst hvalue
  exact ⟨rfl, h⟩

theorem pathOf_eq_ok {path : TreePath} :
    pathOf root family namespaceName name = .ok path ↔
      IsSegment namespaceName ∧ IsSegment name ∧
        path = filePath root family namespaceName name := by
  unfold pathOf
  constructor
  · intro h
    cases hn : segment namespaceName with
    | error e =>
      rw [hn] at h
      cases h
    | ok first =>
      obtain ⟨rfl, hfirst⟩ := segment_eq_ok hn
      cases hm : segment name with
      | error e =>
        rw [hn, hm] at h
        cases h
      | ok second =>
        obtain ⟨rfl, hsecond⟩ := segment_eq_ok hm
        rw [hn, hm] at h
        exact ⟨hfirst, hsecond, (Except.ok.inj h).symm⟩
  · rintro ⟨hn, hm, rfl⟩
    rw [show segment namespaceName = _ from hn, show segment name = _ from hm]
    rfl

/-- The temporary file of a resource stands beside it; the one of the name `.` would be a directory.
-/
theorem temporaryOf_filePath (root : TreePath) (family : Family) (namespaceName name : String) :
    temporaryOf (filePath root family namespaceName name) =
      if name = "." then (directoryOf root family namespaceName).dropLast
      else sparePath root family namespaceName name := by
  have point : fileName name = "..json" ↔ name = "." := by
    have : ("..json" : String) = fileName "." := rfl
    rw [this, fileName_inj]
  unfold temporaryOf filePath
  rw [List.getLast?_concat]
  simp only [List.dropLast_concat]
  by_cases h : name = "."
  · rw [if_pos (point.2 h), if_pos h]
  · rw [if_neg (fun heq => h (point.1 heq)), if_neg h]
    rfl

theorem dropLast_directoryOf (root : TreePath) (family : Family) (namespaceName : String) :
    (directoryOf root family namespaceName).dropLast = root ++ step namespaceName :=
  List.dropLast_concat

/-- **Different resources have different directories or different names.** -/
theorem directoryOf_inj :
    directoryOf root family namespaceName = directoryOf root family' namespaceName' ↔
      family = family' ∧ namespaceName = namespaceName' := by
  constructor
  · intro h
    obtain ⟨hfront, hlast⟩ := List.append_inj' h rfl
    have hstep := List.append_cancel_left hfront
    have hfamily : family.directory = family'.directory := by simpa using hlast
    exact ⟨directory_inj.1 hfamily, step_inj.1 hstep⟩
  · rintro ⟨rfl, rfl⟩
    rfl

/-- What stands in the directories of resources is told apart by their families, namespaces and its
own name. -/
theorem directoryOf_concat_inj {last last' : String} :
    directoryOf root family namespaceName ++ [last] =
        directoryOf root family' namespaceName' ++ [last'] ↔
      family = family' ∧ namespaceName = namespaceName' ∧ last = last' := by
  constructor
  · intro h
    obtain ⟨hfront, hlast⟩ := List.append_inj' h rfl
    obtain ⟨hfamily, hname⟩ := directoryOf_inj.1 hfront
    exact ⟨hfamily, hname, List.singleton_inj.1 hlast⟩
  · rintro ⟨rfl, rfl, rfl⟩
    rfl

theorem filePath_inj : filePath root family namespaceName name =
      filePath root family' namespaceName' name' ↔
    family = family' ∧ namespaceName = namespaceName' ∧ name = name' :=
  directoryOf_concat_inj.trans (by rw [fileName_inj])

theorem sparePath_inj : sparePath root family namespaceName name =
      sparePath root family' namespaceName' name' ↔
    family = family' ∧ namespaceName = namespaceName' ∧ name = name' :=
  directoryOf_concat_inj.trans (by rw [spareName_inj])

theorem filePath_ne_sparePath :
    filePath root family namespaceName name ≠ sparePath root family' namespaceName' name' := by
  intro h
  obtain ⟨-, hlast⟩ := List.append_inj' h rfl
  exact fileName_ne_spareName (List.singleton_inj.1 hlast)

/-- **No file of a store stands where one of its directories does.** -/
theorem not_prefix_directoryOf {last : String} (h : HasPoint last) :
    ¬ (directoryOf root family namespaceName ++ [last]) <+:
      directoryOf root family' namespaceName' := by
  intro hprefix
  rw [directoryOf, directoryOf, List.append_assoc, List.append_assoc, List.append_assoc,
    List.prefix_append_right_inj] at hprefix
  have hlength := hprefix.length_le
  rcases step_cases namespaceName with ⟨-, hstep⟩ | ⟨-, hstep⟩ <;>
    rcases step_cases namespaceName' with ⟨-, hstep'⟩ | ⟨-, hstep'⟩ <;>
    rw [hstep, hstep'] at hprefix hlength
  · simp at hlength
  · have hlast : last = family'.directory := by
      have := hprefix.eq_of_length (by simp)
      simp at this
      exact this.2
    rw [hlast] at h
    exact not_hasPoint_directory family' h
  · simp at hlength
  · simp at hlength

/-! ## Files below the working directory -/

theorem fileName_not_isOutside (name : String) : TreePath.isOutside (fileName name) = false := by
  simp only [TreePath.isOutside, Bool.or_eq_false_iff, beq_eq_false_iff_ne]
  exact ⟨fileName_ne (by decide), fileName_ne (by decide)⟩

theorem spareName_not_isOutside (name : String) : TreePath.isOutside (spareName name) = false := by
  simp only [TreePath.isOutside, Bool.or_eq_false_iff, beq_eq_false_iff_ne]
  exact ⟨spareName_ne (by decide), spareName_ne (by decide)⟩

end ConversationMemory.FileBacked
