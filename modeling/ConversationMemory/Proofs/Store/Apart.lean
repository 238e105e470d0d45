import ConversationMemory.Proofs.FileTree.Growth
import ConversationMemory.Proofs.Store.Refused

/-!
# Resources of a store do not meet

* `below_filePath`: the file of a resource is strictly below the root of the store.
* `filePath_of_prefix`: no file of a resource is on the way to another one.
* `temporaryOf_inj`: the temporary file of a resource is its own, unless the name is a point. Then
  the directory of the namespace is in its place, for all families.
* `writeJson_elsewhere`: what a write can change.
* **`resources_apart`**: all of it, for any two resources of a store.
-/

namespace ConversationMemory.FileBacked

variable {root : TreePath} {family family' : Family} {namespaceName namespaceName' name name' : String}
  {tree : FileTree} {path p : TreePath}

/-! ## Below the root -/

/-- A name that leads from a directory to something in it. -/
def IsEntryName (name : String) : Prop := WrittenPath.isProper name = true ∧ '/' ∉ name.toList

theorem isEntryName_directory (family : Family) : IsEntryName family.directory := by
  cases family with
  | memory => exact ⟨by decide, by decide⟩
  | values kind => cases kind <;> exact ⟨by decide, by decide⟩

theorem isEntryName_step (h : IsSegment namespaceName) : ∀ n ∈ step namespaceName, IsEntryName n := by
  obtain ⟨nonEmpty, clean, -, points⟩ := h.spelled
  rcases step_cases namespaceName with ⟨-, stays⟩ | ⟨point, steps⟩
  · rw [stays]
    exact fun n hn => absurd hn List.not_mem_nil
  · rw [steps]
    rintro n hn
    obtain rfl := List.mem_singleton.1 hn
    refine ⟨?_, clean⟩
    have above : n ≠ ".." := by
      rintro rfl
      exact points ⟨[], [], rfl⟩
    simp [WrittenPath.isProper, WrittenPath.stays, nonEmpty, point, above]

theorem isEntryName_fileName (h : IsSegment name) : IsEntryName (fileName name) := by
  refine ⟨?_, ?_⟩
  · have nonEmpty : fileName name ≠ "" := fileName_ne (by decide)
    have point : fileName name ≠ "." := fileName_ne (by decide)
    have above : fileName name ≠ ".." := fileName_ne (by decide)
    simp [WrittenPath.isProper, WrittenPath.stays, nonEmpty, point, above]
  · rw [fileName, String.toList_append, List.mem_append]
    rintro (here | ending)
    · exact h.spelled.2.1 here
    · exact absurd ending (by decide)

theorem below_filePath (root : TreePath) (family : Family) (hns : IsSegment namespaceName)
    (hname : IsSegment name) :
    ∃ below, below ≠ [] ∧ filePath root family namespaceName name = root ++ below ∧
      ∀ n ∈ below, IsEntryName n := by
  refine ⟨step namespaceName ++ [family.directory, fileName name], by simp, ?_, ?_⟩
  · simp [filePath, directoryOf]
  · intro n hn
    rcases List.mem_append.1 hn with hn | hn
    · exact isEntryName_step hns n hn
    · rcases List.mem_pair.1 hn with rfl | rfl
      · exact isEntryName_directory family
      · exact isEntryName_fileName hname

/-! ## Two resources -/

theorem filePath_of_prefix
    (h : filePath root family namespaceName name <+: filePath root family' namespaceName' name') :
    filePath root family namespaceName name = filePath root family' namespaceName' name' :=
  (List.prefix_concat_iff.1 h).resolve_right (not_prefix_directoryOf (hasPoint_fileName name))

theorem length_namespace (root : TreePath) (family : Family) (namespaceName namespaceName' : String)
    (last : String) :
    (root ++ step namespaceName).length <
      (directoryOf root family namespaceName' ++ [last]).length := by
  have short : (step namespaceName).length ≤ 1 := by
    rcases step_cases namespaceName with ⟨-, h⟩ | ⟨-, h⟩ <;> simp [h]
  simp only [directoryOf, List.length_append, List.length_singleton]
  omega

theorem namespace_ne_concat {last : String} :
    root ++ step namespaceName ≠ directoryOf root family namespaceName' ++ [last] := fun same =>
  absurd (congrArg List.length same) (length_namespace root family _ _ last).ne

theorem temporaryOf_ne_filePath : temporaryOf (filePath root family namespaceName name) ≠
    filePath root family' namespaceName' name' := by
  rw [temporaryOf_filePath, dropLast_directoryOf]
  split
  · exact namespace_ne_concat
  · exact filePath_ne_sparePath.symm

/-- **The temporary file of a resource is its own, unless the name is a point.** Then it would be the
directory of the namespace, for the resources of this name in all families. -/
theorem temporaryOf_inj :
    temporaryOf (filePath root family namespaceName name) =
        temporaryOf (filePath root family' namespaceName' name') ↔
      family = family' ∧ namespaceName = namespaceName' ∧ name = name' ∨
        namespaceName = namespaceName' ∧ name = "." ∧ name' = "." := by
  rw [temporaryOf_filePath, temporaryOf_filePath, dropLast_directoryOf, dropLast_directoryOf]
  by_cases point : name = "." <;> by_cases point' : name' = "."
  · rw [if_pos point, if_pos point', List.append_right_inj, step_inj]
    exact ⟨fun same => .inr ⟨same, point, point'⟩, fun h => h.elim (·.2.1) (·.1)⟩
  · rw [if_pos point, if_neg point']
    refine ⟨fun same => absurd same namespace_ne_concat, ?_⟩
    rintro (⟨-, -, rfl⟩ | ⟨-, -, here⟩)
    · exact absurd point point'
    · exact absurd here point'
  · rw [if_neg point, if_pos point']
    refine ⟨fun same => absurd same.symm namespace_ne_concat, ?_⟩
    rintro (⟨-, -, rfl⟩ | ⟨-, here, -⟩)
    · exact absurd point' point
    · exact absurd here point
  · rw [if_neg point, if_neg point', sparePath_inj]
    exact ⟨.inl, fun h => h.resolve_right fun both => point both.2.1⟩

theorem temporaryOf_beside : (temporaryOf (filePath root family namespaceName name)).dropLast =
    (filePath root family namespaceName name).dropLast ↔ name ≠ "." := by
  rw [temporaryOf_filePath, dropLast_directoryOf, dropLast_filePath]
  split
  · rename_i point
    refine ⟨fun same => ?_, fun other => absurd point other⟩
    have length := congrArg List.length same
    simp only [directoryOf, List.length_dropLast, List.length_append, List.length_singleton] at length
    omega
  · rename_i other
    exact ⟨fun _ => other, fun _ => List.dropLast_concat⟩

/-! ## Writes -/

theorem writeJson_elsewhere (tree : FileTree) (value : Json) (way : ¬ p <+: path.dropLast)
    (away : p ≠ path) (beside : p ≠ temporaryOf path) :
    (writeJson tree path value).2.get? p = tree.get? p := by
  have stages := writeJson_stages tree path value
  generalize writeJson tree path value = outcome at stages
  cases stages with
  | noDirectory made => exact FileTree.createDirectories_elsewhere made way
  | notWritten made wrote =>
    exact (FileTree.writeBytes_elsewhere wrote beside).trans
      (FileTree.createDirectories_elsewhere made way)
  | notRenamed made wrote moved | renamed made wrote moved =>
    have written := (FileTree.writeBytes_elsewhere wrote beside).trans
      (FileTree.createDirectories_elsewhere made way)
    exact (FileTree.rename_elsewhere moved beside away).trans written

theorem writeJson_other (tree : FileTree) (value : Json)
    (other : filePath root family namespaceName name ≠ filePath root family' namespaceName' name') :
    (writeJson tree (filePath root family namespaceName name) value).2.get?
        (filePath root family' namespaceName' name') =
      tree.get? (filePath root family' namespaceName' name') := by
  refine writeJson_elsewhere tree value ?_ other.symm temporaryOf_ne_filePath.symm
  rw [dropLast_filePath]
  exact not_prefix_directoryOf (hasPoint_fileName name')

/-! ## The paths of a store -/

/-- **Resources of a store do not meet.** Names that are accepted have a path, strictly below the root.
Two resources have the same path only if they are the same, and neither is on the way to the other.
The file that is written first stands at the path of no resource, and another resource has the same
only if both are named by a point: exactly then it does not stand beside the file. A write of one
resource leaves the file of the other as it is. -/
theorem resources_apart (root : TreePath) (family family' : Family)
    (hns : IsSegment namespaceName) (hname : IsSegment name)
    (hns' : IsSegment namespaceName') (hname' : IsSegment name') :
    ∃ path path', pathOf root family namespaceName name = .ok path ∧
      pathOf root family' namespaceName' name' = .ok path' ∧
      (∃ below, below ≠ [] ∧ path = root ++ below ∧ ∀ n ∈ below, IsEntryName n) ∧
      (path = path' ↔ family = family' ∧ namespaceName = namespaceName' ∧ name = name') ∧
      (path <+: path' → path = path') ∧
      temporaryOf path ≠ path' ∧
      (temporaryOf path = temporaryOf path' ↔
        family = family' ∧ namespaceName = namespaceName' ∧ name = name' ∨
          namespaceName = namespaceName' ∧ name = "." ∧ name' = ".") ∧
      ((temporaryOf path).dropLast = path.dropLast ↔ name ≠ ".") ∧
      (path ≠ path' → ∀ (tree : FileTree) (value : Json),
        (writeJson tree path value).2.get? path' = tree.get? path') :=
  ⟨filePath root family namespaceName name, filePath root family' namespaceName' name',
    pathOf_eq_ok.2 ⟨hns, hname, rfl⟩, pathOf_eq_ok.2 ⟨hns', hname', rfl⟩,
    below_filePath root family hns hname, filePath_inj, filePath_of_prefix, temporaryOf_ne_filePath,
    temporaryOf_inj, temporaryOf_beside, fun other tree value => writeJson_other tree value other⟩

/-- The record and the configuration that are named by a point in one namespace have different paths,
and the same temporary one. -/
theorem resources_apart_points :
    IsSegment "team" ∧ IsSegment "." ∧
      pathOf ["st"] .memory "team" "." ≠ pathOf ["st"] (.values .configMap) "team" "." ∧
      temporaryOf ["st", "team", "memories", "..json"] =
        temporaryOf ["st", "team", "configmaps", "..json"] := by
  have team : IsSegment "team" := rfl
  have point : IsSegment "." := rfl
  obtain ⟨path, path', located, located', -, same, -, -, beside, -⟩ :=
    resources_apart ["st"] .memory (.values .configMap) team point team point
  refine ⟨team, point, ?_, ?_⟩
  · rw [located, located']
    exact fun equal => Family.noConfusion (same.1 (Except.ok.inj equal)).1
  · obtain rfl : ["st", "team", "memories", "..json"] = path := Except.ok.inj located
    obtain rfl : ["st", "team", "configmaps", "..json"] = path' := Except.ok.inj located'
    exact beside.2 (.inr ⟨rfl, rfl, rfl⟩)

end ConversationMemory.FileBacked
