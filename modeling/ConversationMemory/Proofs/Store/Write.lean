import ConversationMemory.Proofs.FileTree.Written
import ConversationMemory.Proofs.Store.Path
import Mathlib.Data.List.Infix

/-!
# Writing to a directory in good order

* `Fits`: names that the paths of a store can be made of.
* `IsOrderly`: nothing is in the way of a file of the store.
* `writeJson_stages`: how far a write of a file gets.
* **`writeJson_eq`**: in a directory in good order a file is written, and nothing else changes but
  the directories on the way to it. `writeJson_point`: not so for the name that is a point.
-/

namespace ConversationMemory.FileBacked

open WrittenPath (IsPlace)

variable {tree : FileTree} {root : TreePath} {family : Family} {namespaceName name : String}

/-! ## Names -/

/-- A name that can stand in a path, also with an ending. -/
structure Fits (ending name : String) : Prop where
  nonEmpty : name ≠ ""
  noSlash : '/' ∉ name.toList
  noBackslash : '\\' ∉ name.toList
  noDoublePoint : ¬ ['.', '.'] <:+: name.toList
  noNul : '\x00' ∉ name.toList
  short : (name ++ ending).utf8ByteSize ≤ FileTree.nameLimit

instance (ending name : String) : Decidable (Fits ending name) :=
  decidable_of_iff
    (name ≠ "" ∧ '/' ∉ name.toList ∧ '\\' ∉ name.toList ∧ ¬ ['.', '.'] <:+: name.toList ∧
      '\x00' ∉ name.toList ∧ (name ++ ending).utf8ByteSize ≤ FileTree.nameLimit)
    ⟨fun ⟨a, b, c, d, e, f⟩ => ⟨a, b, c, d, e, f⟩,
      fun h => ⟨h.nonEmpty, h.noSlash, h.noBackslash, h.noDoublePoint, h.noNul, h.short⟩⟩

theorem infix_of_hasDoublePoint {cs : List Char} (h : hasDoublePoint cs = true) :
    ['.', '.'] <:+: cs := by
  induction cs with
  | nil => cases h
  | cons c rest ih =>
    rw [hasDoublePoint.eq_def] at h
    split at h
    · rename_i heq
      rw [heq]
      exact ⟨[], _, rfl⟩
    · rename_i heq
      cases heq
      exact (ih h).trans (List.suffix_cons _ _).isInfix
    · cases h

theorem Fits.isSegment {ending : String} (h : Fits ending name) : IsSegment name := by
  have separators : ¬ (name.toList.any fun c => c == '/' || c == '\\') = true := by
    rw [List.any_eq_true]
    rintro ⟨c, hmem, hc⟩
    rw [Bool.or_eq_true, beq_iff_eq, beq_iff_eq] at hc
    rcases hc with rfl | rfl
    · exact h.noSlash hmem
    · exact h.noBackslash hmem
  rw [IsSegment, segment, if_neg (by simpa using h.nonEmpty), if_neg separators,
    if_neg fun points => h.noDoublePoint (infix_of_hasDoublePoint points)]

theorem Fits.not_isOutside {ending : String} (h : Fits ending name) :
    TreePath.isOutside name = false := by
  rw [TreePath.isOutside, Bool.or_eq_false_iff, beq_eq_false_iff_ne, beq_eq_false_iff_ne]
  refine ⟨?_, ?_⟩
  · rintro rfl
    exact h.noDoublePoint ⟨[], [], rfl⟩
  · rintro rfl
    exact h.noSlash (List.mem_singleton.2 rfl)

theorem length_le_append (a b : String) : a.utf8ByteSize ≤ (a ++ b).utf8ByteSize := by
  rw [String.utf8ByteSize_append]
  omega

theorem Fits.fileNames (h : Fits ".json.tmp" name) :
    ((fileName name).utf8ByteSize ≤ FileTree.nameLimit ∧ '\x00' ∉ (fileName name).toList) ∧
      (spareName name).utf8ByteSize ≤ FileTree.nameLimit ∧ '\x00' ∉ (spareName name).toList := by
  have whole : name ++ ".json.tmp" = spareName name := by
    rw [spareName, String.append_assoc]
    rfl
  have short := h.short
  rw [whole] at short
  refine ⟨⟨Nat.le_trans (length_le_append (fileName name) ".tmp") short, ?_⟩, short, ?_⟩
  · simp [fileName, String.toList_append, h.noNul]
  · simp [spareName, String.toList_append, h.noNul]

/-! ## Directories -/

theorem directory_fits (family : Family) : family.directory.utf8ByteSize ≤ FileTree.nameLimit ∧
    '\x00' ∉ family.directory.toList := by
  cases family with
  | memory => decide
  | values kind => cases kind <;> decide

section

variable {names : TreePath} {last : String}

/-- All names can stand in a path. -/
def AllFit (names : TreePath) : Prop :=
  ∀ name ∈ names, name.utf8ByteSize ≤ FileTree.nameLimit ∧ '\x00' ∉ name.toList

theorem AllFit.clean (fits : AllFit (names ++ [last])) :
    ¬ ((names ++ [last]).any fun name => name.contains '\x00') = true :=
  FileTree.not_any_nul fun name hmem => (fits name hmem).2

theorem find_concat (fits : AllFit (names ++ [last]))
    (directories : ∀ q, q ≠ [] → q <+: names → tree.get? q = some .directory) :
    tree.find (names ++ [last]) = .ok (tree.get? (names ++ [last])) := by
  have walks : tree.walk [] names = .ok (some .directory) :=
    FileTree.walk_of_directories (fun name hmem => (fits name (by simp [hmem])).1) directories
  have short := (fits last (by simp)).1
  rw [FileTree.find, if_neg fits.clean, FileTree.walk_concat, walks]
  dsimp only
  rw [if_neg (Nat.not_lt.2 short), List.nil_append]

theorem readText_of_none (fits : AllFit (names ++ [last]))
    (free : ∀ q, q ≠ [] → q <+: names → tree.get? q = none ∨ tree.get? q = some .directory)
    (nothing : tree.get? (names ++ [last]) = none) :
    tree.readText (names ++ [last]) = .error .notFound := by
  have short := (fits last (by simp)).1
  have walks := FileTree.walk_of_free (fun name hmem => (fits name (by simp [hmem])).1)
    (show ∀ q, q ≠ [] → q <+: names →
      tree.get? ([] ++ q) = none ∨ tree.get? ([] ++ q) = some .directory from free)
  rw [FileTree.readText_eq, FileTree.find, if_neg fits.clean, FileTree.walk_concat]
  rcases walks with hwalk | hwalk | hwalk
  · rw [hwalk]
    dsimp only
    rw [if_neg (Nat.not_lt.2 short), List.nil_append, nothing]
  · rw [hwalk]
  · rw [hwalk]

end

theorem directoryOf_fits (home : IsPlace tree root) (fits : Fits "" namespaceName)
    (family : Family) : AllFit (directoryOf root family namespaceName) := by
  intro name hmem
  rw [directoryOf, List.mem_append, List.mem_append] at hmem
  rcases hmem with (hroot | hstep) | hlast
  · exact ⟨home.short name hroot, home.clean name hroot⟩
  · have heq : name = namespaceName := by
      rcases step_cases namespaceName with ⟨-, hnil⟩ | ⟨-, hone⟩
      · rw [hnil] at hstep
        cases hstep
      · rw [hone] at hstep
        exact List.mem_singleton.1 hstep
    rw [heq]
    exact ⟨by simpa using fits.short, fits.noNul⟩
  · rw [List.mem_singleton.1 hlast]
    exact directory_fits family

theorem filePath_fits (home : IsPlace tree root) (fits : Fits "" namespaceName)
    (nameFits : Fits ".json.tmp" name) (family : Family) :
    AllFit (filePath root family namespaceName name) ∧
      AllFit (sparePath root family namespaceName name) := by
  obtain ⟨goalFits, spareFits⟩ := nameFits.fileNames
  refine ⟨fun other hmem => ?_, fun other hmem => ?_⟩
  · rcases List.mem_append.1 hmem with hmem | hmem
    · exact directoryOf_fits home fits family other hmem
    · rw [List.mem_singleton.1 hmem]
      exact goalFits
  · rcases List.mem_append.1 hmem with hmem | hmem
    · exact directoryOf_fits home fits family other hmem
    · rw [List.mem_singleton.1 hmem]
      exact spareFits

/-! ## Writing -/

/-- Nothing is in the way of a file: on the way to it there are directories or nothing, nothing
stands beside it, and no directory stands at its place. -/
structure IsOrderly (tree : FileTree) (root : TreePath) (family : Family)
    (namespaceName name : String) : Prop where
  home : IsPlace tree root
  directories : ∀ q, q ≠ [] → q <+: directoryOf root family namespaceName →
    tree.get? q = none ∨ tree.get? q = some .directory
  spare : tree.get? (sparePath root family namespaceName name) = none
  goal : tree.get? (filePath root family namespaceName name) ≠ some .directory

theorem IsOrderly.createDirectories (h : IsOrderly tree root family namespaceName name)
    (fits : Fits "" namespaceName) :
    ∃ made, tree.createDirectories (directoryOf root family namespaceName) = (.ok (), made) ∧
      ∀ p, made.get? p =
        if p ≠ [] ∧ p <+: directoryOf root family namespaceName then some .directory
        else tree.get? p := by
  have names := directoryOf_fits h.home fits family
  have clean := FileTree.not_any_nul fun name hmem => (names name hmem).2
  obtain ⟨made, hmade, directories, same⟩ :=
    FileTree.createFrom_eq (fun name hmem => (names name hmem).1)
      (show ∀ q, q ≠ [] → q <+: directoryOf root family namespaceName →
        tree.get? ([] ++ q) = none ∨ tree.get? ([] ++ q) = some .directory from h.directories)
  refine ⟨made, ?_, fun p => ?_⟩
  · rw [FileTree.createDirectories, if_neg clean, hmade]
  · by_cases hp : p ≠ [] ∧ p <+: directoryOf root family namespaceName
    · rw [if_pos hp]
      exact directories p hp.1 hp.2
    · rw [if_neg hp]
      refine same p fun q hq hle heq => hp ?_
      rw [heq]
      exact ⟨hq, hle⟩

theorem not_prefix_concat (names : TreePath) (last : String) : ¬ (names ++ [last]) <+: names := by
  intro h
  have := h.length_le
  rw [List.length_append, List.length_singleton] at this
  omega

/-- How far a write of a file gets: its directory cannot be made, the file beside it cannot be written,
this one cannot take its place, or does. -/
inductive Stages (tree : FileTree) (path : TreePath) (value : Json) :
    Except StoreError Unit × FileTree → Prop
  | noDirectory {e : IoError} {after : FileTree}
      (made : tree.createDirectories path.dropLast = (.error e, after)) :
      Stages tree path value (.error (.io e), after)
  | notWritten {e : IoError} {directory after : FileTree}
      (made : tree.createDirectories path.dropLast = (.ok (), directory))
      (wrote : directory.writeBytes (temporaryOf path) (Utf8.bytesOf value.pretty) = (.error e, after)) :
      Stages tree path value (.error (.io e), after)
  | notRenamed {e : IoError} {directory beside after : FileTree}
      (made : tree.createDirectories path.dropLast = (.ok (), directory))
      (wrote : directory.writeBytes (temporaryOf path) (Utf8.bytesOf value.pretty) = (.ok (), beside))
      (moved : beside.rename (temporaryOf path) path = (.error e, after)) :
      Stages tree path value (.error (.io e), after)
  | renamed {directory beside after : FileTree}
      (made : tree.createDirectories path.dropLast = (.ok (), directory))
      (wrote : directory.writeBytes (temporaryOf path) (Utf8.bytesOf value.pretty) = (.ok (), beside))
      (moved : beside.rename (temporaryOf path) path = (.ok (), after)) :
      Stages tree path value (.ok (), after)

theorem writeJson_stages (tree : FileTree) (path : TreePath) (value : Json) :
    Stages tree path value (writeJson tree path value) := by
  unfold writeJson
  split
  · rename_i made
    exact .noDirectory made
  · rename_i made
    split
    · rename_i wrote
      exact .notWritten made wrote
    · rename_i wrote
      split
      · rename_i moved
        exact .notRenamed made wrote moved
      · rename_i moved
        exact .renamed made wrote moved

/-- **In good order a file is written, and nothing else changes but the directories on the way.** -/
theorem writeJson_eq (h : IsOrderly tree root family namespaceName name)
    (fits : Fits "" namespaceName) (nameFits : Fits ".json.tmp" name) (point : name ≠ ".")
    (value : Json) :
    ∃ after, writeJson tree (filePath root family namespaceName name) value = (.ok (), after) ∧
      ∀ p, after.get? p =
        if p = filePath root family namespaceName name then some (.file (Utf8.bytesOf value.pretty))
        else if p ≠ [] ∧ p <+: directoryOf root family namespaceName then some .directory
        else tree.get? p := by
  obtain ⟨made, hmade, views⟩ := h.createDirectories fits
  obtain ⟨goalFits, spareFits⟩ := filePath_fits h.home fits nameFits family
  have directories (q : TreePath) (hq : q ≠ [])
      (hle : q <+: directoryOf root family namespaceName) :
      made.get? q = some .directory := by
    rw [views, if_pos ⟨hq, hle⟩]
  have behind (last : String) : made.get? (directoryOf root family namespaceName ++ [last]) =
      tree.get? (directoryOf root family namespaceName ++ [last]) := by
    rw [views, if_neg fun hp => not_prefix_concat _ _ hp.2]
  -- the file beside it is written first
  have spareFound : made.find (sparePath root family namespaceName name) = .ok none := by
    rw [sparePath, find_concat spareFits directories, behind]
    exact congrArg Except.ok h.spare
  obtain ⟨beside, hwrite, besides⟩ :=
    FileTree.writeBytes_view spareFound (fun heq => nomatch heq) (Utf8.bytesOf value.pretty)
  have stay (q : TreePath) (hq : q ≠ [])
      (hle : q <+: directoryOf root family namespaceName) : beside.get? q = some .directory := by
    rw [besides, if_neg]
    · exact directories q hq hle
    · rintro rfl
      exact not_prefix_concat _ _ hle
  -- then it takes the place of the file
  have sourceFound : beside.find (sparePath root family namespaceName name) =
      .ok (some (.file (Utf8.bytesOf value.pretty))) := by
    rw [sparePath, find_concat spareFits stay, besides, ← sparePath, if_pos rfl]
  have goalFound : beside.find (filePath root family namespaceName name) =
      .ok (tree.get? (filePath root family namespaceName name)) := by
    rw [filePath, find_concat goalFits stay, besides, ← filePath,
      if_neg filePath_ne_sparePath, filePath, behind]
  obtain ⟨after, hrename, afters⟩ := FileTree.rename_view sourceFound goalFound h.goal
  refine ⟨after, ?_, fun p => ?_⟩
  · rw [writeJson, dropLast_filePath, hmade]
    dsimp only
    rw [temporaryOf_filePath, if_neg point, hwrite]
    dsimp only
    rw [hrename]
  · rw [afters, besides, ← views]
    by_cases hspare : p = sparePath root family namespaceName name
    · rw [if_pos hspare, hspare, if_neg filePath_ne_sparePath.symm,
        if_neg filePath_ne_sparePath.symm, sparePath, behind]
      exact h.spare.symm
    · rw [if_neg hspare, if_neg hspare]

theorem writeJson_point (h : IsOrderly tree root family namespaceName name)
    (fits : Fits "" namespaceName) (value : Json) :
    (writeJson tree (filePath root family namespaceName ".") value).1 =
      .error (.io .isDirectory) := by
  obtain ⟨made, hmade, -⟩ := h.createDirectories fits
  have above : made.find (root ++ step namespaceName) = .ok (some .directory) :=
    FileTree.find_of_createDirectories hmade (List.prefix_append _ _)
  rw [writeJson, dropLast_filePath, hmade]
  dsimp only
  rw [temporaryOf_filePath, if_pos rfl, dropLast_directoryOf, FileTree.writeBytes_directory above]

end ConversationMemory.FileBacked
