import ConversationMemory.Proofs.Entries
import ConversationMemory.Proofs.Record
import ConversationMemory.Proofs.Store.Write

/-!
# A directory that mirrors a store in memory

* `InMemory.Shows`: what the file of a resource says when a directory mirrors a store in memory.
* `Mirrors`: the directory holds the files of all resources in memory, and no others.
* `Mirrors.readRecord`, `Mirrors.readValues`: what is read there is what is in memory.
* **`Mirrors.save`**: a resource that is written to both keeps them mirroring each other.
-/

namespace ConversationMemory

open FileBacked (Family Fits filePath sparePath directoryOf fileName spareName step)
open WrittenPath (IsPlace)

variable {memory later : InMemory} {files : FileBacked} {tree : FileTree} {root : TreePath}
  {family : Family} {namespaceName name : String} {entry : Option FileEntry}

/-! ## Resources in memory -/

/-- The value of a collection as it is written. -/
def valuesJson (entries : Entries String) : Json :=
  .object (entries.map fun (key, value) => (key, .string value))

namespace InMemory

/-- Whether there is a record or a value of a collection. -/
def Has (memory : InMemory) (namespaceName name : String) : Family → Prop
  | .memory => memory.records.get? (namespaceName, name) ≠ none
  | .values kind => ∃ key, memory.values.get? ⟨kind, namespaceName, name, key⟩ ≠ none

/-- What stands at the path of a resource: the record or the sorted values, or nothing. -/
def Shows (memory : InMemory) (namespaceName name : String) : Family → Option FileEntry → Prop
  | .memory, entry =>
    entry = (memory.records.get? (namespaceName, name)).map fun r => .file (Utf8.bytesOf r.toJson.pretty)
  | .values kind, entry => ∃ entries : Entries String, entries.Sorted ∧
    (∀ key, entries.get? key = memory.values.get? ⟨kind, namespaceName, name, key⟩) ∧
    entry = if entries = [] then none else some (.file (Utf8.bytesOf (valuesJson entries).pretty))

/-- Two stores have the same to say about a resource. -/
def AgreesAt (memory later : InMemory) (namespaceName name : String) : Family → Prop
  | .memory => memory.records.get? (namespaceName, name) = later.records.get? (namespaceName, name)
  | .values kind => ∀ key, memory.values.get? ⟨kind, namespaceName, name, key⟩ =
    later.values.get? ⟨kind, namespaceName, name, key⟩

theorem AgreesAt.has (h : memory.AgreesAt later namespaceName name family) :
    memory.Has namespaceName name family ↔ later.Has namespaceName name family := by
  cases family with
  | memory =>
    rw [Has, Has, show memory.records.get? (namespaceName, name) = _ from h]
  | values kind =>
    refine exists_congr fun key => ?_
    rw [h key]

theorem AgreesAt.shows (h : memory.AgreesAt later namespaceName name family)
    (shows' : memory.Shows namespaceName name family entry) :
    later.Shows namespaceName name family entry := by
  cases family with
  | memory =>
    rw [Shows, ← show memory.records.get? (namespaceName, name) = _ from h]
    exact shows'
  | values kind =>
    obtain ⟨entries, sorted, same, hentry⟩ := shows'
    exact ⟨entries, sorted, fun key => (same key).trans (h key), hentry⟩

theorem Shows.has_iff (h : memory.Shows namespaceName name family entry) :
    memory.Has namespaceName name family ↔ ∃ bytes, entry = some (.file bytes) := by
  cases family with
  | memory =>
    rw [Shows] at h
    rw [Has, h]
    cases memory.records.get? (namespaceName, name) with
    | none => simp
    | some r => simp
  | values kind =>
    obtain ⟨entries, -, same, hentry⟩ := h
    rw [hentry]
    constructor
    · rintro ⟨key, hkey⟩
      rw [← same key] at hkey
      have filled : entries ≠ [] := by
        rintro rfl
        exact hkey rfl
      exact ⟨_, if_neg filled⟩
    · rintro ⟨bytes, hbytes⟩
      cases entries with
      | nil => cases hbytes
      | cons first rest =>
        refine ⟨first.1, ?_⟩
        rw [← same, Entries.get?_cons, if_pos rfl]
        intro heq
        cases heq

theorem Shows.not_directory (h : memory.Shows namespaceName name family entry) :
    entry ≠ some .directory := by
  cases family with
  | memory =>
    rw [Shows] at h
    rw [h]
    cases memory.records.get? (namespaceName, name) <;> exact fun heq => by cases heq
  | values kind =>
    obtain ⟨entries, -, -, hentry⟩ := h
    rw [hentry]
    split <;> exact fun heq => by cases heq

end InMemory

/-! ## Paths below a directory -/

/-- Names that lead further down. -/
def IsBelow (names : TreePath) : Prop :=
  names ≠ [] ∧ ∀ name ∈ names, TreePath.isOutside name = false

/-- The names of a resource below the directory of its store. -/
def namesOf (family : Family) (namespaceName name : String) : TreePath :=
  step namespaceName ++ [family.directory, fileName name]

theorem filePath_eq (root : TreePath) (family : Family) (namespaceName name : String) :
    filePath root family namespaceName name = root ++ namesOf family namespaceName name := by
  simp [filePath, directoryOf, namesOf]

theorem sparePath_eq (root : TreePath) (family : Family) (namespaceName name : String) :
    sparePath root family namespaceName name =
      root ++ (step namespaceName ++ [family.directory, spareName name]) := by
  simp [sparePath, directoryOf]

theorem directory_not_isOutside (family : Family) :
    TreePath.isOutside family.directory = false := by
  cases family with
  | memory => decide
  | values kind => cases kind <;> decide

theorem step_not_isOutside (fits : Fits "" namespaceName) :
    ∀ name ∈ step namespaceName, TreePath.isOutside name = false := by
  intro name hmem
  rcases FileBacked.step_cases namespaceName with ⟨-, hnil⟩ | ⟨-, hone⟩
  · rw [hnil] at hmem
    cases hmem
  · rw [hone] at hmem
    rw [List.mem_singleton.1 hmem]
    exact fits.not_isOutside

theorem isBelow_append (fits : Fits "" namespaceName) (family : Family) {last : List String}
    (hlast : ∀ name ∈ last, TreePath.isOutside name = false) :
    IsBelow (step namespaceName ++ family.directory :: last) := by
  refine ⟨by simp, fun name hmem => ?_⟩
  rcases List.mem_append.1 hmem with hmem | hmem
  · exact step_not_isOutside fits name hmem
  · rcases List.mem_cons.1 hmem with rfl | hmem
    · exact directory_not_isOutside family
    · exact hlast name hmem

/-! ## Directories that mirror a store -/

/-- A store in a directory mirrors a store in memory: each resource has its file, each file its
resource, and nothing is in the way of further files. -/
structure Mirrors (files : FileBacked) (memory : InMemory) : Prop where
  home : IsPlace files.tree files.root
  /-- The directory can be opened again. -/
  leads : files.written.directory files.tree = .ok files.root
  free : files.written.text = "" ∨ files.written.refusal? = none
  named : ∀ family namespaceName name, memory.Has namespaceName name family →
    Fits "" namespaceName ∧ Fits ".json.tmp" name ∧ name ≠ "."
  shown : ∀ family namespaceName name, Fits "" namespaceName → Fits ".json.tmp" name →
    memory.Shows namespaceName name family
      (files.tree.get? (filePath files.root family namespaceName name))
  only : ∀ names bytes, IsBelow names → files.tree.get? (files.root ++ names) = some (.file bytes) →
    ∃ family namespaceName name, memory.Has namespaceName name family ∧
      names = namesOf family namespaceName name
  reachable : ∀ family namespaceName name, memory.Has namespaceName name family →
    ∀ q, q ≠ [] → q <+: directoryOf files.root family namespaceName →
      files.tree.get? q = some .directory
  spare : ∀ family namespaceName name, Fits "" namespaceName →
    files.tree.get? (sparePath files.root family namespaceName name) ≠ some .directory

namespace Mirrors

theorem not_file (h : Mirrors files memory) {names : TreePath} (below : IsBelow names)
    (differs : ∀ family namespaceName name,
      files.root ++ names ≠ filePath files.root family namespaceName name) (bytes : List UInt8) :
    files.tree.get? (files.root ++ names) ≠ some (.file bytes) := by
  intro hfile
  obtain ⟨family, namespaceName, name, -, rfl⟩ := h.only names bytes below hfile
  exact differs family namespaceName name (filePath_eq _ _ _ _).symm

theorem isOrderly (h : Mirrors files memory) (fits : Fits "" namespaceName)
    (nameFits : Fits ".json.tmp" name) (family : Family) :
    FileBacked.IsOrderly files.tree files.root family namespaceName name where
  home := h.home
  directories := by
    intro q hq hle
    have hfront : files.root <+: directoryOf files.root family namespaceName := by
      rw [directoryOf, List.append_assoc]
      exact List.prefix_append _ _
    rcases List.prefix_or_prefix_of_prefix hle hfront with hroot | ⟨names, rfl⟩
    · exact .inr (FileTree.get?_of_walk h.home.walks q hq hroot)
    · by_cases hnames : names = []
      · subst hnames
        rw [List.append_nil] at hq ⊢
        exact .inr (FileTree.get?_of_walk h.home.walks _ hq (List.prefix_refl _))
      · have below : IsBelow names := by
          rw [directoryOf, List.append_assoc, List.prefix_append_right_inj] at hle
          refine ⟨hnames, fun name hmem => ?_⟩
          exact (isBelow_append fits family (by simp)).2 name (hle.subset hmem)
        have noFile := h.not_file below fun family' namespaceName' name' heq => by
          rw [heq] at hle
          exact FileBacked.not_prefix_directoryOf (FileBacked.hasPoint_fileName name') hle
        cases hget : files.tree.get? (files.root ++ names) with
        | none => exact .inl rfl
        | some entry =>
          cases entry with
          | directory => exact .inr rfl
          | file bytes => exact absurd hget (noFile bytes)
  spare := by
    have below : IsBelow (step namespaceName ++ [family.directory, spareName name]) :=
      isBelow_append fits family (by simpa using FileBacked.spareName_not_isOutside name)
    have noFile := h.not_file below fun family' namespaceName' name' heq => by
      rw [← sparePath_eq] at heq
      exact FileBacked.filePath_ne_sparePath heq.symm
    have noDirectory := h.spare family namespaceName name fits
    rw [← sparePath_eq] at noFile
    cases hget : files.tree.get? (sparePath files.root family namespaceName name) with
    | none => rfl
    | some entry =>
      cases entry with
      | directory => exact absurd hget noDirectory
      | file bytes => exact absurd hget (noFile bytes)
  goal := (h.shown family namespaceName name fits nameFits).not_directory

/-! ## Reading -/

theorem readText (h : Mirrors files memory) (fits : Fits "" namespaceName)
    (nameFits : Fits ".json.tmp" name) (family : Family) :
    files.tree.readText (filePath files.root family namespaceName name) =
      match files.tree.get? (filePath files.root family namespaceName name) with
      | some (.file bytes) => FileTree.textOf bytes
      | _ => .error .notFound := by
  have shows' := h.shown family namespaceName name fits nameFits
  obtain ⟨allFit, -⟩ := FileBacked.filePath_fits h.home fits nameFits family
  cases hget : files.tree.get? (filePath files.root family namespaceName name) with
  | none => exact FileBacked.readText_of_none allFit (h.isOrderly fits nameFits family).directories hget
  | some entry =>
    cases entry with
    | directory => exact absurd hget shows'.not_directory
    | file bytes =>
      rw [hget] at shows'
      have reachable := h.reachable family namespaceName name (shows'.has_iff.2 ⟨bytes, rfl⟩)
      have found := FileBacked.find_concat allFit reachable
      rw [← filePath, hget] at found
      rw [FileTree.readText_eq, found]

theorem readRecord (h : Mirrors files memory) (fits : Fits "" namespaceName)
    (nameFits : Fits ".json.tmp" name) :
    files.readRecord (filePath files.root .memory namespaceName name) =
      .ok (memory.records.get? (namespaceName, name)) := by
  have shows' : files.tree.get? (filePath files.root .memory namespaceName name) =
      (memory.records.get? (namespaceName, name)).map fun r => .file (Utf8.bytesOf r.toJson.pretty) :=
    h.shown .memory namespaceName name fits nameFits
  rw [FileBacked.readRecord, FileBacked.readFile, h.readText fits nameFits, shows']
  cases memory.records.get? (namespaceName, name) with
  | none => rfl
  | some r =>
    dsimp only [Option.map]
    rw [FileTree.textOf_bytesOf]
    dsimp only
    rw [r.decodeText_pretty]

theorem readValues (h : Mirrors files memory) (fits : Fits "" namespaceName)
    (nameFits : Fits ".json.tmp" name) (kind : ValueKind) :
    ∃ entries : Entries String, entries.Sorted ∧
      (∀ key, entries.get? key = memory.values.get? ⟨kind, namespaceName, name, key⟩) ∧
      files.readValues (filePath files.root (.values kind) namespaceName name) =
        .ok (if entries = [] then none else some entries) := by
  obtain ⟨entries, sorted, same, hentry⟩ := h.shown (.values kind) namespaceName name fits nameFits
  refine ⟨entries, sorted, same, ?_⟩
  rw [FileBacked.readValues, FileBacked.readFile, h.readText fits nameFits, hentry]
  by_cases hnil : entries = []
  · rw [if_pos hnil, if_pos hnil]
  · rw [if_neg hnil, if_neg hnil]
    dsimp only
    rw [FileTree.textOf_bytesOf]
    dsimp only
    rw [valuesJson, Json.Decoder.decodeText_textMap sorted]

/-! ## Writing -/

/-- **A resource that is written to both keeps them mirroring each other.** -/
theorem save (h : Mirrors files memory) (fits : Fits "" namespaceName)
    (nameFits : Fits ".json.tmp" name) (point : name ≠ ".") (value : Json)
    (shows' : later.Shows namespaceName name family (some (.file (Utf8.bytesOf value.pretty))))
    (others : ∀ family' namespaceName' name',
      ¬ (family' = family ∧ namespaceName' = namespaceName ∧ name' = name) →
        memory.AgreesAt later namespaceName' name' family') :
    ∃ tree, FileBacked.writeJson files.tree (filePath files.root family namespaceName name) value =
        (.ok (), tree) ∧
      Mirrors { files with tree } later := by
  have orderly := h.isOrderly fits nameFits family
  obtain ⟨tree, wrote, views⟩ := FileBacked.writeJson_eq orderly fits nameFits point value
  have has : later.Has namespaceName name family := shows'.has_iff.2 ⟨_, rfl⟩
  have keeps (q : TreePath) (hq : files.tree.get? q = some .directory) :
      tree.get? q = some .directory := by
    rw [views, if_neg]
    · split
      · rfl
      · exact hq
    · rintro rfl
      exact orderly.goal hq
  -- what is neither the file nor on the way to it stays
  have stays {last : String} (point : FileBacked.HasPoint last) (family' : Family)
      (namespaceName' : String)
      (differs : directoryOf files.root family' namespaceName' ++ [last] ≠
        filePath files.root family namespaceName name) :
      tree.get? (directoryOf files.root family' namespaceName' ++ [last]) =
        files.tree.get? (directoryOf files.root family' namespaceName' ++ [last]) := by
    rw [views, if_neg differs, if_neg fun hp => FileBacked.not_prefix_directoryOf point hp.2]
  refine ⟨tree, wrote, ?_⟩
  constructor
  case home => exact h.home.keeps keeps
  case leads => exact WrittenPath.follow_keeps h.leads keeps
  case free => exact h.free
  case named =>
    intro family' namespaceName' name' has'
    by_cases same : family' = family ∧ namespaceName' = namespaceName ∧ name' = name
    · obtain ⟨rfl, rfl, rfl⟩ := same
      exact ⟨fits, nameFits, point⟩
    · exact h.named _ _ _ ((others _ _ _ same).has.2 has')
  case shown =>
    intro family' namespaceName' name' fits' nameFits'
    by_cases same : family' = family ∧ namespaceName' = namespaceName ∧ name' = name
    · obtain ⟨rfl, rfl, rfl⟩ := same
      rw [views, if_pos rfl]
      exact shows'
    · have unchanged := stays (FileBacked.hasPoint_fileName name') family' namespaceName'
        fun heq => same (FileBacked.filePath_inj.1 heq)
      rw [filePath, unchanged]
      exact (others _ _ _ same).shows (h.shown _ _ _ fits' nameFits')
  case only =>
    intro names bytes below hfile
    rw [views] at hfile
    split at hfile
    · rename_i heq
      rw [filePath_eq] at heq
      exact ⟨family, namespaceName, name, has, List.append_cancel_left heq⟩
    · rename_i differs
      split at hfile
      · cases hfile
      · obtain ⟨family', namespaceName', name', has', rfl⟩ := h.only names bytes below hfile
        refine ⟨family', namespaceName', name', ?_, rfl⟩
        by_cases same : family' = family ∧ namespaceName' = namespaceName ∧ name' = name
        · obtain ⟨rfl, rfl, rfl⟩ := same
          exact has
        · exact (others _ _ _ same).has.1 has'
  case reachable =>
    intro family' namespaceName' name' has' q hq hle
    by_cases same : family' = family ∧ namespaceName' = namespaceName ∧ name' = name
    · obtain ⟨rfl, rfl, rfl⟩ := same
      rw [views, if_neg, if_pos ⟨hq, hle⟩]
      rintro rfl
      exact FileBacked.not_prefix_directoryOf (FileBacked.hasPoint_fileName _) hle
    · exact keeps q (h.reachable _ _ _ ((others _ _ _ same).has.2 has') q hq hle)
  case spare =>
    intro family' namespaceName' name' fits'
    have unchanged := stays (FileBacked.hasPoint_spareName name') family' namespaceName'
      fun heq => FileBacked.filePath_ne_sparePath heq.symm
    rw [sparePath, unchanged]
    exact h.spare _ _ _ fits'

end Mirrors

end ConversationMemory
