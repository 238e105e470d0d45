import ConversationMemory.Proofs.FileTree.Growth
import ConversationMemory.Proofs.Store.Refinement
import ConversationMemory.Proofs.Store.Reread

/-!
# Writes that fail

* `find_eq_file_iff`: in a tree in which everything stands in a directory, a file is found exactly
  when it stands there and the names of its path can be names.
* `grows_of_writeJson`: no more happens than that directories are made when a file cannot be written
  that was not found to be a directory before. The temporary file is never left behind, for where it
  can be written it can take the place of the file.
* `Grows.get_iff`, `Grows.configValue_iff`: the same records and values are read when only directories
  were made.
* `written_of_take`: what comes of a step that writes. `isRooted_of_take`: everything still stands
  in a directory.
* **`failed_write_keeps`**: a write of the store that fails keeps all records and values.
-/

namespace ConversationMemory

open FileTree (IsRooted)

variable {tree tree' : FileTree} {path root : TreePath} {bytes : List UInt8}
  {store after : FileBacked} {family : FileBacked.Family} {namespaceName name : String}
  {e : StoreError}

namespace FileBacked

/-! ## Finding files -/

theorem allFit_of_find {entry : Option FileEntry} (h : tree.find path = .ok entry) : AllFit path := by
  rw [FileTree.find] at h
  split at h
  · cases h
  · rename_i clean
    refine fun name hmem => ⟨FileTree.short_of_walk h name hmem, fun nul => clean ?_⟩
    rw [List.any_eq_true]
    exact ⟨name, hmem, by rwa [String.contains_char_eq, decide_eq_true_iff]⟩

theorem find_of_isRooted (rooted : tree.IsRooted) (fits : AllFit path)
    (found : tree.get? path ≠ none) : tree.find path = .ok (tree.get? path) := by
  rcases List.eq_nil_or_concat path with rfl | ⟨names, last, rfl⟩
  · rfl
  · rw [List.concat_eq_append] at fits found ⊢
    refine find_concat fits fun q _ le =>
      rooted.directory found (le.trans (List.prefix_append _ _)) ?_
    rintro rfl
    exact not_prefix_concat _ _ le

/-- **A file is found exactly when it stands there and its names can stand in a path.** -/
theorem find_eq_file_iff (rooted : tree.IsRooted) :
    tree.find path = .ok (some (.file bytes)) ↔ tree.get? path = some (.file bytes) ∧ AllFit path := by
  constructor
  · exact fun found => ⟨FileTree.get?_of_find found, allFit_of_find found⟩
  · rintro ⟨there, fits⟩
    rw [find_of_isRooted rooted fits, there]
    rw [there]
    exact Option.some_ne_none _

/-! ## Writing a file -/

theorem find_of_writeBytes (h : tree.writeBytes path bytes = (.ok (), tree')) :
    ∃ entry, tree.find path = .ok entry ∧ entry ≠ some .directory := by
  unfold FileTree.writeBytes at h
  split at h
  · cases h
  · cases h
  · rename_i entry free found
    exact ⟨entry, found, free⟩

theorem eq_of_writeBytes {e : IoError} (h : tree.writeBytes path bytes = (.error e, tree')) :
    tree' = tree := by
  unfold FileTree.writeBytes at h
  split at h
  · exact (Prod.mk.inj h).2.symm
  · exact (Prod.mk.inj h).2.symm
  · cases h

theorem allFit_filePath (fits : AllFit (sparePath root family namespaceName name)) :
    AllFit (filePath root family namespaceName name) := by
  intro other hmem
  rcases List.mem_append.1 hmem with hmem | hmem
  · exact fits other (List.mem_append_left _ hmem)
  · rw [List.mem_singleton.1 hmem]
    obtain ⟨short, clean⟩ :=
      fits (spareName name) (List.mem_append_right _ (List.mem_singleton_self _))
    refine ⟨Nat.le_trans (length_le_append (fileName name) ".tmp") short, fun nul => clean ?_⟩
    rw [spareName, String.toList_append]
    exact List.mem_append_left _ nul

/-- Once the file beside it has been written, a file is written that was not found to be a directory
before. -/
theorem rename_of_beside {made beside : FileTree} (rooted : tree.IsRooted)
    (read : tree.readText (filePath root family namespaceName name) ≠ .error .isDirectory)
    (hmade : tree.createDirectories (directoryOf root family namespaceName) = (.ok (), made))
    (hwrite : made.writeBytes (sparePath root family namespaceName name) bytes = (.ok (), beside)) :
    (beside.rename (sparePath root family namespaceName name)
      (filePath root family namespaceName name)).1 = .ok () := by
  obtain ⟨entry, spare, free⟩ := find_of_writeBytes hwrite
  obtain ⟨written, wrote, views⟩ := FileTree.writeBytes_view spare free bytes
  obtain rfl : written = beside := (Prod.mk.inj (wrote.symm.trans hwrite)).2
  have others (p : TreePath) (h : p ≠ sparePath root family namespaceName name) :
      written.get? p = made.get? p := by rw [views, if_neg h]
  have fits := allFit_filePath (allFit_of_find spare)
  -- its directory has been made
  have found : made.find (filePath root family namespaceName name) =
      .ok (made.get? (filePath root family namespaceName name)) :=
    find_concat fits fun q _ le =>
      FileTree.get?_of_find (FileTree.find_of_createDirectories hmade le)
  have source := find_of_beside spare others
  have goal := find_of_beside found others
  rw [← sparePath, views, if_pos rfl] at source
  rw [← filePath, others _ filePath_ne_sparePath] at goal
  -- and it has not been made a directory
  have same : made.get? (filePath root family namespaceName name) =
      tree.get? (filePath root family namespaceName name) :=
    FileTree.createDirectories_elsewhere hmade (not_prefix_concat _ _)
  have noDirectory : made.get? (filePath root family namespaceName name) ≠ some .directory := by
    intro directory
    rw [same] at directory
    refine read ?_
    rw [FileTree.readText_eq, find_of_isRooted rooted fits, directory]
    rw [directory]
    exact Option.some_ne_none _
  rw [FileTree.rename_ok source goal noDirectory]

/-- **A file that cannot be written, and was not found to be a directory before, leaves the tree as it
was but for directories.** -/
theorem grows_of_writeJson {value : Json} (rooted : tree.IsRooted)
    (read : tree.readText (filePath root family namespaceName name) ≠ .error .isDirectory)
    (h : writeJson tree (filePath root family namespaceName name) value = (.error e, tree')) :
    tree.Grows tree' ∧ tree'.IsRooted := by
  have stages := writeJson_stages tree (filePath root family namespaceName name) value
  rw [h] at stages
  cases stages with
  | noDirectory made => exact ⟨FileTree.grows_createDirectories made, rooted.createDirectories made⟩
  | notWritten made wrote =>
    rw [eq_of_writeBytes wrote]
    exact ⟨FileTree.grows_createDirectories made, rooted.createDirectories made⟩
  | notRenamed made wrote moved =>
    -- a temporary file that has been written takes the place of the file
    rw [dropLast_filePath] at made
    rw [temporaryOf_filePath] at wrote moved
    by_cases point : name = "."
    · rw [if_pos point, FileTree.writeBytes_directory (FileTree.find_of_createDirectories made
        (List.dropLast_prefix _))] at wrote
      cases wrote
    · rw [if_neg point] at wrote moved
      have renamed := rename_of_beside rooted read made wrote
      rw [moved] at renamed
      cases renamed

theorem isRooted_of_writeJson {value : Json} {result : Except StoreError Unit}
    (rooted : tree.IsRooted) (h : writeJson tree path value = (result, tree')) : tree'.IsRooted := by
  have stages := writeJson_stages tree path value
  rw [h] at stages
  cases stages with
  | noDirectory made => exact rooted.createDirectories made
  | notWritten made wrote => exact (rooted.createDirectories made).writeBytes wrote
  | notRenamed made wrote moved =>
    exact ((rooted.createDirectories made).writeBytes wrote).rename moved
  | renamed made wrote moved =>
    exact ((rooted.createDirectories made).writeBytes wrote).rename moved

/-! ## Stores in which directories were made -/

/-- No more has happened to a store than that directories were made. -/
structure Grows (store after : FileBacked) : Prop where
  root : after.root = store.root
  tree : store.tree.Grows after.tree
  rooted : after.tree.IsRooted

theorem Grows.refl (rooted : store.tree.IsRooted) : store.Grows store :=
  ⟨rfl, .refl store.tree, rooted⟩

theorem Grows.readFile_iff {α : Type} {d : Json.Decoder α} {a : α} (h : store.Grows after)
    (rooted : store.tree.IsRooted) :
    readFile after.tree d path = .ok (some a) ↔ readFile store.tree d path = .ok (some a) := by
  simp only [readFile_eq_some, find_eq_file_iff h.rooted, find_eq_file_iff rooted, h.tree.file_iff]

theorem configValue_eq_some {key : ValueKey} {value : String} :
    store.configValue key = .ok (some value) ↔
      ∃ path entries, store.valuesPath key.kind key.name key.namespaceName = .ok path ∧
        store.readValues path = .ok (some entries) ∧ entries.get? key.key = some value := by
  unfold configValue
  constructor
  · intro h
    split at h
    · cases h
    · rename_i path located
      cases read : store.readValues path with
      | error fault =>
        rw [read] at h
        cases h
      | ok found =>
        rw [read] at h
        cases found with
        | none => cases h
        | some entries => exact ⟨path, entries, located, read, Except.ok.inj h⟩
  · rintro ⟨path, entries, located, read, there⟩
    rw [located]
    dsimp only
    rw [read]
    exact congrArg Except.ok there

theorem Grows.get_iff {r : MemoryRecord} (h : store.Grows after) (rooted : store.tree.IsRooted) :
    after.get name namespaceName = .ok r ↔ store.get name namespaceName = .ok r := by
  simp only [get_eq_ok, recordPath, readRecord, h.root, h.readFile_iff rooted]

theorem Grows.configValue_iff {key : ValueKey} {value : String} (h : store.Grows after)
    (rooted : store.tree.IsRooted) :
    after.configValue key = .ok (some value) ↔ store.configValue key = .ok (some value) := by
  simp only [configValue_eq_some, valuesPath, readValues, h.root, h.readFile_iff rooted]

end FileBacked

/-! ## Steps of a store -/

/-- The steps that write. -/
def StoreStep.Writes : StoreStep → Prop
  | put _ | updateStatus _ | setValue _ _ => True
  | get _ _ | configValue _ | reopen => False

namespace FileBacked

theorem readText_of_readFile {α : Type} {d : Json.Decoder α} {found : Option α}
    (h : readFile tree d path = .ok found) : tree.readText path ≠ .error .isDirectory := by
  intro directory
  rw [readFile, directory] at h
  cases h

/-- What comes of a step that writes: the store is as it was, or a file has been written, or has not,
that could be read before. Only a file that has not been written is answered with a failure. -/
inductive Written (store : FileBacked) : StoreAnswer × FileBacked → Prop
  | kept (answer : StoreAnswer) : Written store (answer, store)
  | saved {family : Family} {namespaceName name : String} {value : Json} {tree : FileTree}
      {result : Except StoreError Unit} {answer : StoreAnswer}
      (read : store.tree.readText (filePath store.root family namespaceName name) ≠
        .error .isDirectory)
      (wrote : writeJson store.tree (filePath store.root family namespaceName name) value =
        (result, tree))
      (failed : ∀ e, answer = .failed e → result = .error e) :
      Written store (answer, { store with tree })

theorem written_of_save {α : Type} {shown : α → StoreAnswer} {value : Json} {result : α}
    (proper : ∀ a e, shown a ≠ .failed e)
    (read : store.tree.readText (filePath store.root family namespaceName name) ≠
      .error .isDirectory) :
    Written store ((store.save (filePath store.root family namespaceName name) value result).map
      (.ofEnding shown) id) := by
  unfold save
  split
  · rename_i wrote
    refine .saved read wrote fun e answered => ?_
    rw [StoreAnswer.failed.inj answered]
  · rename_i wrote
    exact .saved read wrote fun e answered => absurd answered (proper result e)

theorem written_of_take {step : StoreStep} (writes : step.Writes) :
    Written store (store.take step) := by
  cases step with
  | put record =>
    rw [take, put]
    cases located : store.recordPath record.metadata.name record.metadata.namespaceName with
    | error e => exact .kept _
    | ok path =>
      obtain ⟨-, -, rfl⟩ := pathOf_eq_ok.1 located
      dsimp only
      split
      · exact .kept _
      · rename_i read
        split
        · exact .kept _
        · exact written_of_save (fun _ _ h => StoreAnswer.noConfusion h) (readText_of_readFile read)
  | updateStatus record =>
    rw [take, updateStatus]
    rcases withStatus_cases store record with
      ⟨e, failed⟩ | crashed | ⟨stored, version, path, found, current, next⟩
    · rw [failed]
      exact .kept _
    · rw [crashed]
      exact .kept _
    · rw [withStatus_of_current path found current next]
      exact written_of_save (fun _ _ h => StoreAnswer.noConfusion h) (readText_of_readFile found)
  | setValue key value =>
    rw [take, setValue]
    cases located : store.valuesPath key.kind key.name key.namespaceName with
    | error e => exact .kept _
    | ok path =>
      obtain ⟨-, -, rfl⟩ := pathOf_eq_ok.1 located
      dsimp only
      split
      · exact .kept _
      · rename_i read
        exact written_of_save (fun _ _ h => StoreAnswer.noConfusion h) (readText_of_readFile read)
  | get name namespaceName => exact writes.elim
  | configValue key => exact writes.elim
  | reopen => exact writes.elim

/-- **A step that writes keeps everything in a directory.** -/
theorem isRooted_of_take {step : StoreStep} (writes : step.Writes) (rooted : store.tree.IsRooted) :
    (store.take step).2.tree.IsRooted := by
  have written : Written store (store.take step) := written_of_take writes
  generalize store.take step = outcome at written
  cases written with
  | kept answer => exact rooted
  | saved read wrote failed => exact isRooted_of_writeJson rooted wrote

theorem grows_of_take {step : StoreStep} (writes : step.Writes) (rooted : store.tree.IsRooted)
    (h : store.take step = (.failed e, after)) : store.Grows after := by
  have written : Written store (store.take step) := written_of_take writes
  rw [h] at written
  cases written with
  | kept answer => exact .refl rooted
  | saved read wrote failed =>
    rw [failed e rfl] at wrote
    obtain ⟨grows, stays⟩ := grows_of_writeJson rooted read wrote
    exact ⟨rfl, grows, stays⟩

/-- **A write that fails keeps what a store holds.** Whatever stands in the tree, the same records and
values are read afterwards, and the same files stand in it. What has been added are directories. -/
theorem failed_write_keeps {step : StoreStep} (writes : step.Writes) (rooted : store.tree.IsRooted)
    (h : store.take step = (.failed e, after)) :
    (∀ name namespaceName r,
      after.get name namespaceName = .ok r ↔ store.get name namespaceName = .ok r) ∧
    (∀ key value,
      after.configValue key = .ok (some value) ↔ store.configValue key = .ok (some value)) ∧
    (∀ path bytes,
      after.tree.get? path = some (.file bytes) ↔ store.tree.get? path = some (.file bytes)) ∧
    (∀ path, after.tree.get? path = store.tree.get? path ∨
      store.tree.get? path = none ∧ after.tree.get? path = some .directory) ∧
    after.tree.IsRooted :=
  have grows := grows_of_take writes rooted h
  ⟨fun _ _ _ => grows.get_iff rooted, fun _ _ => grows.configValue_iff rooted,
    fun _ _ => grows.tree.file_iff, grows.tree, grows.rooted⟩

/-! ## An example -/

/-- A store in which one record can be read, one is torn, one is no text, and a file stands in place
of a directory. -/
def worn : FileBacked where
  tree := ⟨[(["team"], .directory), (["team", "memories"], .directory),
    (["team", "memories", "chat.json"], .file (Utf8.bytesOf MemoryRecord.sparseText)),
    (["team", "memories", "torn.json"], .file (Utf8.bytesOf "[[")),
    (["team", "memories", "blob.json"], .file [0x5b, 0xff]), (["team", "secrets"], .file [])]⟩
  root := []

theorem worn_isRooted : worn.tree.IsRooted := FileTree.isRooted_of_entries (by decide)

/-- A record of which only the name is said. -/
def bare (namespaceName name : String) : MemoryRecord where
  metadata := { name, namespaceName }
  spec := { address := {} }

theorem worn_chat : worn.get "chat" "team" = .ok MemoryRecord.sparse := by
  have found : worn.tree.find ["team", "memories", "chat.json"] =
      .ok (some (.file (Utf8.bytesOf MemoryRecord.sparseText))) :=
    (FileTree.find_of_clean _ (by decide)).trans rfl
  have path : worn.recordPath "chat" "team" = .ok ["team", "memories", "chat.json"] := rfl
  exact get_eq_ok.2
    ⟨_, path, readFile_eq_some.2 ⟨_, found, reads_bytesOf MemoryRecord.decodeText_sparse⟩⟩

theorem worn_point :
    ∃ after, worn.take (.put (bare "other" ".")) = (.failed (.io .isDirectory), after) ∧
      after.tree.get? ["other", "memories"] = some .directory := by
  have found : worn.tree.find ["other", "memories", "..json"] = .error .notFound :=
    (FileTree.find_of_clean _ (by decide)).trans rfl
  have nothing : worn.tree.readText ["other", "memories", "..json"] = .error .notFound := by
    rw [FileTree.readText_eq, found]
  obtain ⟨made, hmade, directory, above⟩ :
      ∃ made, worn.tree.createDirectories ["other", "memories"] = (.ok (), made) ∧
        made.get? ["other", "memories"] = some .directory ∧
        made.find ["other"] = .ok (some .directory) := by
    refine ⟨_, (if_neg (FileTree.not_any_nul (by decide))).trans rfl, rfl, ?_⟩
    exact (FileTree.find_of_clean _ (by decide)).trans rfl
  refine ⟨{ worn with tree := made }, ?_, directory⟩
  have path : worn.recordPath "." "other" = .ok ["other", "memories", "..json"] := rfl
  have beside : temporaryOf ["other", "memories", "..json"] = ["other"] := rfl
  have above' : List.dropLast ["other", "memories", "..json"] = ["other", "memories"] := rfl
  simp only [take, put, bare, path, readRecord, readFile, nothing, Option.elim,
    save, writeJson, above', hmade, beside, FileTree.writeBytes_directory above]
  rfl

theorem worn_torn :
    ∃ fault, worn.take (.updateStatus (bare "team" "torn")) = (.failed (.malformed fault), worn) := by
  have found : worn.tree.find ["team", "memories", "torn.json"] =
      .ok (some (.file (Utf8.bytesOf "[["))) := (FileTree.find_of_clean _ (by decide)).trans rfl
  have torn : worn.tree.readText ["team", "memories", "torn.json"] = .ok "[[" :=
    FileTree.readText_eq_ok.2 ⟨_, found, Utf8.textOf?_bytesOf _⟩
  have path : worn.recordPath "torn" "team" = .ok ["team", "memories", "torn.json"] := rfl
  obtain ⟨fault, refused⟩ : ∃ fault, MemoryRecord.decoder.decodeText "[[" = .error fault := ⟨_, rfl⟩
  refine ⟨fault, ?_⟩
  simp only [take, updateStatus, withStatus, bare, path, readRecord, readFile, torn, refused]
  rfl

theorem worn_blob :
    worn.take (.put (bare "team" "blob")) = (.failed (.io .notText), worn) := by
  have found : worn.tree.find ["team", "memories", "blob.json"] = .ok (some (.file [0x5b, 0xff])) :=
    (FileTree.find_of_clean _ (by decide)).trans rfl
  have blob : worn.tree.readText ["team", "memories", "blob.json"] = .error .notText := by
    rw [FileTree.readText_eq, found]
    rfl
  have path : worn.recordPath "blob" "team" = .ok ["team", "memories", "blob.json"] := rfl
  simp only [take, put, bare, path, readRecord, readFile, blob]
  rfl

theorem worn_below : worn.take (.setValue ⟨.secret, "team", "keys", "url"⟩ "") =
    (.failed (.io .notDirectory), worn) := by
  have found : worn.tree.find ["team", "secrets", "keys.json"] = .error .notDirectory :=
    (FileTree.find_of_clean _ (by decide)).trans rfl
  have blocked : worn.tree.readText ["team", "secrets", "keys.json"] = .error .notDirectory := by
    rw [FileTree.readText_eq, found]
  have path : worn.valuesPath .secret "keys" "team" = .ok ["team", "secrets", "keys.json"] := rfl
  simp only [take, setValue, path, readValues, readFile, blocked]
  rfl

/-- No status can be written to a text that is no record, no record in place of bytes that are no
text, and no value below a file. Nor can a record be stored under the point, though its directories
are made. -/
theorem failed_write_keeps_worn :
    worn.get "chat" "team" = .ok MemoryRecord.sparse ∧
    (∃ after, worn.take (.put (bare "other" ".")) = (.failed (.io .isDirectory), after) ∧
      after.get "chat" "team" = .ok MemoryRecord.sparse ∧
      after.tree.get? ["other", "memories"] = some .directory) ∧
    (∃ fault after, worn.take (.updateStatus (bare "team" "torn")) =
        (.failed (.malformed fault), after) ∧
      after.get "chat" "team" = .ok MemoryRecord.sparse) ∧
    (∃ after, worn.take (.put (bare "team" "blob")) = (.failed (.io .notText), after) ∧
      after.get "chat" "team" = .ok MemoryRecord.sparse ∧
      after.tree.get? ["team", "memories", "blob.json"] = some (.file [0x5b, 0xff])) ∧
    ∃ after, worn.take (.setValue ⟨.secret, "team", "keys", "url"⟩ "") =
        (.failed (.io .notDirectory), after) ∧
      after.get "chat" "team" = .ok MemoryRecord.sparse := by
  obtain ⟨after, point, made⟩ := worn_point
  obtain ⟨fault, torn⟩ := worn_torn
  refine ⟨worn_chat, ⟨after, point, ?_, made⟩, ⟨fault, _, torn, ?_⟩, ⟨_, worn_blob, ?_, ?_⟩,
    ⟨_, worn_below, ?_⟩⟩
  · exact ((failed_write_keeps (by trivial) worn_isRooted point).1 _ _ _).2 worn_chat
  · exact ((failed_write_keeps (by trivial) worn_isRooted torn).1 _ _ _).2 worn_chat
  · exact ((failed_write_keeps (by trivial) worn_isRooted worn_blob).1 _ _ _).2 worn_chat
  · exact ((failed_write_keeps (by trivial) worn_isRooted worn_blob).2.2.1 _ _).2 rfl
  · exact ((failed_write_keeps (by trivial) worn_isRooted worn_below).1 _ _ _).2 worn_chat

end FileBacked

end ConversationMemory
