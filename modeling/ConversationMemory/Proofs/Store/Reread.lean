import ConversationMemory.Proofs.Store.Rewrite
import ConversationMemory.Proofs.Store.Write

/-!
# What a store writes, it reads

* `readText_of_writeJson`: after a write the file says what was written.
* `readRecord_of_save`: so a record that has been saved is read again.
* `get_of_put`, `get_of_updateStatus`: what a store answers to a write is what it reads from then on.
* **`reads_what_was_written`**: both written forms of a record are decoded as the record, and a file
  that is written anew says the record that was read from it.
-/

namespace ConversationMemory

variable {store after : FileBacked} {path : TreePath} {r record answer : MemoryRecord}

theorem MemoryRecord.decodeText_compact (r : MemoryRecord) :
    MemoryRecord.decoder.decodeText r.toJson.compact = .ok r :=
  r.decodeText_toJson (by simpa [Json.compact] using Json.compactChars_spells r.toJson)

namespace FileBacked

/-! ## Single files -/

theorem readText_of_writeJson {tree after : FileTree} {value : Json}
    (h : writeJson tree path value = (.ok (), after)) : after.readText path = .ok value.pretty := by
  have stages := writeJson_stages tree path value
  rw [h] at stages
  cases stages with
  | renamed made wrote moved =>
    obtain ⟨bytes, source, found⟩ := FileTree.find_of_rename moved
    rw [FileTree.get?_of_writeBytes wrote] at source
    obtain rfl : Utf8.bytesOf value.pretty = bytes := FileEntry.file.inj (Option.some.inj source)
    exact FileTree.readText_eq_ok.2 ⟨_, found, Utf8.textOf?_bytesOf _⟩

theorem readRecord_of_save {α : Type} {result : α}
    (h : store.save path r.toJson result = (.done result, after)) :
    after.readRecord path = .ok (some r) := by
  unfold save at h
  split at h
  · cases h
  · rename_i tree hwrite
    obtain rfl : { store with tree } = after := (Prod.mk.inj h).2
    rw [readRecord, readFile, readText_of_writeJson hwrite]
    dsimp only
    rw [r.decodeText_pretty]

theorem root_of_save {α : Type} {value : Json} {result : α} {ending : Ending StoreError α}
    (h : store.save path value result = (ending, after)) : after.root = store.root := by
  unfold save at h
  split at h <;> cases h <;> rfl

/-! ## The operations -/

theorem get_eq_ok {name namespaceName : String} :
    store.get name namespaceName = .ok r ↔
      ∃ path, store.recordPath name namespaceName = .ok path ∧
        store.readRecord path = .ok (some r) := by
  constructor
  · intro h
    unfold get at h
    split at h
    · cases h
    · rename_i path located
      split at h
      · cases h
      · cases h
      · rename_i read
        cases h
        exact ⟨path, located, read⟩
  · rintro ⟨path, located, read⟩
    rw [get, located]
    dsimp only
    rw [read]

theorem get_of_save {name namespaceName : String}
    (located : store.recordPath name namespaceName = .ok path)
    (h : store.save path r.toJson r = (.done r, after)) : after.get name namespaceName = .ok r := by
  refine get_eq_ok.2 ⟨path, ?_, readRecord_of_save h⟩
  rw [recordPath, root_of_save h]
  exact located

theorem result_of_save {α : Type} {value : Json} {result given : α}
    (h : store.save path value given = (.done result, after)) : result = given := by
  unfold save at h
  split at h
  · cases h
  · cases h
    rfl

theorem get_of_put (h : store.put record = (.done answer, after)) :
    (∃ version, answer = record.atVersion version) ∧
      after.get record.metadata.name record.metadata.namespaceName = .ok answer := by
  unfold put at h
  cases hpath : store.recordPath record.metadata.name record.metadata.namespaceName with
  | error e =>
    simp only [hpath] at h
    cases h
  | ok path =>
    simp only [hpath] at h
    split at h
    · cases h
    · split at h
      · cases h
      · rename_i version _
        obtain rfl := result_of_save h
        exact ⟨⟨version, rfl⟩, get_of_save hpath h⟩

/-- A status that was written is read from then on, with the rest of the record as it was read
before. -/
theorem get_of_updateStatus (h : store.updateStatus record = (.done answer, after)) :
    (∃ stored version, store.get record.metadata.name record.metadata.namespaceName = .ok stored ∧
      Store.nextVersion? stored.metadata.resourceVersion = some version ∧
      answer = { stored with status := record.status }.atVersion version) ∧
      after.get record.metadata.name record.metadata.namespaceName = .ok answer := by
  rcases withStatus_cases store record with
    ⟨e, failed⟩ | crashed | ⟨stored, version, path, found, current, next⟩
  · rw [updateStatus, failed] at h
    cases h
  · rw [updateStatus, crashed] at h
    cases h
  · rw [updateStatus, withStatus_of_current path found current next] at h
    obtain rfl := result_of_save h
    exact ⟨⟨stored, version, get_eq_ok.2 ⟨_, path, found⟩, next, rfl⟩, get_of_save path h⟩

end FileBacked

/-- **What has been written is read.** Both written forms of a record are decoded as the record, and so
is what becomes of any text that a record is decoded from. A file that is written anew says what was
read from it; a record that is stored, and a status that is written, are read from then on. -/
theorem MemoryRecord.reads_what_was_written :
    (∀ r : MemoryRecord, decoder.decodeText r.toJson.compact = .ok r ∧
      decoder.decodeText r.toJson.pretty = .ok r) ∧
    (∀ (text : String) (r : MemoryRecord), decoder.decodeText text = .ok r →
      decoder.decodeText r.toJson.compact = .ok r ∧ decoder.decodeText r.toJson.pretty = .ok r) ∧
    (∀ (store after : FileBacked) (path : TreePath) (r : MemoryRecord),
      store.readRecord path = .ok (some r) → store.save path r.toJson r = (.done r, after) →
        after.readRecord path = store.readRecord path) ∧
    (∀ (store after : FileBacked) (record answer : MemoryRecord),
      store.put record = (.done answer, after) →
        (∃ version, answer = record.atVersion version) ∧
          after.get record.metadata.name record.metadata.namespaceName = .ok answer) ∧
    ∀ (store after : FileBacked) (record answer : MemoryRecord),
      store.updateStatus record = (.done answer, after) →
        (∃ stored version,
          store.get record.metadata.name record.metadata.namespaceName = .ok stored ∧
            Store.nextVersion? stored.metadata.resourceVersion = some version ∧
            answer = { stored with status := record.status }.atVersion version) ∧
          after.get record.metadata.name record.metadata.namespaceName = .ok answer := by
  have both (r : MemoryRecord) : decoder.decodeText r.toJson.compact = .ok r ∧
      decoder.decodeText r.toJson.pretty = .ok r := ⟨r.decodeText_compact, r.decodeText_pretty⟩
  refine ⟨both, fun _ r _ => both r, ?_, fun _ _ _ _ => FileBacked.get_of_put,
    fun _ _ _ _ => FileBacked.get_of_updateStatus⟩
  intro store after path r read saved
  rw [read, FileBacked.readRecord_of_save saved]

/-! ## An example -/

namespace MemoryRecord

/-- A text that leaves out what can be left out, and says more than is asked for. -/
def sparseText : String :=
  "[[\"chat\",\"team\"], \x7b\"address\": \x7b\"value\": null, \"valueFrom\": \x7b\x7d\x7d, \"more\": [1]\x7d]"

/-- The record that it says. -/
def sparse : MemoryRecord where
  metadata := { name := "chat", namespaceName := "team" }
  spec := { address := { valueFrom := some {} } }

/-- The text in a file. -/
def sparseFiles : FileBacked where
  tree := ⟨[(["team"], .directory), (["team", "memories"], .directory),
    (["team", "memories", "chat.json"], .file (Utf8.bytesOf sparseText))]⟩
  root := []

theorem decodeText_sparse : decoder.decodeText sparseText = .ok sparse := rfl

theorem sparseFiles_read :
    sparseFiles.readRecord ["team", "memories", "chat.json"] = .ok (some sparse) := by
  have found : sparseFiles.tree.find ["team", "memories", "chat.json"] =
      .ok (some (.file (Utf8.bytesOf sparseText))) :=
    (FileTree.find_of_clean _ (by decide)).trans rfl
  exact FileBacked.readFile_eq_some.2 ⟨_, found, FileBacked.reads_bytesOf decodeText_sparse⟩

theorem sparseFiles_save {α : Type} (value : Json) (result : α) :
    ∃ after, sparseFiles.save ["team", "memories", "chat.json"] value result =
      (.done result, after) := by
  have goal : sparseFiles.tree.find ["team", "memories", "chat.json"] =
      .ok (some (.file (Utf8.bytesOf sparseText))) :=
    (FileTree.find_of_clean _ (by decide)).trans rfl
  have spare : sparseFiles.tree.find ["team", "memories", "chat.json.tmp"] = .ok none :=
    (FileTree.find_of_clean _ (by decide)).trans rfl
  obtain ⟨tree, wrote, -⟩ := @FileBacked.writeJson_over [] sparseFiles.tree .memory "team" "chat"
    (Utf8.bytesOf sparseText) none goal (by decide) spare nofun value
  have wrote : FileBacked.writeJson sparseFiles.tree ["team", "memories", "chat.json"] value =
    (.ok (), tree) := wrote
  exact ⟨_, by rw [FileBacked.save, wrote]⟩

/-- The file is written as it was read, with another status, and by another record. -/
theorem reads_what_was_written_sparse :
    (decoder.decodeText sparseText = .ok sparse ∧ decoder.decodeText sparse.toJson.compact = .ok sparse ∧
      decoder.decodeText sparse.toJson.pretty = .ok sparse) ∧
    (∃ after, sparseFiles.save ["team", "memories", "chat.json"] sparse.toJson sparse =
      (.done sparse, after) ∧
        after.readRecord ["team", "memories", "chat.json"] = .ok (some sparse)) ∧
    (∃ after, sparseFiles.put sparse = (.done (sparse.atVersion 1), after) ∧
      after.get "chat" "team" = .ok (sparse.atVersion 1)) ∧
    ∃ after, sparseFiles.updateStatus (sparse.withResolvedAddress "http://[::1]") =
      (.done ((sparse.withResolvedAddress "http://[::1]").atVersion 1), after) ∧
        after.get "chat" "team" = .ok ((sparse.withResolvedAddress "http://[::1]").atVersion 1) := by
  obtain ⟨-, decodes, rewrites, puts, updates⟩ := reads_what_was_written
  have path : sparseFiles.recordPath "chat" "team" = .ok ["team", "memories", "chat.json"] := rfl
  refine ⟨⟨decodeText_sparse, decodes _ _ decodeText_sparse⟩, ?_, ?_, ?_⟩
  · obtain ⟨after, saved⟩ := sparseFiles_save sparse.toJson sparse
    exact ⟨after, saved, (rewrites _ _ _ _ sparseFiles_read saved).trans sparseFiles_read⟩
  · obtain ⟨after, saved⟩ := sparseFiles_save (sparse.atVersion 1).toJson (sparse.atVersion 1)
    have stored : sparseFiles.put sparse = (.done (sparse.atVersion 1), after) := by
      rw [FileBacked.put, show sparseFiles.recordPath sparse.metadata.name
        sparse.metadata.namespaceName = _ from path]
      dsimp only
      rw [sparseFiles_read]
      exact saved
    exact ⟨after, stored, (puts _ _ _ _ stored).2⟩
  · obtain ⟨after, saved⟩ := sparseFiles_save
      ((sparse.withResolvedAddress "http://[::1]").atVersion 1).toJson
      ((sparse.withResolvedAddress "http://[::1]").atVersion 1)
    have written : sparseFiles.updateStatus (sparse.withResolvedAddress "http://[::1]") =
        (.done ((sparse.withResolvedAddress "http://[::1]").atVersion 1), after) := by
      rw [FileBacked.updateStatus, FileBacked.withStatus, show sparseFiles.recordPath
        (sparse.withResolvedAddress "http://[::1]").metadata.name
        (sparse.withResolvedAddress "http://[::1]").metadata.namespaceName = _ from path]
      dsimp only
      rw [sparseFiles_read]
      exact saved
    exact ⟨after, written, (updates _ _ _ _ written).2⟩

end MemoryRecord

end ConversationMemory
