import ConversationMemory.Proofs.Record
import ConversationMemory.Proofs.Store.Path
import ConversationMemory.Store

/-!
# A status write in files

* `FileBacked.writeJson_cases`: a file that stands there is written, or nothing changes.
* `FileBacked.Reads`, `readFile_eq_some`: what is read from a file.
* `FileBacked.Rewrites`: a status write has gone through. **`updateStatus_cases`**: otherwise it has
  changed nothing.
* `FileBacked.LeavesBeside`: one was given up with bytes in the file beside.
  **`updateStatusUntil_cases`**: what is left of a write that is given up at any stage.
* `Rewrites.elsewhere_iff`, `LeavesBeside.elsewhere_iff`: which files it leaves alone.
* **`Store.readsAs_updateStatusUntil`**: a write that is given up before its end is not read.
-/

namespace ConversationMemory

namespace FileBacked

open FileTree

variable {root : TreePath} {tree : FileTree} {family : Family} {namespaceName name : String}
  {bytes : List UInt8}

theorem find_of_beside {other : FileTree} {last last' : String} {entry : Option FileEntry}
    (found : tree.find (directoryOf root family namespaceName ++ [last]) = .ok entry)
    (same : ∀ p, p ≠ directoryOf root family namespaceName ++ [last'] → other.get? p = tree.get? p) :
    other.find (directoryOf root family namespaceName ++ [last]) =
      .ok (other.get? (directoryOf root family namespaceName ++ [last])) := by
  have way (q : TreePath) (hq : q <+: directoryOf root family namespaceName) :
      tree.get? q = other.get? q := by
    refine (same q ?_).symm
    rintro rfl
    have shorter := hq.length_le
    rw [List.length_append, List.length_singleton] at shorter
    omega
  rcases find_pair (directoryOf root family namespaceName) last fun q _ => way q with
    ⟨e, refused, -⟩ | ⟨-, there⟩
  · rw [found] at refused
    cases refused
  · exact there

variable {entry : Option FileEntry}

theorem writeJson_over
    (found : tree.find (filePath root family namespaceName name) = .ok (some (.file bytes)))
    (point : name ≠ ".") (spare : tree.find (sparePath root family namespaceName name) = .ok entry)
    (beside : entry ≠ some .directory) (value : Json) :
    ∃ after, writeJson tree (filePath root family namespaceName name) value = (.ok (), after) ∧
      ∀ p, after.get? p =
        if p = filePath root family namespaceName name then some (.file (Utf8.bytesOf value.pretty))
        else if p = sparePath root family namespaceName name then none else tree.get? p := by
  obtain ⟨written, wrote, views⟩ := writeBytes_view spare beside (Utf8.bytesOf value.pretty)
  have others (p : TreePath) (h : p ≠ sparePath root family namespaceName name) :
      written.get? p = tree.get? p := by rw [views, if_neg h]
  have source := find_of_beside spare others
  have goal := find_of_beside found others
  rw [← sparePath, views, if_pos rfl] at source
  rw [← filePath, others _ filePath_ne_sparePath, get?_of_find found] at goal
  obtain ⟨after, renamed, afters⟩ := rename_view source goal (by rintro ⟨⟩)
  refine ⟨after, ?_, fun p => ?_⟩
  · simp only [writeJson, dropLast_filePath, createDirectories_of_find found, temporaryOf_filePath]
    rw [if_neg point, wrote]
    dsimp only
    rw [renamed]
  · rw [afters, views]
    split
    · rfl
    · split <;> rfl

/-- **Such a file is written, or nothing changes.** -/
theorem writeJson_cases
    (found : tree.find (filePath root family namespaceName name) = .ok (some (.file bytes)))
    (value : Json) :
    (∃ e, writeJson tree (filePath root family namespaceName name) value = (.error e, tree)) ∨
      name ≠ "." ∧ ∃ entry, tree.find (sparePath root family namespaceName name) = .ok entry ∧
        entry ≠ some .directory := by
  have made := createDirectories_of_find found
  simp only [writeJson, dropLast_filePath, made, temporaryOf_filePath]
  by_cases point : name = "."
  · have above := find_of_createDirectories made
      (List.dropLast_prefix (directoryOf root family namespaceName))
    rw [if_pos point, writeBytes_directory above]
    exact .inl ⟨_, rfl⟩
  · rw [if_neg point]
    cases spare : tree.find (sparePath root family namespaceName name) with
    | error e =>
      rw [writeBytes_error spare]
      exact .inl ⟨_, rfl⟩
    | ok entry =>
      by_cases directory : entry = some .directory
      · rw [directory] at spare
        rw [writeBytes_directory spare]
        exact .inl ⟨_, rfl⟩
      · exact .inr ⟨point, entry, rfl, directory⟩

theorem writeUntil_beside
    (found : tree.find (filePath root family namespaceName name) = .ok (some (.file bytes)))
    (point : name ≠ ".") (spare : tree.find (sparePath root family namespaceName name) = .ok entry)
    (beside : entry ≠ some .directory) (count : Nat) (value : Json) (p : TreePath) :
    (writeUntil (.beside count) tree (filePath root family namespaceName name) value).get? p =
      if p = sparePath root family namespaceName name then
        some (.file ((Utf8.bytesOf value.pretty).take count))
      else tree.get? p := by
  obtain ⟨written, wrote, views⟩ :=
    writeBytes_view spare beside ((Utf8.bytesOf value.pretty).take count)
  simp only [writeUntil, dropLast_filePath, createDirectories_of_find found, temporaryOf_filePath]
  rw [if_neg point, wrote]
  exact views p

/-- **A write of a file that stands there is given up with nothing changed, with bytes in the file
beside, or at its end.** -/
theorem writeUntil_cases
    (found : tree.find (filePath root family namespaceName name) = .ok (some (.file bytes)))
    (stage : WriteStage) (value : Json) :
    writeUntil stage tree (filePath root family namespaceName name) value = tree ∨
      (∃ count, stage = .beside count) ∧ name ≠ "." ∧
        (∃ entry, tree.find (sparePath root family namespaceName name) = .ok entry ∧
          entry ≠ some .directory) ∨
      stage = .whole := by
  have made := createDirectories_of_find found
  cases stage with
  | unstarted => exact .inl rfl
  | directories => exact .inl (by rw [writeUntil, dropLast_filePath, made])
  | whole => exact .inr (.inr rfl)
  | beside count =>
    rw [writeUntil, dropLast_filePath, made]
    dsimp only
    rw [temporaryOf_filePath]
    by_cases point : name = "."
    · have above := find_of_createDirectories made
        (List.dropLast_prefix (directoryOf root family namespaceName))
      rw [if_pos point, writeBytes_directory above]
      exact .inl rfl
    · rw [if_neg point]
      cases spare : tree.find (sparePath root family namespaceName name) with
      | error e => exact .inl (by rw [writeBytes_error spare])
      | ok entry =>
        by_cases directory : entry = some .directory
        · rw [directory] at spare
          exact .inl (by rw [writeBytes_directory spare])
        · exact .inr (.inl ⟨⟨count, rfl⟩, point, entry, rfl, directory⟩)

/-! ## Reading -/

section

variable {α : Type} {d : Json.Decoder α} {a : α}

/-- Bytes are a text that decodes to a value. -/
def Reads (d : Json.Decoder α) (bytes : List UInt8) (a : α) : Prop :=
  ∃ s, Utf8.textOf? bytes = some s ∧ d.decodeText s = .ok a

theorem Reads.unique {a' : α} (h : Reads d bytes a) (h' : Reads d bytes a') : a = a' := by
  obtain ⟨s, text, reads⟩ := h
  obtain ⟨s', text', reads'⟩ := h'
  obtain rfl := Option.some.inj (text.symm.trans text')
  exact Except.ok.inj (reads.symm.trans reads')

theorem reads_bytesOf {s : String} (h : d.decodeText s = .ok a) : Reads d (Utf8.bytesOf s) a :=
  ⟨s, Utf8.textOf?_bytesOf s, h⟩

theorem readFile_eq_some {path : TreePath} :
    readFile tree d path = .ok (some a) ↔
      ∃ bytes, tree.find path = .ok (some (.file bytes)) ∧ Reads d bytes a := by
  rw [readFile]
  constructor
  · intro h
    cases hread : tree.readText path with
    | error e =>
      rw [hread] at h
      cases e <;> cases h
    | ok s =>
      obtain ⟨bytes, hfind, htext⟩ := readText_eq_ok.1 hread
      rw [hread] at h
      cases hdecode : d.decodeText s with
      | error fault =>
        simp only [hdecode] at h
        cases h
      | ok found =>
        simp only [hdecode] at h
        cases h
        exact ⟨bytes, hfind, s, htext, hdecode⟩
  · rintro ⟨bytes, hfind, s, htext, hdecode⟩
    rw [readText_eq_ok.2 ⟨bytes, hfind, htext⟩]
    dsimp only
    rw [hdecode]

theorem readFile_congr {other : FileTree} {path : TreePath} (h : tree.find path = other.find path) :
    readFile tree d path = readFile other d path := by
  rw [readFile, readFile, readText_eq, readText_eq, h]

end

theorem reads_record (r : MemoryRecord) :
    Reads MemoryRecord.decoder (Utf8.bytesOf r.toJson.pretty) r :=
  reads_bytesOf r.decodeText_pretty

theorem readRecord_eq_some {store : FileBacked} {path : TreePath} {r : MemoryRecord}
    (h : store.readRecord path = .ok (some r)) :
    ∃ bytes, store.tree.find path = .ok (some (.file bytes)) ∧
      Reads MemoryRecord.decoder bytes r :=
  readFile_eq_some.1 h

/-! ## Status writes -/

/-- A status write is accepted: the record was read at the stored version, there is a next one, and no
directory stands beside the file. -/
structure Accepts (store : FileBacked) (record stored : MemoryRecord) (version : UInt64) : Prop where
  found : store.readRecord (filePath store.root .memory record.metadata.namespaceName
    record.metadata.name) = .ok (some stored)
  current : stored.metadata.resourceVersion = record.metadata.resourceVersion
  next : Store.nextVersion? stored.metadata.resourceVersion = some version
  beside : store.tree.get? (sparePath store.root .memory record.metadata.namespaceName
    record.metadata.name) ≠ some .directory

/-- A status write has gone through: the file of the record says the new status at the next version,
nothing stands beside it any more, and every other path is as it was. -/
structure Rewrites (store : FileBacked) (record stored : MemoryRecord) (version : UInt64)
    (after : FileBacked) : Prop extends store.Accepts record stored version where
  root : after.root = store.root
  entries : ∀ path, after.tree.get? path =
    if path = filePath store.root .memory record.metadata.namespaceName record.metadata.name then
      some (.file (Utf8.bytesOf
        ({ stored with status := record.status }.atVersion version).toJson.pretty))
    else if path = sparePath store.root .memory record.metadata.namespaceName record.metadata.name then
      none
    else store.tree.get? path

/-- A status write was given up before the file beside took the place of the record's: so many of the
bytes stand there, and every other path is as it was. -/
structure LeavesBeside (store : FileBacked) (record stored : MemoryRecord) (version : UInt64)
    (count : Nat) (after : FileBacked) : Prop extends store.Accepts record stored version where
  root : after.root = store.root
  entries : ∀ path, after.tree.get? path =
    if path = sparePath store.root .memory record.metadata.namespaceName record.metadata.name then
      some (.file ((Utf8.bytesOf
        ({ stored with status := record.status }.atVersion version).toJson.pretty).take count))
    else store.tree.get? path

variable {store after : FileBacked} {record stored : MemoryRecord} {version : UInt64} {count : Nat}

theorem withStatus_of_current
    (path : store.recordPath record.metadata.name record.metadata.namespaceName = .ok
      (filePath store.root .memory record.metadata.namespaceName record.metadata.name))
    (found : store.readRecord (filePath store.root .memory record.metadata.namespaceName
      record.metadata.name) = .ok (some stored))
    (current : stored.metadata.resourceVersion = record.metadata.resourceVersion)
    (next : Store.nextVersion? stored.metadata.resourceVersion = some version) :
    store.withStatus record = .done
      (filePath store.root .memory record.metadata.namespaceName record.metadata.name,
        { stored with status := record.status }.atVersion version) := by
  simp only [withStatus, path, found, Store.checkVersion, if_pos current, next]

theorem withStatus_cases (store : FileBacked) (record : MemoryRecord) :
    (∃ e, store.withStatus record = .failed e) ∨ store.withStatus record = .crashed ∨
      ∃ stored version,
        store.recordPath record.metadata.name record.metadata.namespaceName = .ok
          (filePath store.root .memory record.metadata.namespaceName record.metadata.name) ∧
        store.readRecord (filePath store.root .memory record.metadata.namespaceName
          record.metadata.name) = .ok (some stored) ∧
        stored.metadata.resourceVersion = record.metadata.resourceVersion ∧
        Store.nextVersion? stored.metadata.resourceVersion = some version := by
  cases hpath : store.recordPath record.metadata.name record.metadata.namespaceName with
  | error e => exact .inl ⟨e, by simp only [withStatus, hpath]⟩
  | ok path =>
    obtain ⟨-, -, rfl⟩ := pathOf_eq_ok.1 hpath
    cases hread : store.readRecord (filePath store.root .memory record.metadata.namespaceName
        record.metadata.name) with
    | error e => exact .inl ⟨e, by simp only [withStatus, hpath, hread]⟩
    | ok found =>
      cases found with
      | none =>
        refine .inl ⟨.notFound record.metadata.name record.metadata.namespaceName, ?_⟩
        simp only [withStatus, hpath, hread]
      | some stored =>
        by_cases current : stored.metadata.resourceVersion = record.metadata.resourceVersion
        · cases hnext : Store.nextVersion? stored.metadata.resourceVersion with
          | none =>
            refine .inr (.inl ?_)
            simp only [withStatus, hpath, hread, Store.checkVersion, if_pos current, hnext]
          | some version => exact .inr (.inr ⟨stored, version, rfl, rfl, current, hnext⟩)
        · refine .inl ⟨.conflict record.metadata.name record.metadata.namespaceName
            record.metadata.resourceVersion stored.metadata.resourceVersion, ?_⟩
          simp only [withStatus, hpath, hread, Store.checkVersion, if_neg current]

theorem updateStatusUntil_whole (store : FileBacked) (record : MemoryRecord) :
    store.updateStatusUntil .whole record = (store.updateStatus record).2 := by
  rw [updateStatusUntil, updateStatus]
  cases store.withStatus record with
  | failed e => rfl
  | crashed => rfl
  | done write =>
    obtain ⟨path, updated⟩ := write
    dsimp only [writeUntil, save]
    rcases writeJson store.tree path updated.toJson with ⟨result, tree⟩
    cases result <;> rfl

theorem updateStatusUntil_unstarted (store : FileBacked) (record : MemoryRecord) :
    store.updateStatusUntil .unstarted record = store := by
  rw [updateStatusUntil]
  cases store.withStatus record <;> rfl

theorem rewrites_of_current
    (path : store.recordPath record.metadata.name record.metadata.namespaceName = .ok
      (filePath store.root .memory record.metadata.namespaceName record.metadata.name))
    (found : store.readRecord (filePath store.root .memory record.metadata.namespaceName
      record.metadata.name) = .ok (some stored))
    (current : stored.metadata.resourceVersion = record.metadata.resourceVersion)
    (next : Store.nextVersion? stored.metadata.resourceVersion = some version)
    (point : record.metadata.name ≠ ".")
    (spare : store.tree.find (sparePath store.root .memory record.metadata.namespaceName
      record.metadata.name) = .ok entry) (beside : entry ≠ some .directory) :
    store.Rewrites record stored version (store.updateStatus record).2 := by
  obtain ⟨bytes, hfind, -⟩ := readRecord_eq_some found
  obtain ⟨after, wrote, entries⟩ := writeJson_over hfind point spare beside
    ({ stored with status := record.status }.atVersion version).toJson
  have there : (store.updateStatus record).2 = { store with tree := after } := by
    simp only [updateStatus, withStatus_of_current path found current next, save, wrote]
  rw [there]
  exact ⟨⟨found, current, next, by rwa [get?_of_find spare]⟩, rfl, entries⟩

/-- **A status write goes through, or it changes nothing.** -/
theorem updateStatus_cases (store : FileBacked) (record : MemoryRecord) :
    (store.updateStatus record).2 = store ∨
      ∃ stored version, store.Rewrites record stored version (store.updateStatus record).2 := by
  rcases withStatus_cases store record with
    ⟨e, failed⟩ | crashed | ⟨stored, version, path, found, current, next⟩
  · exact .inl (by rw [updateStatus, failed])
  · exact .inl (by rw [updateStatus, crashed])
  · obtain ⟨bytes, hfind, -⟩ := readRecord_eq_some found
    rcases writeJson_cases hfind
      ({ stored with status := record.status }.atVersion version).toJson with
      ⟨e, failed⟩ | ⟨point, entry, spare, beside⟩
    · refine .inl ?_
      simp only [updateStatus, withStatus_of_current path found current next, save, failed]
    · exact .inr ⟨stored, version, rewrites_of_current path found current next point spare beside⟩

/-- **What is left of a status write that is given up: nothing, bytes in the file beside the record's,
or the whole write.** -/
theorem updateStatusUntil_cases (stage : WriteStage) (store : FileBacked) (record : MemoryRecord) :
    store.updateStatusUntil stage record = store ∨
      (∃ count stored version, stage = .beside count ∧
        store.LeavesBeside record stored version count (store.updateStatusUntil stage record)) ∨
      stage = .whole ∧
        ∃ stored version, store.Rewrites record stored version (store.updateStatusUntil stage record) := by
  rcases withStatus_cases store record with
    ⟨e, failed⟩ | crashed | ⟨stored, version, path, found, current, next⟩
  · exact .inl (by rw [updateStatusUntil, failed])
  · exact .inl (by rw [updateStatusUntil, crashed])
  · obtain ⟨bytes, hfind, -⟩ := readRecord_eq_some found
    have left : store.updateStatusUntil stage record = { store with
        tree := writeUntil stage store.tree
          (filePath store.root .memory record.metadata.namespaceName record.metadata.name)
          ({ stored with status := record.status }.atVersion version).toJson } := by
      rw [updateStatusUntil, withStatus_of_current path found current next]
    rcases writeUntil_cases hfind stage
      ({ stored with status := record.status }.atVersion version).toJson with
      same | ⟨⟨count, rfl⟩, point, entry, spare, beside⟩ | rfl
    · exact .inl (by rw [left, same])
    · refine .inr (.inl ⟨count, stored, version, rfl, ?_⟩)
      rw [left]
      exact ⟨⟨found, current, next, by rwa [get?_of_find spare]⟩, rfl,
        writeUntil_beside hfind point spare beside count _⟩
    · rw [updateStatusUntil_whole]
      rcases updateStatus_cases store record with same | rewritten
      · exact .inl same
      · exact .inr (.inr ⟨rfl, rewritten⟩)

/-- **A status write leaves every file alone but that of a name exactly when it is that of the record,
and nothing stood beside it.** -/
theorem Rewrites.elsewhere_iff (h : store.Rewrites record stored version after) :
    (∀ path, path ≠ filePath store.root .memory namespaceName name →
        after.tree.get? path = store.tree.get? path) ↔
      record.metadata.namespaceName = namespaceName ∧ record.metadata.name = name ∧
        store.tree.get? (sparePath store.root .memory namespaceName name) = none := by
  obtain ⟨bytes, hfind, reads⟩ := readRecord_eq_some h.found
  constructor
  · intro elsewhere
    have changed := h.entries (filePath store.root .memory record.metadata.namespaceName
      record.metadata.name)
    rw [if_pos rfl] at changed
    have own : filePath store.root .memory record.metadata.namespaceName record.metadata.name =
        filePath store.root .memory namespaceName name := by
      by_contra other
      rw [elsewhere _ other, get?_of_find hfind] at changed
      rw [FileEntry.file.inj (Option.some.inj changed)] at reads
      have same : version = stored.metadata.resourceVersion :=
        congrArg (fun r => r.metadata.resourceVersion) ((reads_record _).unique reads)
      have next := Store.nextVersion?_eq_some.1 h.next
      rw [same] at next
      omega
    obtain ⟨-, hnamespace, hname⟩ := filePath_inj.1 own
    refine ⟨hnamespace, hname, ?_⟩
    have gone := h.entries (sparePath store.root .memory namespaceName name)
    rw [hnamespace, hname, if_neg filePath_ne_sparePath.symm, if_pos rfl,
      elsewhere _ filePath_ne_sparePath.symm] at gone
    exact gone
  · rintro ⟨rfl, rfl, free⟩ path other
    rw [h.entries, if_neg other]
    split
    · rename_i here
      rw [here, free]
    · rfl

/-- **Bytes that are left beside the file of a record change no other file exactly when they stood
there before.** -/
theorem LeavesBeside.elsewhere_iff (h : store.LeavesBeside record stored version count after) :
    (∀ path, path ≠ filePath store.root .memory namespaceName name →
        after.tree.get? path = store.tree.get? path) ↔
      store.tree.get? (sparePath store.root .memory record.metadata.namespaceName
        record.metadata.name) = some (.file ((Utf8.bytesOf
          ({ stored with status := record.status }.atVersion version).toJson.pretty).take count)) := by
  constructor
  · intro elsewhere
    have left := h.entries (sparePath store.root .memory record.metadata.namespaceName
      record.metadata.name)
    rwa [if_pos rfl, elsewhere _ filePath_ne_sparePath.symm] at left
  · intro there path _
    rw [h.entries]
    split
    · rename_i here
      rw [here, there]
    · rfl

theorem LeavesBeside.readFile_eq {α : Type} {d : Json.Decoder α}
    (h : store.LeavesBeside record stored version count after) :
    readFile after.tree d (filePath store.root family namespaceName name) =
      readFile store.tree d (filePath store.root family namespaceName name) := by
  refine readFile_congr ?_
  have others (p : TreePath) (away : p ≠ sparePath store.root .memory record.metadata.namespaceName
      record.metadata.name) : after.tree.get? p = store.tree.get? p := by rw [h.entries, if_neg away]
  -- nothing was left on the way to the file
  have way (q : TreePath) (hq : q <+: directoryOf store.root family namespaceName) :
      after.tree.get? q = store.tree.get? q := by
    refine others q ?_
    rintro rfl
    exact not_prefix_directoryOf (hasPoint_spareName _) hq
  rcases find_pair (directoryOf store.root family namespaceName) (fileName name)
    fun q _ => way q with ⟨e, refused, refused'⟩ | ⟨there, there'⟩
  · exact refused.trans refused'.symm
  · refine there.trans (Eq.trans ?_ there'.symm)
    exact congrArg Except.ok (others _ filePath_ne_sparePath)

theorem LeavesBeside.get_eq (h : store.LeavesBeside record stored version count after)
    (name namespaceName : String) : after.get name namespaceName = store.get name namespaceName := by
  rw [get, get, recordPath, recordPath, h.root]
  cases located : pathOf store.root .memory namespaceName name with
  | error e => rfl
  | ok path =>
    obtain ⟨-, -, rfl⟩ := pathOf_eq_ok.1 located
    dsimp only
    rw [readRecord, readRecord, h.readFile_eq]

theorem LeavesBeside.configValue_eq (h : store.LeavesBeside record stored version count after)
    (key : ValueKey) : after.configValue key = store.configValue key := by
  rw [configValue, configValue, valuesPath, valuesPath, h.root]
  cases located : pathOf store.root (.values key.kind) key.namespaceName key.name with
  | error e => rfl
  | ok path =>
    obtain ⟨-, -, rfl⟩ := pathOf_eq_ok.1 located
    dsimp only
    rw [readValues, readValues, h.readFile_eq]

end FileBacked

namespace Store

/-- One store answers every read as another does. -/
structure ReadsAs (a b : Store) : Prop where
  get : ∀ name namespaceName, (a.get name namespaceName).1 = (b.get name namespaceName).1
  configValue : ∀ key, a.configValue key = b.configValue key

theorem ReadsAs.refl (store : Store) : store.ReadsAs store := ⟨fun _ _ => rfl, fun _ => rfl⟩

/-- A status write given up before its start changes nothing, and one given up at its end has been
made. -/
theorem updateStatusUntil_unstarted (store : Store) (record : MemoryRecord) :
    store.updateStatusUntil .unstarted record = store := by
  cases store with
  | memory store => rfl
  | files store => exact congrArg files (store.updateStatusUntil_unstarted record)

theorem updateStatusUntil_whole (store : Store) (record : MemoryRecord) :
    store.updateStatusUntil .whole record = (store.updateStatus record).2.1 := by
  cases store with
  | memory store => rfl
  | files store => exact congrArg files (store.updateStatusUntil_whole record)

/-- **A status write that is given up before its end is not read.** -/
theorem readsAs_updateStatusUntil {stage : WriteStage} (early : stage ≠ .whole) (store : Store)
    (record : MemoryRecord) : (store.updateStatusUntil stage record).ReadsAs store := by
  cases store with
  | memory store =>
    rw [updateStatusUntil, if_neg early]
    exact .refl _
  | files store =>
    rw [updateStatusUntil]
    rcases FileBacked.updateStatusUntil_cases stage store record with
      same | ⟨count, stored, version, -, left⟩ | ⟨whole, -⟩
    · rw [same]
      exact .refl _
    · exact ⟨left.get_eq, left.configValue_eq⟩
    · exact absurd whole early

end Store

end ConversationMemory
