import ConversationMemory.Proofs.FileTree.Twin
import ConversationMemory.Proofs.Record
import ConversationMemory.Proofs.Store.Rewrite

/-!
# Stores that differ in statuses and versions only

* `MemoryRecord.lasting`: what a status write leaves alone in a record.
* `InMemory.Alike`, `FileBacked.Alike`, `Store.Alike`: stores whose records differ in nothing else.
* **`updateStatus_alike`**, **`updateStatusUntil_alike`**: a status write leads to a store that is
  alike, also when it is given up.
* **`put_alike`**, `setValue_alike`, `delete_alike`: other writes keep stores alike; `get_alike`,
  `configValue_alike`: such stores read alike.
-/

namespace ConversationMemory

open FileTree

/-- What a status write leaves alone in a record. -/
def MemoryRecord.lasting (record : MemoryRecord) : MemoryRecord :=
  { record with status := {} }.atVersion 0

/-! ## Files -/

namespace FileBacked

variable {root : TreePath} {a b : FileBacked}

/-- In what the files of two stores may differ: the text of a record by what a status write changes,
and a file beside that of a record at will. -/
inductive SpotAlike (root path : TreePath) : Option FileEntry → Option FileEntry → Prop
  | same (entry : Option FileEntry) : SpotAlike root path entry entry
  | record {namespaceName name : String} {bytes bytes' : List UInt8} {r r' : MemoryRecord}
    (place : path = filePath root .memory namespaceName name)
    (reads : Reads MemoryRecord.decoder bytes r) (reads' : Reads MemoryRecord.decoder bytes' r')
    (alike : r.lasting = r'.lasting) :
    SpotAlike root path (some (.file bytes)) (some (.file bytes'))
  | spare {namespaceName name : String} {entry entry' : Option FileEntry}
    (place : path = sparePath root .memory namespaceName name)
    (file : entry ≠ some .directory) (file' : entry' ≠ some .directory) :
    SpotAlike root path entry entry'

theorem SpotAlike.symm {path : TreePath} {entry entry' : Option FileEntry}
    (h : SpotAlike root path entry entry') : SpotAlike root path entry' entry := by
  cases h with
  | same entry => exact .same entry
  | record place reads reads' alike => exact .record place reads' reads alike.symm
  | spare place file file' => exact .spare place file' file

theorem SpotAlike.directory {path : TreePath} {entry entry' : Option FileEntry}
    (h : SpotAlike root path entry entry') :
    entry = some .directory ↔ entry' = some .directory := by
  cases h with
  | same entry => rfl
  | record place reads reads' alike =>
    constructor <;>
      · intro heq
        cases heq
  | spare place file file' => exact ⟨fun heq => absurd heq file, fun heq => absurd heq file'⟩

theorem SpotAlike.trans {path : TreePath} {x y z : Option FileEntry} (h : SpotAlike root path x y)
    (k : SpotAlike root path y z) : SpotAlike root path x z := by
  cases h with
  | same entry => exact k
  | record place reads reads' alike =>
    cases k with
    | same entry => exact .record place reads reads' alike
    | record place' reads'' reads''' alike' =>
      obtain rfl := reads'.unique reads''
      exact .record place reads reads''' (alike.trans alike')
    | spare place' file file' =>
      exact absurd (place.symm.trans place') filePath_ne_sparePath
  | spare place file file' =>
    have directory := k.directory
    exact .spare place file fun heq => file' (directory.2 heq)

/-- The comparison of stores in one directory. -/
def comparison (root : TreePath) : Comparison where
  alike := SpotAlike root
  refl _ := .same
  directory := SpotAlike.directory

theorem plain_directoryOf (root : TreePath) (family : Family) (namespaceName : String) :
    (comparison root).Plain [] (directoryOf root family namespaceName) := by
  intro q _ hprefix entry entry' h
  rw [List.nil_append] at h
  cases h with
  | same entry => rfl
  | record place reads reads' alike =>
    rw [place] at hprefix
    exact absurd hprefix (not_prefix_directoryOf (hasPoint_fileName _))
  | spare place file file' =>
    rw [place] at hprefix
    exact absurd hprefix (not_prefix_directoryOf (hasPoint_spareName _))

/-- Two stores in one directory whose files differ in nothing but what they may. -/
structure Alike (a b : FileBacked) : Prop where
  root : a.root = b.root
  tree : (comparison a.root).Holds a.tree b.tree

theorem Alike.refl (a : FileBacked) : a.Alike a := ⟨rfl, fun _ => .same _⟩

theorem Alike.symm (h : a.Alike b) : b.Alike a :=
  ⟨h.root.symm, fun path => (h.root ▸ h.tree path).symm⟩

theorem Alike.trans {c : FileBacked} (h : a.Alike b) (k : b.Alike c) : a.Alike c :=
  ⟨h.root.trans k.root, fun path => (h.tree path).trans (h.root ▸ k.tree path)⟩

theorem SpotAlike.values {kind : ValueKind} {namespaceName last : String}
    {entry entry' : Option FileEntry}
    (h : SpotAlike root (directoryOf root (.values kind) namespaceName ++ [last]) entry entry') :
    entry = entry' := by
  have family {other name : String}
      (place : directoryOf root (.values kind) namespaceName ++ [last] =
        directoryOf root .memory other ++ [name]) : False := by
    have := directoryOf_inj.1 (List.append_inj' place rfl).1
    exact nomatch this.1
  cases h with
  | same entry => rfl
  | record place reads reads' alike => exact (family place).elim
  | spare place file file' => exact (family place).elim

theorem SpotAlike.records {namespaceName name : String} {entry entry' : Option FileEntry}
    (h : SpotAlike root (filePath root .memory namespaceName name) entry entry') :
    entry = entry' ∨ ∃ bytes bytes' r r', entry = some (.file bytes) ∧ entry' = some (.file bytes') ∧
      Reads MemoryRecord.decoder bytes r ∧ Reads MemoryRecord.decoder bytes' r' ∧
      r.lasting = r'.lasting := by
  cases h with
  | same entry => exact .inl rfl
  | record place reads reads' alike => exact .inr ⟨_, _, _, _, rfl, rfl, reads, reads', alike⟩
  | spare place file file' => exact absurd place filePath_ne_sparePath

/-! ### Reading -/

theorem find_file_alike (h : a.Alike b) (family : Family) (namespaceName name : String) :
    (∃ e, a.tree.find (filePath a.root family namespaceName name) = .error e ∧
      b.tree.find (filePath a.root family namespaceName name) = .error e) ∨
    ∃ entry entry', a.tree.find (filePath a.root family namespaceName name) = .ok entry ∧
      b.tree.find (filePath a.root family namespaceName name) = .ok entry' ∧
      SpotAlike a.root (filePath a.root family namespaceName name) entry entry' :=
  Comparison.find_alike h.tree (plain_directoryOf a.root family namespaceName) (fileName name)

theorem readRecord_alike (h : a.Alike b) (namespaceName name : String) :
    (a.readRecord (filePath a.root .memory namespaceName name)).map
        (Option.map MemoryRecord.lasting) =
      (b.readRecord (filePath a.root .memory namespaceName name)).map
        (Option.map MemoryRecord.lasting) := by
  rw [readRecord, readRecord]
  rcases find_file_alike h .memory namespaceName name with
    ⟨e, ha, hb⟩ | ⟨entry, entry', ha, hb, alike⟩
  · rw [readFile_congr (ha.trans hb.symm)]
  · rcases SpotAlike.records alike with
      rfl | ⟨bytes, bytes', r, r', rfl, rfl, reads, reads', lasting⟩
    · rw [readFile_congr (ha.trans hb.symm)]
    · rw [readFile_eq_some.2 ⟨bytes, ha, reads⟩, readFile_eq_some.2 ⟨bytes', hb, reads'⟩, Except.map,
        Except.map, Option.map, Option.map, lasting]

theorem get_alike (h : a.Alike b) (name namespaceName : String) :
    (a.get name namespaceName).map MemoryRecord.lasting =
      (b.get name namespaceName).map MemoryRecord.lasting := by
  unfold get recordPath
  rw [← h.root]
  cases hpath : pathOf a.root .memory namespaceName name with
  | error e => rfl
  | ok path =>
    obtain ⟨-, -, rfl⟩ := pathOf_eq_ok.1 hpath
    have read := readRecord_alike h namespaceName name
    dsimp only
    revert read
    cases a.readRecord _ with
    | error e =>
      cases b.readRecord _ with
      | error e' => intro read; cases read; rfl
      | ok found => intro read; cases read
    | ok found =>
      cases b.readRecord _ with
      | error e' => intro read; cases read
      | ok found' =>
        intro read
        cases found <;> cases found' <;> simp [Except.map] at read ⊢
        exact read

theorem readValues_alike (h : a.Alike b) (kind : ValueKind) (namespaceName name : String) :
    a.readValues (filePath a.root (.values kind) namespaceName name) =
      b.readValues (filePath a.root (.values kind) namespaceName name) := by
  rw [readValues, readValues]
  rcases find_file_alike h (.values kind) namespaceName name with
    ⟨e, ha, hb⟩ | ⟨entry, entry', ha, hb, alike⟩
  · exact readFile_congr (ha.trans hb.symm)
  · exact readFile_congr (ha.trans (by rw [hb, SpotAlike.values alike]))

theorem configValue_alike (h : a.Alike b) (key : ValueKey) :
    a.configValue key = b.configValue key := by
  unfold configValue valuesPath
  rw [← h.root]
  cases hpath : pathOf a.root (.values key.kind) key.namespaceName key.name with
  | error e => rfl
  | ok path =>
    obtain ⟨-, -, rfl⟩ := pathOf_eq_ok.1 hpath
    dsimp only
    rw [readValues_alike h]

/-! ### Writing -/

theorem writeJson_alike {c : Comparison} {t u : FileTree} (h : c.Holds t u) {family : Family}
    {namespaceName name : String} (plain : c.Plain [] (directoryOf root family namespaceName))
    {v v' : Json}
    (same : c.alike (filePath root family namespaceName name) (some (.file (Utf8.bytesOf v.pretty)))
      (some (.file (Utf8.bytesOf v'.pretty))))
    (spare : c.alike (sparePath root family namespaceName name) (some (.file (Utf8.bytesOf v.pretty)))
      (some (.file (Utf8.bytesOf v'.pretty)))) :
    (writeJson t (filePath root family namespaceName name) v).1 =
        (writeJson u (filePath root family namespaceName name) v').1 ∧
      c.Holds (writeJson t (filePath root family namespaceName name) v).2
        (writeJson u (filePath root family namespaceName name) v').2 := by
  have created := Comparison.createDirectories_alike h plain
  simp only [writeJson, dropLast_filePath, temporaryOf_filePath]
  generalize ht : t.createDirectories _ = p at created ⊢
  generalize hu : u.createDirectories _ = q at created ⊢
  obtain ⟨r, t₁⟩ := p
  obtain ⟨r', u₁⟩ := q
  obtain ⟨rfl, h₁⟩ : r = r' ∧ c.Holds t₁ u₁ := created
  cases r with
  | error e => exact ⟨rfl, h₁⟩
  | ok _ =>
    dsimp only
    by_cases hname : name = "."
    · have above := List.dropLast_prefix (directoryOf root family namespaceName)
      rw [if_pos hname, writeBytes_directory (find_of_createDirectories ht above),
        writeBytes_directory (find_of_createDirectories hu above)]
      exact ⟨rfl, h₁⟩
    · rw [if_neg hname]
      have wrote := Comparison.writeBytes_alike h₁ plain spare
      rw [← sparePath] at wrote
      generalize hwt : t₁.writeBytes _ (Utf8.bytesOf v.pretty) = p at wrote ⊢
      generalize hwu : u₁.writeBytes _ (Utf8.bytesOf v'.pretty) = q at wrote ⊢
      obtain ⟨r, t₂⟩ := p
      obtain ⟨r', u₂⟩ := q
      obtain ⟨rfl, h₂⟩ : r = r' ∧ c.Holds t₂ u₂ := wrote
      cases r with
      | error e => exact ⟨rfl, h₂⟩
      | ok _ =>
        have renamed := Comparison.rename_alike h₂ plain plain (get?_of_writeBytes hwt)
          (get?_of_writeBytes hwu) same
        rw [← sparePath, ← filePath] at renamed
        dsimp only
        generalize t₂.rename _ _ = p at renamed ⊢
        generalize u₂.rename _ _ = q at renamed ⊢
        obtain ⟨r, t₃⟩ := p
        obtain ⟨r', u₃⟩ := q
        obtain ⟨rfl, h₃⟩ : r = r' ∧ c.Holds t₃ u₃ := renamed
        cases r with
        | error e => exact ⟨rfl, h₃⟩
        | ok _ => exact ⟨rfl, h₃⟩

theorem save_alike {α : Type} (h : a.Alike b) (family : Family) (namespaceName name : String)
    {v v' : Json} (result result' : α)
    (same : SpotAlike a.root (filePath a.root family namespaceName name)
      (some (.file (Utf8.bytesOf v.pretty))) (some (.file (Utf8.bytesOf v'.pretty))))
    (spare : SpotAlike a.root (sparePath a.root family namespaceName name)
      (some (.file (Utf8.bytesOf v.pretty))) (some (.file (Utf8.bytesOf v'.pretty)))) :
    (a.save (filePath a.root family namespaceName name) v result).2.Alike
      (b.save (filePath a.root family namespaceName name) v' result').2 := by
  have wrote := writeJson_alike h.tree (plain_directoryOf a.root family namespaceName) same spare
  simp only [save]
  generalize writeJson a.tree _ v = p at wrote ⊢
  generalize writeJson b.tree _ v' = q at wrote ⊢
  obtain ⟨r, t⟩ := p
  obtain ⟨r', u⟩ := q
  obtain ⟨rfl, holds⟩ : r = r' ∧ (comparison a.root).Holds t u := wrote
  cases r with
  | error e => exact ⟨h.root, holds⟩
  | ok _ => exact ⟨h.root, holds⟩

theorem save_record_alike {α : Type} (h : a.Alike b) (namespaceName name : String)
    {r r' : MemoryRecord} (lasting : r.lasting = r'.lasting) (result result' : α) :
    (a.save (filePath a.root .memory namespaceName name) r.toJson result).2.Alike
      (b.save (filePath a.root .memory namespaceName name) r'.toJson
        result').2 :=
  save_alike h .memory namespaceName name result result'
    (.record rfl (reads_record r) (reads_record r') lasting)
    (.spare rfl (fun h => nomatch h) (fun h => nomatch h))

theorem setValue_alike (h : a.Alike b) (key : ValueKey) (value : String) :
    (a.setValue key value).2.Alike (b.setValue key value).2 := by
  unfold setValue valuesPath
  rw [← h.root]
  cases hpath : pathOf a.root (.values key.kind) key.namespaceName key.name with
  | error e => exact h
  | ok path =>
    obtain ⟨-, -, rfl⟩ := pathOf_eq_ok.1 hpath
    dsimp only
    rw [readValues_alike h]
    cases b.readValues _ with
    | error e => exact h
    | ok existing => exact save_alike h _ _ _ () () (.same _) (.same _)

/-- No version in the store is the last one. -/
def VersionsBelow (store : FileBacked) : Prop :=
  ∀ name namespaceName r, store.get name namespaceName = .ok r →
    r.metadata.resourceVersion.toNat + 1 < UInt64.size

theorem VersionsBelow.nextVersion? {store : FileBacked} (below : store.VersionsBelow)
    {namespaceName name : String} {path : TreePath} {r : MemoryRecord}
    (hpath : store.recordPath name namespaceName = .ok path)
    (hread : store.readRecord path = .ok (some r)) :
    ∃ version, Store.nextVersion? r.metadata.resourceVersion = some version := by
  have hget : store.get name namespaceName = .ok r := by
    simp only [get, hpath, hread]
  exact ⟨_, if_pos (below name namespaceName r hget)⟩

/-- **Stores that are alike stay so when a record is put into both.** -/
theorem put_alike (h : a.Alike b) (below : a.VersionsBelow) (below' : b.VersionsBelow)
    (record : MemoryRecord) : (a.put record).2.Alike (b.put record).2 := by
  unfold put
  have hroot : b.recordPath record.metadata.name record.metadata.namespaceName =
      a.recordPath record.metadata.name record.metadata.namespaceName := by
    rw [recordPath, recordPath, h.root]
  rw [hroot]
  cases hpath : a.recordPath record.metadata.name record.metadata.namespaceName with
  | error e => exact h
  | ok path =>
    have hpath' := hroot.trans hpath
    obtain ⟨-, -, rfl⟩ := pathOf_eq_ok.1 hpath
    have read := readRecord_alike h record.metadata.namespaceName record.metadata.name
    have saves (version version' : UInt64) := save_record_alike h record.metadata.namespaceName
      record.metadata.name (show (record.atVersion version).lasting =
        (record.atVersion version').lasting from rfl) (record.atVersion version)
      (record.atVersion version')
    dsimp only
    cases hread : a.readRecord _ with
    | error e =>
      cases hread' : b.readRecord _ with
      | error e' => exact h
      | ok found => simp [hread, hread', Except.map] at read
    | ok found =>
      cases hread' : b.readRecord _ with
      | error e' => simp [hread, hread', Except.map] at read
      | ok found' =>
        cases found with
        | none =>
          cases found' with
          | none => exact saves 1 1
          | some r' => simp [hread, hread', Except.map] at read
        | some r =>
          cases found' with
          | none => simp [hread, hread', Except.map] at read
          | some r' =>
            obtain ⟨version, hversion⟩ := below.nextVersion? hpath hread
            obtain ⟨version', hversion'⟩ := below'.nextVersion? hpath' hread'
            simp only [Option.elim, hversion, hversion']
            exact saves version version'

theorem Rewrites.alike {store after : FileBacked} {record stored : MemoryRecord} {version : UInt64}
    (h : store.Rewrites record stored version after) : store.Alike after := by
  obtain ⟨bytes, hfind, reads⟩ := readRecord_eq_some h.found
  refine ⟨h.root.symm, fun path => ?_⟩
  rw [h.entries]
  split
  · rename_i here
    rw [here, get?_of_find hfind]
    exact .record rfl reads (reads_record _) rfl
  · split
    · rename_i here
      rw [here]
      exact .spare rfl h.beside (by rintro ⟨⟩)
    · exact .same _

theorem LeavesBeside.alike {store after : FileBacked} {record stored : MemoryRecord}
    {version : UInt64} {count : Nat} (h : store.LeavesBeside record stored version count after) :
    store.Alike after := by
  refine ⟨h.root.symm, fun path => ?_⟩
  rw [h.entries]
  split
  · rename_i here
    rw [here]
    exact .spare rfl h.beside (by rintro ⟨⟩)
  · exact .same _

/-- **A status write leads to a store that is alike.** -/
theorem updateStatus_alike (store : FileBacked) (record : MemoryRecord) :
    store.Alike (store.updateStatus record).2 := by
  rcases updateStatus_cases store record with same | ⟨stored, version, rewrites⟩
  · rw [same]
    exact .refl store
  · exact rewrites.alike

/-- **So does what is left of one that is given up.** -/
theorem updateStatusUntil_alike (stage : WriteStage) (store : FileBacked) (record : MemoryRecord) :
    store.Alike (store.updateStatusUntil stage record) := by
  rcases updateStatusUntil_cases stage store record with
    same | ⟨count, stored, version, -, left⟩ | ⟨-, stored, version, rewrites⟩
  · rw [same]
    exact .refl store
  · exact left.alike
  · exact rewrites.alike

theorem updateStatus_ends {store : FileBacked} (below : store.VersionsBelow)
    (record : MemoryRecord) : (store.updateStatus record).1 ≠ .crashed := by
  have accepted : store.withStatus record ≠ .crashed := by
    simp only [withStatus]
    cases hpath : store.recordPath record.metadata.name record.metadata.namespaceName with
    | error e => rintro ⟨⟩
    | ok path =>
      dsimp only
      cases hread : store.readRecord path with
      | error e => rintro ⟨⟩
      | ok found =>
        cases found with
        | none => rintro ⟨⟩
        | some stored =>
          dsimp only
          cases Store.checkVersion stored record with
          | error e => rintro ⟨⟩
          | ok _ =>
            obtain ⟨version, hversion⟩ := below.nextVersion? hpath hread
            rw [hversion]
            rintro ⟨⟩
  rw [updateStatus]
  cases hwrite : store.withStatus record with
  | failed e => rintro ⟨⟩
  | crashed => exact absurd hwrite accepted
  | done write =>
    dsimp only [save]
    split <;> rintro ⟨⟩

end FileBacked

/-! ## Memory -/

namespace InMemory

variable {a b : InMemory}

/-- Two stores in memory whose records differ in nothing but what a status write changes. -/
structure Alike (a b : InMemory) : Prop where
  records : ∀ key, (a.records.get? key).map MemoryRecord.lasting =
    (b.records.get? key).map MemoryRecord.lasting
  values : ∀ key, a.values.get? key = b.values.get? key

theorem Alike.refl (a : InMemory) : a.Alike a := ⟨fun _ => rfl, fun _ => rfl⟩

theorem Alike.symm (h : a.Alike b) : b.Alike a :=
  ⟨fun key => (h.records key).symm, fun key => (h.values key).symm⟩

theorem Alike.trans {c : InMemory} (h : a.Alike b) (k : b.Alike c) : a.Alike c :=
  ⟨fun key => (h.records key).trans (k.records key), fun key => (h.values key).trans (k.values key)⟩

theorem Alike.set (h : a.Alike b) (key : String × String) {r r' : MemoryRecord}
    (lasting : r.lasting = r'.lasting) :
    Alike { a with records := a.records.set key r } { b with records := b.records.set key r' } := by
  refine ⟨fun other => ?_, h.values⟩
  by_cases hkey : other = key
  · subst hkey
    rw [Table.get?_set_self, Table.get?_set_self, Option.map, Option.map, lasting]
  · rw [Table.get?_set_of_ne _ hkey, Table.get?_set_of_ne _ hkey]
    exact h.records other

theorem get_alike (h : a.Alike b) (name namespaceName : String) :
    (a.get name namespaceName).map MemoryRecord.lasting =
      (b.get name namespaceName).map MemoryRecord.lasting := by
  have here := h.records (namespaceName, name)
  rw [get, get]
  cases ha : a.records.get? (namespaceName, name) with
  | none =>
    cases hb : b.records.get? (namespaceName, name) with
    | none => rfl
    | some r' => simp [ha, hb] at here
  | some r =>
    cases hb : b.records.get? (namespaceName, name) with
    | none => simp [ha, hb] at here
    | some r' =>
      rw [ha, hb] at here
      exact congrArg Except.ok (Option.some.inj here)

/-- No version in the store is the last one. -/
def VersionsBelow (store : InMemory) : Prop :=
  ∀ name namespaceName r, store.get name namespaceName = .ok r →
    r.metadata.resourceVersion.toNat + 1 < UInt64.size

/-- Whether every record in the table has a version before the last one. -/
def hasRoom (store : InMemory) : Bool :=
  store.records.all fun entry => decide (entry.2.metadata.resourceVersion.toNat + 1 < UInt64.size)

theorem versionsBelow_of_hasRoom {store : InMemory} (h : store.hasRoom = true) :
    store.VersionsBelow := by
  intro name namespaceName r found
  rw [get] at found
  split at found
  · rename_i record hget
    cases found
    have hmem := Table.mem_of_get? hget
    simpa using List.all_eq_true.1 h _ hmem
  · cases found

theorem VersionsBelow.versionOf {store : InMemory} (below : store.VersionsBelow)
    (key : String × String) : ∃ version, Store.nextVersion? (store.versionOf key) = some version := by
  rw [InMemory.versionOf]
  cases hget : store.records.get? key with
  | none => exact ⟨1, rfl⟩
  | some r =>
    have := below key.2 key.1 r (by rw [get, hget])
    exact ⟨_, if_pos this⟩

theorem put_alike (h : a.Alike b) (below : a.VersionsBelow) (below' : b.VersionsBelow)
    (record : MemoryRecord) : (a.put record).2.Alike (b.put record).2 := by
  obtain ⟨version, hversion⟩ := below.versionOf (keyOf record)
  obtain ⟨version', hversion'⟩ := below'.versionOf (keyOf record)
  simp only [put, hversion, hversion']
  exact h.set _ rfl

theorem updateStatus_alike (store : InMemory) (record : MemoryRecord) :
    store.Alike (store.updateStatus record).2 := by
  -- what is written is the stored record but for its status and its version
  have writes {stored updated : MemoryRecord}
      (found : store.get record.metadata.name record.metadata.namespaceName = .ok stored)
      (lasting : stored.lasting = updated.lasting) :
      store.Alike { store with records := store.records.set (keyOf record) updated } := by
    refine ⟨fun other => ?_, fun _ => rfl⟩
    by_cases hkey : other = keyOf record
    · subst hkey
      rw [get] at found
      split at found
      · rename_i hget
        cases found
        rw [Table.get?_set_self, keyOf, hget, Option.map, Option.map, lasting]
      · cases found
    · rw [Table.get?_set_of_ne _ hkey]
  simp only [updateStatus]
  cases hget : store.get record.metadata.name record.metadata.namespaceName with
  | error e => exact .refl store
  | ok stored =>
    dsimp only
    cases Store.checkVersion stored record with
    | error e => exact .refl store
    | ok _ =>
      cases Store.nextVersion? stored.metadata.resourceVersion with
      | none => exact writes hget rfl
      | some version => exact writes hget rfl

theorem updateStatus_ends {store : InMemory} (below : store.VersionsBelow) (record : MemoryRecord) :
    (store.updateStatus record).1 ≠ .crashed := by
  simp only [updateStatus]
  cases hget : store.get record.metadata.name record.metadata.namespaceName with
  | error e =>
    intro h
    cases h
  | ok stored =>
    dsimp only
    cases Store.checkVersion stored record with
    | error e =>
      intro h
      cases h
    | ok _ =>
      have hversion := below _ _ _ hget
      simp only [Store.nextVersion?, if_pos hversion]
      intro h
      cases h

theorem delete_alike (h : a.Alike b) (name namespaceName : String) :
    (a.delete name namespaceName).Alike (b.delete name namespaceName) := by
  refine ⟨fun other => ?_, h.values⟩
  by_cases hkey : other = (namespaceName, name)
  · subst hkey
    rw [delete, delete, Table.get?_erase_self, Table.get?_erase_self]
  · rw [delete, delete, Table.get?_erase_of_ne hkey, Table.get?_erase_of_ne hkey]
    exact h.records other

theorem setValue_alike (h : a.Alike b) (key : ValueKey) (value : String) :
    (a.setValue key value).Alike (b.setValue key value) := by
  refine ⟨h.records, fun other => ?_⟩
  by_cases hkey : other = key
  · subst hkey
    rw [setValue, setValue, Table.get?_set_self, Table.get?_set_self]
  · rw [setValue, setValue, Table.get?_set_of_ne _ hkey, Table.get?_set_of_ne _ hkey]
    exact h.values other

end InMemory

/-! ## Both kinds -/

namespace Store

variable {a b : Store}

/-- Two stores of one kind whose records differ in nothing but what a status write changes. -/
def Alike : Store → Store → Prop
  | memory a, memory b => a.Alike b
  | files a, files b => a.Alike b
  | _, _ => False

theorem Alike.refl : ∀ a : Store, a.Alike a
  | memory a => InMemory.Alike.refl a
  | files a => FileBacked.Alike.refl a

theorem Alike.symm : ∀ {a b : Store}, a.Alike b → b.Alike a
  | memory _, memory _, h => InMemory.Alike.symm h
  | files _, files _, h => FileBacked.Alike.symm h

theorem Alike.trans : ∀ {a b c : Store}, a.Alike b → b.Alike c → a.Alike c
  | memory _, memory _, memory _, h, k => InMemory.Alike.trans h k
  | files _, files _, files _, h, k => FileBacked.Alike.trans h k

/-- No version in the store is the last one. -/
def VersionsBelow (store : Store) : Prop :=
  ∀ name namespaceName r, (store.get name namespaceName).1 = .ok r →
    r.metadata.resourceVersion.toNat + 1 < UInt64.size

/-- Whether every record of a store in memory has a version before the last one. -/
def hasRoom : Store → Bool
  | memory store => store.hasRoom
  | files _ => false

theorem versionsBelow_of_hasRoom : ∀ {store : Store}, store.hasRoom = true → store.VersionsBelow
  | memory _, h => InMemory.versionsBelow_of_hasRoom h

theorem get_alike (h : a.Alike b) (name namespaceName : String) :
    (a.get name namespaceName).1.map MemoryRecord.lasting =
      (b.get name namespaceName).1.map MemoryRecord.lasting := by
  cases a <;> cases b <;> simp only [Alike] at h
  · exact InMemory.get_alike h name namespaceName
  · exact FileBacked.get_alike h name namespaceName

theorem configValue_alike (h : a.Alike b) (key : ValueKey) :
    a.configValue key = b.configValue key := by
  cases a <;> cases b <;> simp only [Alike] at h
  · exact congrArg Except.ok (h.values key)
  · exact FileBacked.configValue_alike h key

theorem put_alike (h : a.Alike b) (below : a.VersionsBelow) (below' : b.VersionsBelow)
    (record : MemoryRecord) : (a.put record).2.1.Alike (b.put record).2.1 := by
  cases a <;> cases b <;> simp only [Alike] at h
  · exact InMemory.put_alike h below below' record
  · exact FileBacked.put_alike h below below' record

theorem setValue_alike (h : a.Alike b) (key : ValueKey) (value : String) :
    (a.setValue key value).2.1.Alike (b.setValue key value).2.1 := by
  cases a <;> cases b <;> simp only [Alike] at h
  · exact InMemory.setValue_alike h key value
  · exact FileBacked.setValue_alike h key value

theorem delete_alike (h : a.Alike b) (name namespaceName : String) :
    (a.delete name namespaceName).1.Alike (b.delete name namespaceName).1 := by
  cases a <;> cases b <;> simp only [Alike] at h
  · exact InMemory.delete_alike h name namespaceName
  · exact h

/-- **A status write leads to a store that is alike.** -/
theorem updateStatus_alike (store : Store) (record : MemoryRecord) :
    store.Alike (store.updateStatus record).2.1 := by
  cases store with
  | memory store => exact InMemory.updateStatus_alike store record
  | files store => exact FileBacked.updateStatus_alike store record

/-- **So does what is left of one that is given up.** -/
theorem updateStatusUntil_alike (stage : WriteStage) (store : Store) (record : MemoryRecord) :
    store.Alike (store.updateStatusUntil stage record) := by
  cases store with
  | memory store =>
    rw [updateStatusUntil]
    split
    · exact InMemory.updateStatus_alike store record
    · exact InMemory.Alike.refl store
  | files store => exact FileBacked.updateStatusUntil_alike stage store record

theorem updateStatus_ends {store : Store} (below : store.VersionsBelow) (record : MemoryRecord) :
    (store.updateStatus record).1 ≠ .crashed := by
  cases store with
  | memory store =>
    have ends : (store.updateStatus record).1 ≠ .crashed := InMemory.updateStatus_ends below record
    simp only [updateStatus]
    cases hupdate : (store.updateStatus record).1 with
    | crashed => exact absurd hupdate ends
    | done r =>
      intro h
      cases h
    | failed e =>
      intro h
      cases h
  | files store =>
    have ends : (store.updateStatus record).1 ≠ .crashed :=
      FileBacked.updateStatus_ends below record
    simp only [updateStatus]
    cases hupdate : (store.updateStatus record).1 with
    | crashed => exact absurd hupdate ends
    | done r =>
      intro h
      cases h
    | failed e =>
      intro h
      cases h

end Store

end ConversationMemory
