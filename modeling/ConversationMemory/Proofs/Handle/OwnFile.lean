import ConversationMemory.Proofs.Handle.Interruption

/-!
# Which files an operation touches

* `Surroundings.files_of_footprint`: an operation over files writes one record at most, which is found
  by what the record that was read says about itself.
* **`Surroundings.other_files_kept_iff`**: so it leaves the files of others alone exactly when this is
  the name of the handle, and nothing stood beside the file; a write that nobody waits for any more may
  leave bytes beside it.
* `Surroundings.copied`: a record that was copied to the place of another one.
-/

namespace ConversationMemory.Surroundings

open FileBacked

variable {ι ρ ν : Type} {handle : Handle} {operation : Operation}
  {s t : Running (Scene ρ ν × List Call)} {files : FileBacked}

/-- An operation over files leaves them as they were, or writes a status to the record that the one
which was read says to be, or leaves bytes of that beside it. -/
theorem files_of_footprint {calls : List Call} (held : s.world.1.store = .files files)
    (h : Footprint handle operation s t calls) :
    ∃ after, t.world.1.store = .files after ∧
      (after = files ∨ ∃ record resolved stored version,
        files.get handle.name handle.namespaceName = .ok record ∧
        (files.Rewrites (Handle.drifted record resolved) stored version after ∨
          ∃ count, files.LeavesBeside (Handle.drifted record resolved) stored version count after)) := by
  rcases h.store with same | ⟨record, resolved, -, read, -, written | ⟨-, stage, left⟩⟩
  · exact ⟨files, same.trans held, .inl rfl⟩
  · rw [held] at read written
    refine ⟨(files.updateStatus (Handle.drifted record resolved)).2, written, ?_⟩
    rcases updateStatus_cases files (Handle.drifted record resolved) with same |
      ⟨stored, version, rewrites⟩
    · exact .inl same
    · exact .inr ⟨record, resolved, stored, version, read, .inl rewrites⟩
  · rw [held] at read left
    refine ⟨files.updateStatusUntil stage (Handle.drifted record resolved), left, ?_⟩
    rcases updateStatusUntil_cases stage files (Handle.drifted record resolved) with same |
      ⟨count, stored, version, -, beside⟩ | ⟨-, stored, version, rewrites⟩
    · exact .inl same
    · exact .inr ⟨record, resolved, stored, version, read, .inr ⟨count, beside⟩⟩
    · exact .inr ⟨record, resolved, stored, version, read, .inl rewrites⟩

/-- **Which files an operation touches.** However it ends, an operation of a handle leaves the files as
they were, or it writes a status: the record that was read for the handle says which file this is, and
what stood beside that file is gone. All files but the handle's own are left alone by this exactly when
the record says the name of the handle, and nothing stood beside its file. A write that was given up
half-way leaves the first bytes of what was to be written beside that file, which leaves the other files
alone exactly when just these bytes stood there before. An operation that nothing stops writes whenever
the address has changed. -/
theorem other_files_kept_iff (env : Surroundings ι ρ ν) (fates : Nat → Fate) (i : ι)
    (operation : Operation) (scope : Scope) (held : s.world.1.store = .files files) :
    let handle := env.handle i
    let ended := env.operate fates i operation scope s
    ∃ after, ended.2.world.1.store = .files after ∧
      (after = files ∨ ∃ record resolved stored version,
        files.get handle.name handle.namespaceName = .ok record ∧
        (files.Rewrites (Handle.drifted record resolved) stored version after ∧
          ((∀ path, path ≠ filePath files.root .memory handle.namespaceName handle.name →
              after.tree.get? path = files.tree.get? path) ↔
            record.metadata.namespaceName = handle.namespaceName ∧
              record.metadata.name = handle.name ∧ files.tree.get?
                (sparePath files.root .memory handle.namespaceName handle.name) = none) ∨
          ∃ count, files.LeavesBeside (Handle.drifted record resolved) stored version count after ∧
            ((∀ path, path ≠ filePath files.root .memory handle.namespaceName handle.name →
                after.tree.get? path = files.tree.get? path) ↔
              files.tree.get? (sparePath files.root .memory record.metadata.namespaceName
                record.metadata.name) = some (.file ((Utf8.bytesOf
                  ({ stored with status := (Handle.drifted record resolved).status }.atVersion
                    version).toJson.pretty).take count))))) ∧
      (operation.IsNonEmpty → ∀ r, ended.1 = .ok r → ¬ Interrupted r → .files after =
        env.storeAfter i s.handle.baseUrl (fates s.world.1.writes).lands s.world.1) := by
  intro handle ended
  obtain ⟨⟨calls, footprint⟩, -⟩ := @operate_footprint _ _ _ env fates i operation scope s
  obtain ⟨after, store, touched⟩ := files_of_footprint held footprint
  refine ⟨after, store, ?_, fun nonEmpty r result own => ?_⟩
  · refine touched.imp id ?_
    rintro ⟨record, resolved, stored, version, read, rewrites | ⟨count, left⟩⟩
    · exact ⟨record, resolved, stored, version, read, .inl ⟨rewrites, rewrites.elsewhere_iff⟩⟩
    · exact ⟨record, resolved, stored, version, read, .inr ⟨count, left, left.elsewhere_iff⟩⟩
  · have reached : ((env.handle i).perform ((env.world fates i).watched.collaborators .recording)
        scope.context operation).Reaches scope s r ended.2 := Prod.ext result rfl
    obtain interrupted | ⟨last, y, performed, hworld⟩ := Handle.reaches_perform nonEmpty reached
    · exact (own interrupted).elim
    · rw [← store, hworld]
      exact store_of_performed performed

/-! ## An example -/

/-- A record that does not say the name of the handle. -/
def foreign : MemoryRecord := (MemoryRecord.create "other" "team" (.literal "http://[::1]")).atVersion 1

/-- It has been copied to the place of the handle's own. -/
def copied : FileBacked where
  tree := ⟨[(["team"], .directory), (["team", "memories"], .directory),
    (["team", "memories", "notes.json"], .file (Utf8.bytesOf foreign.toJson.pretty)),
    (["team", "memories", "other.json"], .file (Utf8.bytesOf foreign.toJson.pretty))]⟩
  root := []

/-- The handle begins over these files. -/
def copiedStart : Running (Scene Unit Unit × List Call) where
  world := ({ pairStage.scene with store := .files copied }, [])
  handle := pairStage.states true
  now := 0

theorem copied_find {path : TreePath} (clean : ∀ name ∈ path, '\x00' ∉ name.toList) :
    copied.tree.find path = copied.tree.walk [] path := by
  rw [FileTree.find, if_neg (FileTree.not_any_nul clean)]

theorem copied_read {path : TreePath}
    (found : copied.tree.find path = .ok (some (.file (Utf8.bytesOf foreign.toJson.pretty)))) :
    copied.readRecord path = .ok (some foreign) := by
  exact readFile_eq_some.2 ⟨_, found, reads_record foreign⟩

theorem copied_get : copied.get "notes" "team" = .ok foreign := by
  have path : copied.recordPath "notes" "team" = .ok ["team", "memories", "notes.json"] := rfl
  have found : copied.tree.find ["team", "memories", "notes.json"] =
      .ok (some (.file (Utf8.bytesOf foreign.toJson.pretty))) := (copied_find (by decide)).trans rfl
  rw [FileBacked.get, path]
  dsimp only
  rw [copied_read found]

theorem copied_eq {name namespaceName : String} {r : MemoryRecord}
    (h : copied.get name namespaceName = .ok r) : r = foreign := by
  have text {path : TreePath} {bytes : List UInt8}
      (there : copied.tree.get? path = some (.file bytes)) :
      bytes = Utf8.bytesOf foreign.toJson.pretty := by
    rw [FileTree.get?] at there
    split at there
    · cases there
    · have entry := Table.mem_of_get? there
      simp only [copied, List.mem_cons, Prod.mk.injEq, FileEntry.file.injEq, List.not_mem_nil,
        or_false] at entry
      rcases entry with ⟨-, ⟨⟩⟩ | ⟨-, ⟨⟩⟩ | ⟨-, same⟩ | ⟨-, same⟩
      · exact same
      · exact same
  cases hpath : copied.recordPath name namespaceName with
  | error e =>
    simp only [FileBacked.get, hpath] at h
    cases h
  | ok path =>
    cases hread : copied.readRecord path with
    | error e =>
      simp only [FileBacked.get, hpath, hread] at h
      cases h
    | ok found =>
      cases found with
      | none =>
        simp only [FileBacked.get, hpath, hread] at h
        cases h
      | some read =>
        simp only [FileBacked.get, hpath, hread] at h
        cases h
        obtain ⟨bytes, found, reads⟩ := readRecord_eq_some hread
        rw [text (FileTree.get?_of_find found)] at reads
        exact reads.unique (reads_record foreign)

/-- A look at the history writes to the file of the other record. -/
theorem other_files_kept_iff_copied :
    ∃ after, (pair.operate kept true .get {} copiedStart).2.world.1.store = .files after ∧
      ¬ ∀ path, path ≠ filePath [] .memory "team" "notes" →
        after.tree.get? path = copied.tree.get? path := by
  have nonEmpty : Operation.get.IsNonEmpty := trivial
  have held : copiedStart.world.1.store = .files copied := rfl
  obtain ⟨after, store, -, settled⟩ := other_files_kept_iff pair kept true .get {} held
  have below : copiedStart.world.1.store.VersionsBelow := by
    intro name namespaceName r read
    rw [copied_eq read]
    decide
  have answers : pair.AnswersAt () () := ⟨rfl, fun _ => ⟨_, (), rfl, rfl⟩⟩
  obtain ⟨r, result, own⟩ : ∃ r, (pair.operate kept true .get {} copiedStart).1 = .ok r ∧
      ¬ Interrupted r := operate_of_isQuiet nonEmpty below answers ⟨rfl, rfl⟩
  have written := settled nonEmpty r result own
  have drift : pair.storeAfter true "http://old" true copiedStart.world.1 =
      .files (copied.updateStatus (Handle.drifted foreign "http://[::1]")).2 := by
    have read : (copiedStart.world.1.store.get (pair.handle true).name
        (pair.handle true).namespaceName).1 = .ok foreign := copied_get
    have differs : normalize "http://old" ≠ normalize "http://[::1]" := by decide
    simp only [storeAfter]
    rw [read]
    exact if_pos ⟨differs, trivial⟩
  have spare : copied.tree.find ["team", "memories", "other.json.tmp"] = .ok none :=
    (copied_find (by decide)).trans rfl
  have goal : copied.tree.find ["team", "memories", "other.json"] =
      .ok (some (.file (Utf8.bytesOf foreign.toJson.pretty))) := (copied_find (by decide)).trans rfl
  have rewrites : copied.Rewrites (Handle.drifted foreign "http://[::1]") foreign 2
      (copied.updateStatus (Handle.drifted foreign "http://[::1]")).2 :=
    rewrites_of_current rfl (copied_read goal) rfl rfl (by decide) spare (by decide)
  obtain rfl : after = _ := Store.files.inj (written.trans drift)
  refine ⟨_, store, fun all => ?_⟩
  have same : foreign.metadata.name = "notes" := (rewrites.elsewhere_iff.1 all).2.1
  exact absurd same (by decide)

end ConversationMemory.Surroundings
