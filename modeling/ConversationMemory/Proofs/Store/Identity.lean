import ConversationMemory.Proofs.Store.Apart
import ConversationMemory.Proofs.Store.Clients
import ConversationMemory.Proofs.Store.Reread

/-!
# Who a record says it is

* `FileTree.find_of_kept`: what stands where a file was found, is found as long as no directory has
  gone away.
* **`FileBacked.get_after_put`**, **`FileBacked.get_after_updateStatus`**: what is read of a name after
  something is written for this name or another one.
* `FileBacked.Identifies`: the record of a name has an identity.
-/

namespace ConversationMemory

theorem FileTree.find_of_kept {tree after : FileTree} {path : TreePath} {bytes : List UInt8}
    (found : tree.find path = .ok (some (.file bytes)))
    (keeps : ∀ q, tree.get? q = some .directory → after.get? q = some .directory) :
    after.find path = .ok (after.get? path) := by
  obtain rfl | ⟨names, last, rfl⟩ := List.eq_nil_or_concat path
  · cases found
  · rw [List.concat_eq_append] at *
    have clean := found
    rw [find] at clean
    split at clean
    · cases clean
    · have way := (walk_directory clean).1
      have agree (q : TreePath) (nonEmpty : q ≠ []) (le : q <+: names) :
          tree.get? q = after.get? q := by
        have there := get?_of_walk way q nonEmpty le
        rw [List.nil_append] at there
        rw [there, keeps q there]
      rcases find_pair names last agree with ⟨e, refused, -⟩ | ⟨-, there⟩
      · rw [found] at refused
        cases refused
      · exact there

namespace FileBacked

variable {store after : FileBacked} {namespaceName name uid : String} {record r : MemoryRecord}

/-! ## Reading what has not been touched -/

theorem get_of_kept (root : after.root = store.root)
    (keeps : ∀ q, store.tree.get? q = some .directory → after.tree.get? q = some .directory)
    (same : after.tree.get? (filePath store.root .memory namespaceName name) =
      store.tree.get? (filePath store.root .memory namespaceName name))
    (got : store.get name namespaceName = .ok r) : after.get name namespaceName = .ok r := by
  obtain ⟨path, located, read⟩ := get_eq_ok.1 got
  obtain ⟨-, -, rfl⟩ := pathOf_eq_ok.1 located
  obtain ⟨bytes, found, reads⟩ := readRecord_eq_some read
  refine get_eq_ok.2 ⟨_, by rwa [recordPath, root], ?_⟩
  have there := FileTree.find_of_kept found keeps
  rw [same, FileTree.get?_of_find found] at there
  exact readFile_eq_some.2 ⟨bytes, there, reads⟩

/-! ## Reading after a write -/

theorem put_cases (store : FileBacked) (record : MemoryRecord) :
    (store.put record).2 = store ∨
      ∃ version, store.put record = store.save
        (filePath store.root .memory record.metadata.namespaceName record.metadata.name)
        (record.atVersion version).toJson (record.atVersion version) := by
  unfold put
  split
  · exact .inl rfl
  · rename_i path located
    obtain ⟨-, -, rfl⟩ := pathOf_eq_ok.1 located
    split
    · exact .inl rfl
    · split
      · exact .inl rfl
      · exact .inr ⟨_, rfl⟩

theorem get_of_put_other
    (other : record.metadata.namespaceName = namespaceName → record.metadata.name ≠ name)
    (got : store.get name namespaceName = .ok r) :
    (store.put record).2.get name namespaceName = .ok r := by
  have stays := put_staysAt store record
  refine get_of_kept stays.root stays.keeps ?_ got
  obtain same | ⟨version, saved⟩ := put_cases store record
  · rw [same]
  · have apart : filePath store.root .memory record.metadata.namespaceName record.metadata.name ≠
        filePath store.root .memory namespaceName name :=
      fun same => other (filePath_inj.1 same).2.1 (filePath_inj.1 same).2.2
    rw [saved, save]
    have others := writeJson_other store.tree (record.atVersion version).toJson apart
    split <;> rename_i wrote <;> rw [wrote] at others <;> exact others

/-- **What is read of a name after a record is put**: what was read before, or the record, which has
been stored under this name. -/
theorem get_after_put (record : MemoryRecord) (got : store.get name namespaceName = .ok r) :
    (store.put record).2.get name namespaceName = .ok r ∨
      record.metadata.namespaceName = namespaceName ∧ record.metadata.name = name ∧
        ∃ version, (store.put record).1 = .done (record.atVersion version) ∧
          (store.put record).2.get name namespaceName = .ok (record.atVersion version) := by
  by_cases mine : record.metadata.namespaceName = namespaceName ∧ record.metadata.name = name
  · obtain ⟨rfl, rfl⟩ := mine
    rcases hput : store.put record with ⟨ending, after⟩
    cases ending with
    | done answer =>
      obtain ⟨⟨version, rfl⟩, found⟩ := get_of_put hput
      exact .inr ⟨rfl, rfl, version, rfl, found⟩
    | failed e | crashed =>
      -- a file that stands there is written, or nothing changes
      have kept : after = store := by
        obtain same | ⟨version, saved⟩ := put_cases store record
        · rwa [hput] at same
        · rw [hput, save] at saved
          obtain ⟨path, located, read⟩ := get_eq_ok.1 got
          obtain ⟨-, -, rfl⟩ := pathOf_eq_ok.1 located
          obtain ⟨bytes, found, -⟩ := readRecord_eq_some read
          rcases writeJson_cases found (record.atVersion version).toJson with
            ⟨e, failed⟩ | ⟨point, entry, spare, beside⟩
          · rw [failed] at saved
            exact (Prod.mk.inj saved).2
          · obtain ⟨tree, wrote, -⟩ := writeJson_over found point spare beside
              (record.atVersion version).toJson
            rw [wrote] at saved
            cases saved
      rw [kept]
      exact .inl got
  · exact .inl (get_of_put_other (fun same same' => mine ⟨same, same'⟩) got)

/-- **What is read of a name after a status is written**, whatever it is written for: what was read
before, or the same with the new status at some version. -/
theorem get_after_updateStatus (record : MemoryRecord) (got : store.get name namespaceName = .ok r) :
    (store.updateStatus record).2.get name namespaceName = .ok r ∨
      ∃ version, (store.updateStatus record).2.get name namespaceName =
        .ok ({ r with status := record.status }.atVersion version) := by
  obtain same | ⟨stored, version, rewrites⟩ := updateStatus_cases store record
  · rw [same]
    exact .inl got
  · have stays := updateStatus_staysAt store record
    by_cases mine : filePath store.root .memory namespaceName name =
      filePath store.root .memory record.metadata.namespaceName record.metadata.name
    · -- what was read is written again, with another status
      obtain ⟨path, located, read⟩ := get_eq_ok.1 got
      obtain ⟨-, -, rfl⟩ := pathOf_eq_ok.1 located
      obtain rfl : r = stored := by
        have both := read.symm.trans (mine ▸ rewrites.found)
        exact Option.some.inj (Except.ok.inj both)
      obtain ⟨bytes, found, -⟩ := readRecord_eq_some read
      have there := FileTree.find_of_kept found stays.keeps
      rw [rewrites.entries, if_pos mine] at there
      exact .inr ⟨version, get_eq_ok.2 ⟨_, by rwa [recordPath, stays.root], readFile_eq_some.2
        ⟨_, there, reads_record _⟩⟩⟩
    · refine .inl (get_of_kept stays.root stays.keeps ?_ got)
      rw [rewrites.entries, if_neg mine, if_neg filePath_ne_sparePath]

/-! ## Identities -/

/-- The record of a name has this identity. -/
def Identifies (store : FileBacked) (namespaceName name uid : String) : Prop :=
  ∃ record, store.get name namespaceName = .ok record ∧ record.metadata.uid = uid

end FileBacked

end ConversationMemory
