import ConversationMemory.Proofs.Handle.OwnFile
import ConversationMemory.Proofs.Store.Reread
import ConversationMemory.Proofs.Store.Versions

/-!
# The last version

A version has 64 bits and is counted with a check for overflow: a write that would need one more breaks
down.

* `MemoryRecord.IsLast`: a record at the last version.
* **`FileBacked.put_crashed_iff`**, **`updateStatus_crashed_iff`**: exactly such records are not written.
  `version_of_put`, `version_of_updateStatus`: every other one gets the next version.
* `Fate.lost`: a status write that does not get to the store. `Surroundings.Breaks`: the status write of
  an operation would need a version after the last one.
* **`operates_unless`**: an operation goes as if its status write were lost, or it breaks down in that.
* **`breaks_at_last_version`**: both together, over files.
-/

namespace ConversationMemory

open Run

/-- The record has the last version that there is. -/
def MemoryRecord.IsLast (record : MemoryRecord) : Prop :=
  record.metadata.resourceVersion.toNat + 1 = UInt64.size

theorem MemoryRecord.isLast_iff {record : MemoryRecord} :
    record.IsLast ↔ Store.nextVersion? record.metadata.resourceVersion = none := by
  refine ⟨fun last => ?_, InMemory.nextVersion?_eq_none⟩
  cases hnext : Store.nextVersion? record.metadata.resourceVersion with
  | none => rfl
  | some next =>
    have low := next.toNat_lt_size
    have step := Store.nextVersion?_eq_some.1 hnext
    unfold IsLast at last
    omega

/-! ## Writes of files -/

namespace FileBacked

variable {store after : FileBacked} {record answer : MemoryRecord}

/-- The version that is stored; where no record is read it counts as zero. -/
def versionOf (store : FileBacked) (name namespaceName : String) : Nat :=
  match store.get name namespaceName with
  | .ok stored => stored.metadata.resourceVersion.toNat
  | .error _ => 0

theorem get_eq_ok_of_path {name namespaceName : String} {path : TreePath} {r : MemoryRecord}
    (located : store.recordPath name namespaceName = .ok path) :
    store.get name namespaceName = .ok r ↔ store.readRecord path = .ok (some r) := by
  rw [get_eq_ok]
  constructor
  · rintro ⟨other, located', read⟩
    cases located.symm.trans located'
    exact read
  · exact fun read => ⟨path, located, read⟩

theorem not_get_of_path {name namespaceName : String} {e : StoreError} {r : MemoryRecord}
    (refused : store.recordPath name namespaceName = .error e) :
    store.get name namespaceName ≠ .ok r := by
  intro read
  obtain ⟨path, located, -⟩ := get_eq_ok.1 read
  cases refused.symm.trans located

theorem save_ne_crashed {α : Type} {path : TreePath} {value : Json} {result : α} :
    (store.save path value result).1 ≠ .crashed := by
  unfold save
  split <;> exact nofun

/-- **A record is not stored in place of one at the last version**, and in place of any other one the
store does not break down. -/
theorem put_crashed_iff : (store.put record).1 = .crashed ↔ ∃ stored,
    store.get record.metadata.name record.metadata.namespaceName = .ok stored ∧ stored.IsLast := by
  unfold put
  cases hpath : store.recordPath record.metadata.name record.metadata.namespaceName with
  | error e => exact ⟨nofun, fun ⟨_, read, _⟩ => (not_get_of_path hpath read).elim⟩
  | ok path =>
    simp only [get_eq_ok_of_path hpath]
    cases hread : store.readRecord path with
    | error e => exact ⟨nofun, fun ⟨_, read, _⟩ => nomatch read⟩
    | ok existing =>
      cases existing with
      | none =>
        have first : Store.nextVersion? 0 = some 1 := by decide
        simp only [Option.elim_none, first]
        exact ⟨fun h => (save_ne_crashed h).elim, fun ⟨_, read, _⟩ => nomatch read⟩
      | some stored =>
        simp only [Except.ok.injEq, Option.some.injEq, exists_eq_left', MemoryRecord.isLast_iff,
          Option.elim_some]
        cases Store.nextVersion? stored.metadata.resourceVersion with
        | none => exact ⟨fun _ => rfl, fun _ => rfl⟩
        | some version =>
          dsimp only
          exact ⟨fun h => (save_ne_crashed h).elim, nofun⟩

/-- **A status is not written to a record at the last version**, and to any other one the store does not
break down. A record that was read at another version is refused before that. -/
theorem updateStatus_crashed_iff : (store.updateStatus record).1 = .crashed ↔ ∃ stored,
    store.get record.metadata.name record.metadata.namespaceName = .ok stored ∧
      stored.metadata.resourceVersion = record.metadata.resourceVersion ∧ stored.IsLast := by
  have ended : (store.updateStatus record).1 = .crashed ↔ store.withStatus record = .crashed := by
    unfold updateStatus
    cases store.withStatus record with
    | failed e => exact ⟨by rintro ⟨⟩, by rintro ⟨⟩⟩
    | crashed => exact ⟨fun _ => rfl, fun _ => rfl⟩
    | done write => exact ⟨fun h => (save_ne_crashed h).elim, by rintro ⟨⟩⟩
  rw [ended]
  unfold withStatus
  dsimp only
  cases hpath : store.recordPath record.metadata.name record.metadata.namespaceName with
  | error e =>
    refine ⟨by rintro ⟨⟩, ?_⟩
    rintro ⟨_, read, -⟩
    exact (not_get_of_path hpath read).elim
  | ok path =>
    simp only [get_eq_ok_of_path hpath]
    cases hread : store.readRecord path with
    | error e =>
      refine ⟨by rintro ⟨⟩, ?_⟩
      rintro ⟨_, ⟨⟩, -⟩
    | ok existing =>
      cases existing with
      | none =>
        refine ⟨by rintro ⟨⟩, ?_⟩
        rintro ⟨_, ⟨⟩, -⟩
      | some stored =>
        simp only [Except.ok.injEq, Option.some.injEq, exists_eq_left', MemoryRecord.isLast_iff,
          Store.checkVersion]
        by_cases current : stored.metadata.resourceVersion = record.metadata.resourceVersion
        · rw [if_pos current]
          dsimp only
          cases Store.nextVersion? stored.metadata.resourceVersion with
          | none => exact ⟨fun _ => ⟨current, rfl⟩, fun _ => rfl⟩
          | some version =>
            refine ⟨by rintro ⟨⟩, ?_⟩
            rintro ⟨-, ⟨⟩⟩
        · rw [if_neg current]
          exact ⟨by rintro ⟨⟩, fun h => (current h.1).elim⟩

theorem version_of_put (h : store.put record = (.done answer, after)) :
    after.versionOf record.metadata.name record.metadata.namespaceName =
      store.versionOf record.metadata.name record.metadata.namespaceName + 1 := by
  simp only [versionOf, (get_of_put h).2]
  unfold put at h
  cases hpath : store.recordPath record.metadata.name record.metadata.namespaceName with
  | error e =>
    rw [hpath] at h
    cases h
  | ok path =>
    simp only [hpath] at h
    cases hread : store.readRecord path with
    | error e =>
      rw [hread] at h
      cases h
    | ok existing =>
      simp only [hread] at h
      split at h
      · cases h
      · rename_i version hnext
        obtain rfl := result_of_save h
        have next := Store.nextVersion?_eq_some.1 hnext
        simp only [get, hpath, hread]
        cases existing with
        | none => exact next
        | some stored => exact next

theorem version_of_updateStatus (h : store.updateStatus record = (.done answer, after)) :
    after.versionOf record.metadata.name record.metadata.namespaceName =
      store.versionOf record.metadata.name record.metadata.namespaceName + 1 := by
  obtain ⟨⟨stored, version, before, hnext, rfl⟩, read⟩ := get_of_updateStatus h
  simp only [versionOf, before, read]
  exact Store.nextVersion?_eq_some.1 hnext

theorem updateStatus_done_or (store : FileBacked) (record : MemoryRecord) :
    (∃ answer, store.updateStatus record = (.done answer, (store.updateStatus record).2)) ∨
      (store.updateStatus record).2 = store := by
  rcases withStatus_cases store record with
    ⟨e, failed⟩ | crashed | ⟨stored, version, path, found, current, next⟩
  · exact .inr (by rw [updateStatus, failed])
  · exact .inr (by rw [updateStatus, crashed])
  · obtain ⟨bytes, hfind, -⟩ := readRecord_eq_some found
    rw [updateStatus, withStatus_of_current path found current next]
    rcases writeJson_cases hfind
      ({ stored with status := record.status }.atVersion version).toJson with
      ⟨e, failed⟩ | ⟨point, entry, spare, beside⟩
    · exact .inr (by simp only [save, failed])
    · obtain ⟨tree, wrote, -⟩ := writeJson_over hfind point spare beside
        ({ stored with status := record.status }.atVersion version).toJson
      simp only [save, wrote]
      exact .inl ⟨_, rfl⟩

end FileBacked

/-! ## Calls that are noted down -/

theorem Reply.Alike.noted {σ α β : Type} {timed : Prop} {answers : α → β → Prop}
    {after left : σ → σ → Prop} {x : Reply σ α} {y : Reply σ β} (h : x.Alike timed answers after left y)
    (call : Option α → Call) (call' : Option β → Call) (calls calls' : List Call) :
    (x.noted call calls).Alike timed answers (fun x y => after x.1 y.1) (fun x y => left x.1 y.1)
      (y.noted call' calls') := by
  cases x <;> cases y <;> exact h

theorem World.SendsAlike.watched {σ : Type} {timed : Prop} {fresh written : σ → σ → Prop}
    {world other : World σ} (h : world.SendsAlike timed fresh written other)
    {start : σ × List Call → σ × List Call → Prop} (weaken : ∀ x y, start x y → written x.1 y.1) :
    world.watched.SendsAlike timed start (fun x y => written x.1 y.1) other.watched where
  weaken := weaken
  send request x y hxy := (h.send request x.1 y.1 hxy).noted _ _ _ _
  log entry x := ⟨congrArg (·, x.2) (h.log entry x.1).1, congrArg (·, x.2) (h.log entry x.1).2⟩

/-! ## Operations -/

theorem Reply.after_still {σ α : Type} {timed : Prop} {answers : α → α → Prop} {left : σ → σ → Prop}
    {delay : Option Nat} {a b : α} {x : σ} (h : answers a b) (same : left x x) :
    (Reply.after delay a x).Alike timed answers (fun y z => y = x ∧ z = x) left
      (Reply.after delay b x) :=
  Reply.after_alike h ⟨rfl, rfl⟩ same

/-- The status write does not get to the store while someone waits for it. -/
def Fate.lost (fate : Fate) : Fate := { fate with lands := false }

variable {ι ρ ν : Type}

theorem Scene.writeBack_lost (scene : Scene ρ ν) (fate : Fate) (record : MemoryRecord) :
    ∃ answer, scene.writeBack fate.lost record = .afterWait fate.delay answer
      (scene.written .unstarted record) (scene.written fate.unheard record) :=
  (scene.writeBack_cases fate.lost record).resolve_left fun breaks => nomatch breaks.1.1

namespace Surroundings

/-- The status write of an operation that begins in a scene breaks down: the address has changed, the
write gets to the store, and it would need a version after the last one. -/
def Breaks (env : Surroundings ι ρ ν) (fates : Nat → Fate) (i : ι) (scene : Scene ρ ν)
    (state : HandleState) : Prop :=
  ∃ record resolved,
    (scene.store.get (env.handle i).name (env.handle i).namespaceName).1 = .ok record ∧
    env.resolve i scene.circumstances (fun key => scene.store.configValue key) record.spec.address
      (env.handle i).namespaceName = .ok resolved ∧
    normalize state.baseUrl ≠ normalize resolved ∧ (fates scene.writes).lands ∧
    (scene.store.updateStatus (Handle.drifted record resolved)).1 = .crashed

variable {env : Surroundings ι ρ ν} {fates : Nat → Fate} {i : ι} {operation : Operation}

/-- **An operation goes as if its status write were lost**, or it breaks down in that. -/
theorem operates_unless (env : Surroundings ι ρ ν) (fates : Nat → Fate) (i : ι) (operation : Operation)
    (context : OperationContext) (scene : Scene ρ ν) :
    CoupledUnless True (env.Breaks fates i scene) (fun x y => x.1.Alike y.1)
      (fun x y => x.1 = scene ∧ y.1 = scene)
      ((env.handle i).perform ((env.world fates i).watched.collaborators .recording) context operation)
      ((env.handle i).perform ((env.world (fun k => (fates k).lost) i).watched.collaborators .recording)
        context operation) Eq (fun x y => x.1.Alike y.1) := by
  have same : scene.Alike scene := ⟨.refl _, rfl, rfl, rfl, rfl⟩
  have weaken (x y : Scene ρ ν × List Call) (h : x.1 = scene ∧ y.1 = scene) : x.1.Alike y.1 := by
    rw [h.1, h.2]
    exact same
  have alike : World.Alike True Scene.Fresh Scene.Alike (env.world fates i)
      (env.world (fun k => (fates k).lost) i) := env.world_alike i fun _ _ => rfl
  have sends := alike.toSendsAlike.watched weaken
  refine Handle.performs_unless sends (fun name => ?_) operation (.inl trivial)
  refine Handle.reconciles_unless
    (fun a b => a = b ∧
      (scene.store.get (env.handle i).name (env.handle i).namespaceName).1 = .ok a)
    (fun record found => found = env.resolve i scene.circumstances
      (fun key => scene.store.configValue key) record.spec.address (env.handle i).namespaceName)
    weaken sends.log ?_ ?_ ?_ name
  · rintro ⟨x, calls⟩ ⟨y, calls'⟩ ⟨hx, hy⟩
    obtain rfl : scene = x := hx.symm
    obtain rfl : scene = y := hy.symm
    refine (Reply.after_still ?_ same).noted _ _ _ _
    cases (scene.store.get (env.handle i).name (env.handle i).namespaceName).1 with
    | ok record => exact ⟨rfl, rfl⟩
    | error e => exact rfl
  · rintro record _ ⟨rfl, -⟩ ⟨x, calls⟩ ⟨y, calls'⟩ ⟨hx, hy⟩
    obtain rfl : scene = x := hx.symm
    obtain rfl : scene = y := hy.symm
    exact (Reply.after_still ⟨rfl, rfl⟩ same).noted _ _ _ _
  · rintro record _ resolved state ⟨rfl, read⟩ found differs ⟨x, calls⟩ ⟨y, calls'⟩ ⟨hx, hy⟩
    obtain rfl : scene = x := hx.symm
    obtain rfl : scene = y := hy.symm
    obtain ⟨answer', lost⟩ := scene.writeBack_lost (fates scene.writes)
      (Handle.drifted record resolved)
    rcases Scene.writeBack_cases scene (fates scene.writes) (Handle.drifted record resolved) with
      ⟨⟨lands, crashed⟩, after, breaks⟩ | ⟨answer, wrote⟩
    · refine .inl ⟨⟨(after, calls ++ [.updateStatus (Handle.drifted record resolved) none]), ?_⟩, record,
        resolved, read, found.symm, differs, lands, crashed⟩
      simp only [World.watched, world, breaks]
      rfl
    · have replied : (scene.writeBack (fates scene.writes) (Handle.drifted record resolved)).Alike True
          (fun _ _ => True) Scene.Alike Scene.Alike
          (scene.writeBack (fates scene.writes).lost (Handle.drifted record resolved)) := by
        rw [wrote, lost]
        exact ⟨fun _ => rfl, trivial, same.written _ _ _ _, same.written _ _ _ _⟩
      exact .inr (replied.noted _ _ _ _)

theorem not_performed_of_breaks {x y : Scene ρ ν × List Call} {state : HandleState}
    {r : Except MemoryError Answer} {base : String} (h : env.Breaks fates i x.1 state) :
    ¬ Handle.Performed (env.world fates i).watched (env.handle i) operation state x r y base := by
  obtain ⟨record, resolved, read, found, differs, lands, crashed⟩ := h
  have unreconciled {q : Except MemoryError String} {z : Scene ρ ν × List Call} :
      ¬ Handle.Reconciled (env.world fates i).watched (env.handle i) operation.name state.baseUrl x q
        z := by
    intro h
    cases h with
    | unread unread => cases read.symm.trans (scene_of_get unread).1.symm
    | unresolved reads resolves =>
      obtain ⟨hread, hfound, -⟩ := scene_of_found reads resolves
      cases read.symm.trans hread.symm
      cases found.symm.trans hfound.symm
    | kept reads resolves same =>
      obtain ⟨hread, hfound, -⟩ := scene_of_found reads resolves
      cases read.symm.trans hread.symm
      cases found.symm.trans hfound.symm
      exact differs same
    | drifted reads resolves _ written =>
      obtain ⟨hread, hfound, hz⟩ := scene_of_found reads resolves
      cases read.symm.trans hread.symm
      cases found.symm.trans hfound.symm
      have replied := (Reply.answers_noted.1 written).1
      simp only [world, World.watched, Scene.writeBack, hz, lands, if_true, crashed] at replied
      exact replied
  intro h
  cases h with
  | unreconciled reconciled => exact unreconciled reconciled
  | unsent reconciled refused => exact unreconciled reconciled
  | sent reconciled prepared answered => exact unreconciled reconciled

/-- The same over files, with what is read from them: the record that is read for a handle says whose
status is written, and that one is at the last version. -/
def Overflows (env : Surroundings ι ρ ν) (fates : Nat → Fate) (i : ι) (files : FileBacked)
    (scene : Scene ρ ν) (state : HandleState) : Prop :=
  ∃ record resolved stored,
    files.get (env.handle i).name (env.handle i).namespaceName = .ok record ∧
    env.resolve i scene.circumstances files.configValue record.spec.address
      (env.handle i).namespaceName = .ok resolved ∧
    normalize state.baseUrl ≠ normalize resolved ∧ (fates scene.writes).lands ∧
    files.get record.metadata.name record.metadata.namespaceName = .ok stored ∧
    stored.metadata.resourceVersion = record.metadata.resourceVersion ∧ stored.IsLast

variable {files : FileBacked} {scope : Scope} {s : Running (Scene ρ ν × List Call)}

theorem breaks_iff_overflows {scene : Scene ρ ν} {state : HandleState}
    (held : scene.store = .files files) :
    env.Breaks fates i scene state ↔ env.Overflows fates i files scene state := by
  have crashed (record : MemoryRecord) (resolved : String) :
      ((Store.files files).updateStatus (Handle.drifted record resolved)).1 = .crashed ↔ ∃ stored,
        files.get record.metadata.name record.metadata.namespaceName = .ok stored ∧
          stored.metadata.resourceVersion = record.metadata.resourceVersion ∧ stored.IsLast := by
    have exhausted : (files.updateStatus (Handle.drifted record resolved)).1 = .crashed ↔ ∃ stored,
        files.get record.metadata.name record.metadata.namespaceName = .ok stored ∧
          stored.metadata.resourceVersion = record.metadata.resourceVersion ∧ stored.IsLast :=
      FileBacked.updateStatus_crashed_iff
    refine Iff.trans ?_ exhausted
    simp only [Store.updateStatus]
    cases (files.updateStatus (Handle.drifted record resolved)).1 <;> simp [Ending.map]
  unfold Breaks Overflows
  simp only [held, crashed]
  constructor
  · rintro ⟨record, resolved, read, found, differs, lands, stored, last⟩
    exact ⟨record, resolved, stored, read, found, differs, lands, last⟩
  · rintro ⟨record, resolved, stored, read, found, differs, lands, last⟩
    exact ⟨record, resolved, read, found, differs, lands, stored, last⟩

/-- However an operation over files ends, it leaves them as they were, or a status write has gone
through, or nobody reads what is left of one. -/
theorem files_of_operate (env : Surroundings ι ρ ν) (fates : Nat → Fate) (i : ι) (operation : Operation)
    (scope : Scope) (held : s.world.1.store = .files files) :
    ∃ after, (env.operate fates i operation scope s).2.world.1.store = .files after ∧
      (after = files ∨ ∃ record resolved,
        files.get (env.handle i).name (env.handle i).namespaceName = .ok record ∧
          ((∃ answer, files.updateStatus (Handle.drifted record resolved) = (.done answer, after)) ∨
            (Store.files after).ReadsAs (.files files) ∧
              ∃ stage, after = files.updateStatusUntil stage (Handle.drifted record resolved))) := by
  obtain ⟨⟨calls, footprint⟩, -⟩ := @operate_footprint _ _ _ env fates i operation scope s
  rcases footprint.store with same | ⟨record, resolved, -, read, -, written | ⟨reads, stage, left⟩⟩
  · exact ⟨files, same.trans held, .inl rfl⟩
  · rw [held] at read written
    refine ⟨(files.updateStatus (Handle.drifted record resolved)).2, written, ?_⟩
    rcases files.updateStatus_done_or (Handle.drifted record resolved) with ⟨answer, done⟩ | same
    · exact .inr ⟨record, resolved, read, .inl ⟨answer, done⟩⟩
    · exact .inl same
  · rw [held] at read reads left
    rw [left] at reads
    exact ⟨_, left, .inr ⟨record, resolved, read, .inr ⟨reads, stage, rfl⟩⟩⟩

/-- **What happens at the last version**, where versions are counted with a check for overflow. A store in
files breaks down when it is to write to a record at the last version, and only then; whatever it writes
otherwise is stored at the next version. An operation of a handle goes as if its status write were lost,
in every scope, or it breaks down, and that only when the address has changed, the write gets to the
store, and the record that it goes to is at the last version. When nothing stops the operation this is
exactly when it breaks down, and otherwise it comes to the result that it would come to without the
write. What it leaves behind in the files is what was there, a status that has been written, or the
beginning of one, which nobody reads. -/
theorem breaks_at_last_version (env : Surroundings ι ρ ν) (fates : Nat → Fate) (i : ι)
    (operation : Operation) (scope : Scope) (s : Running (Scene ρ ν × List Call))
    (held : s.world.1.store = .files files) :
    let ended := env.operate fates i operation scope s
    let spared := env.operate (fun k => (fates k).lost) i operation scope s
    let overflows := env.Overflows fates i files s.world.1 s.handle
    (∀ record : MemoryRecord,
      let name := record.metadata.name
      let namespaceName := record.metadata.namespaceName
      ((files.put record).1 = .crashed ↔
        ∃ stored, files.get name namespaceName = .ok stored ∧ stored.IsLast) ∧
      ((files.updateStatus record).1 = .crashed ↔
        ∃ stored, files.get name namespaceName = .ok stored ∧
          stored.metadata.resourceVersion = record.metadata.resourceVersion ∧ stored.IsLast) ∧
      ∀ answer after, files.put record = (.done answer, after) ∨
          files.updateStatus record = (.done answer, after) →
        after.get name namespaceName = .ok answer ∧
          after.versionOf name namespaceName = files.versionOf name namespaceName + 1) ∧
    (ended.1 = .error .crashed ∧ overflows ∨
      ended.1 = spared.1 ∧ ended.2.handle = spared.2.handle ∧
        ended.2.world.1.sent = spared.2.world.1.sent ∧
        ended.2.events.map OperationEvent.undated = spared.2.events.map OperationEvent.undated) ∧
    (operation.IsNonEmpty → env.AnswersAt s.world.1.circumstances s.world.1.network →
      ((env.handle i).innerScope scope s.now).IsQuiet → ∃ r, spared.1 = .ok r ∧ ¬ Interrupted r ∧
        (overflows → ended.1 = .error .crashed) ∧ (¬ overflows → ended.1 = .ok r)) ∧
    ∃ after, ended.2.world.1.store = .files after ∧
      (after = files ∨ ∃ record resolved,
        files.get (env.handle i).name (env.handle i).namespaceName = .ok record ∧
          ((∃ answer, files.updateStatus (Handle.drifted record resolved) = (.done answer, after)) ∨
            (Store.files after).ReadsAs (.files files) ∧
              ∃ stage, after = files.updateStatusUntil stage (Handle.drifted record resolved))) := by
  intro ended spared overflows
  have same : s.Alike True (fun x y => x.1 = s.world.1 ∧ y.1 = s.world.1) s :=
    ⟨⟨rfl, rfl⟩, rfl, rfl, rfl, fun _ => rfl, fun _ => rfl⟩
  have alike : ended.1 = .error .crashed ∧ overflows ∨ ended.1 = spared.1 ∧
      ended.2.Alike True (fun x y => x.1.Alike y.1) spared.2 := by
    refine (env.operates_unless fates i operation scope.context s.world.1 scope s s (.inl trivial)
      same).imp (fun crashed => ?_) fun ended => ended.eq
    exact ⟨crashed.1, (breaks_iff_overflows held).1 crashed.2⟩
  refine ⟨fun record => ⟨FileBacked.put_crashed_iff, FileBacked.updateStatus_crashed_iff, ?_⟩,
    alike.imp id ?_, fun nonEmpty answers quiet => ?_, env.files_of_operate fates i operation scope held⟩
  · rintro answer after (put | updated)
    · exact ⟨(FileBacked.get_of_put put).2, FileBacked.version_of_put put⟩
    · exact ⟨(FileBacked.get_of_updateStatus updated).2, FileBacked.version_of_updateStatus updated⟩
  · rintro ⟨outcome, last⟩
    exact ⟨outcome, last.handle, last.world.sent, last.events⟩
  · have serves := answers.serves_of (fun _ => True) (fun k => (fates k).lost) i fun scene record _ =>
      scene.writeBack_lost (fates scene.writes) record
    obtain ⟨r, t, reached, own⟩ := Handle.settles_perform serves nonEmpty ⟨trivial, rfl, rfl⟩ quiet
    have result : spared.1 = .ok r := congrArg Prod.fst reached
    refine ⟨r, result, own, fun exhausted => ?_, fun room => ?_⟩
    · refine (alike.resolve_right fun h => ?_).1
      have reached : ((env.handle i).perform ((env.world fates i).watched.collaborators .recording)
          scope.context operation).Reaches scope s r ended.2 := Prod.ext (h.1.trans result) rfl
      obtain interrupted | ⟨last, y, performed, -⟩ := Handle.reaches_perform nonEmpty reached
      · exact own interrupted
      · exact not_performed_of_breaks ((breaks_iff_overflows held).2 exhausted) performed
    · exact (alike.resolve_left fun crashed => room crashed.2).1.trans result

/-! ## An example -/

/-- A record at the last version. -/
def spent : MemoryRecord :=
  (MemoryRecord.create "notes" "team" (.literal "http://[::1]")).atVersion 18446744073709551615

/-- A text in the file of a record. -/
def notesFiles (text : String) : FileBacked where
  tree := ⟨[(["team"], .directory), (["team", "memories"], .directory),
    (["team", "memories", "notes.json"], .file (Utf8.bytesOf text))]⟩
  root := []

/-- The record at the last version stands there. -/
def spentFiles : FileBacked := notesFiles spent.toJson.pretty

/-- The handle begins over this file. -/
def spentStart : Running (Scene Unit Unit × List Call) where
  world := ({ pairStage.scene with store := .files spentFiles }, [])
  handle := pairStage.states true
  now := 0

/-- What is added. -/
def greeting : Operation := .add [⟨.user, [("content", .string "hello")]⟩]

theorem spentFiles_get : spentFiles.get "notes" "team" = .ok spent := by
  have found (text : String) : (notesFiles text).tree.find ["team", "memories", "notes.json"] =
      .ok (some (.file (Utf8.bytesOf text))) := (FileTree.find_of_clean _ (by decide)).trans rfl
  exact FileBacked.get_eq_ok.2 ⟨["team", "memories", "notes.json"], rfl,
    FileBacked.readFile_eq_some.2 ⟨_, found _, FileBacked.reads_record spent⟩⟩

theorem spent_lookUp :
    pair.lookUp true greeting.name spentStart.world.1 = .ok "http://[::1]" := by
  have read : (spentStart.world.1.store.get (pair.handle true).name (pair.handle true).namespaceName).1 =
    .ok spent := spentFiles_get
  simp only [lookUp, read]
  exact congrArg Except.ok (by decide : normalize "http://[::1]" = "http://[::1]")

/-- A message is added if the status write is lost, and otherwise nothing comes of it. -/
theorem breaks_at_last_version_spent :
    (spentFiles.put spent).1 = .crashed ∧
      (pair.operate kept true greeting {} spentStart).1 = .error .crashed ∧
      (pair.operate (fun k => (kept k).lost) true greeting {} spentStart).1 = .ok (.ok .added) := by
  have held : spentStart.world.1.store = .files spentFiles := rfl
  obtain ⟨writes, -, quietly, -⟩ := breaks_at_last_version pair kept true greeting {} spentStart held
  have nonEmpty : greeting.IsNonEmpty := List.cons_ne_nil _ _
  have last : spent.IsLast := rfl
  have answers : pair.AnswersAt () () := ⟨rfl, fun _ => ⟨_, (), rfl, rfl⟩⟩
  obtain ⟨r, result, own, breaks, -⟩ := quietly nonEmpty answers ⟨rfl, rfl⟩
  have differs : normalize "http://old" ≠ normalize "http://[::1]" := by decide
  refine ⟨(writes spent).1.2 ⟨spent, spentFiles_get, last⟩, breaks ?_, ?_⟩
  · exact ⟨spent, _, spent, spentFiles_get, rfl, differs, rfl, spentFiles_get, rfl, last⟩
  · obtain ⟨sent, -, outcome⟩ := outcome_of_operate nonEmpty result own
    rw [spent_lookUp] at outcome
    obtain ⟨request, prepared⟩ : ∃ request,
        (pair.handle true).requestFor spentStart.handle greeting "http://[::1]" = .ok request :=
      ⟨_, rfl⟩
    obtain ⟨rfl, -⟩ := outcome.unique (.sent prepared ⟨rfl, rfl⟩)
    exact result

end Surroundings

end ConversationMemory
