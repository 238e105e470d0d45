import ConversationMemory.Proofs.Store.Alike
import ConversationMemory.Proofs.Store.Refused
import ConversationMemory.Proofs.Store.Versions

/-!
# Several clients of one directory

* `Clients`: the stores of several clients, each opened by a path of its own. `Clients.take`: one of
  them takes a step, and all see the files as they are then.
* `Clients.Tracks`: all of them mirror one store in memory. `Tracks.take`: they do so after any step.
* **`updateStatus_of_copy`**: a status is written by whoever has a copy as old as the last write of
  the record, and by nobody else.
-/

namespace ConversationMemory

open FileBacked (Family Fits filePath)

/-! ## The place of a store -/

namespace FileBacked

/-- A store is at the same place as another one, where no directory has gone away. -/
structure StaysAt (before after : FileBacked) : Prop where
  root : after.root = before.root
  written : after.written = before.written
  keeps : ∀ q, before.tree.get? q = some .directory → after.tree.get? q = some .directory

theorem StaysAt.refl (files : FileBacked) : files.StaysAt files := ⟨rfl, rfl, fun _ h => h⟩

theorem writeJson_keeps {tree : FileTree} {q : TreePath} (path : TreePath) (value : Json)
    (h : tree.get? q = some .directory) :
    (writeJson tree path value).2.get? q = some .directory := by
  have made := FileTree.createDirectories_keeps path.dropLast h
  rw [writeJson]
  split
  · rename_i hmade
    rwa [hmade] at made
  · rename_i hmade
    rw [hmade] at made
    have beside := FileTree.writeBytes_keeps (temporaryOf path) (Utf8.bytesOf value.pretty) made
    split
    · rename_i hwrite
      rwa [hwrite] at beside
    · rename_i hwrite
      rw [hwrite] at beside
      have renamed := FileTree.rename_keeps path (FileTree.get?_of_writeBytes hwrite) beside
      split
      · rename_i hrename
        rwa [hrename] at renamed
      · rename_i hrename
        rwa [hrename] at renamed

theorem save_staysAt {α : Type} (files : FileBacked) (path : TreePath) (value : Json) (result : α) :
    files.StaysAt (files.save path value result).2 := by
  have keeps (q : TreePath) (h : files.tree.get? q = some .directory) :=
    writeJson_keeps path value h
  rw [save]
  split
  · rename_i wrote
    rw [wrote] at keeps
    exact ⟨rfl, rfl, keeps⟩
  · rename_i wrote
    rw [wrote] at keeps
    exact ⟨rfl, rfl, keeps⟩

theorem put_staysAt (files : FileBacked) (record : MemoryRecord) :
    files.StaysAt (files.put record).2 := by
  rw [put]
  split
  · exact .refl files
  · split
    · exact .refl files
    · split
      · exact .refl files
      · exact save_staysAt files _ _ _

theorem updateStatus_staysAt (files : FileBacked) (record : MemoryRecord) :
    files.StaysAt (files.updateStatus record).2 := by
  rw [updateStatus]
  split
  · exact .refl files
  · exact .refl files
  · exact save_staysAt files _ _ _

theorem setValue_staysAt (files : FileBacked) (key : ValueKey) (value : String) :
    files.StaysAt (files.setValue key value).2 := by
  rw [setValue]
  split
  · exact .refl files
  · split
    · exact .refl files
    · exact save_staysAt files _ _ _

end FileBacked

theorem Mirrors.staysAt {files : FileBacked} {memory : InMemory} (h : Mirrors files memory)
    (step : StoreStep) : files.StaysAt (files.take step).2 := by
  cases step with
  | put record => exact FileBacked.put_staysAt files record
  | updateStatus record => exact FileBacked.updateStatus_staysAt files record
  | setValue key value => exact FileBacked.setValue_staysAt files key value
  | get | configValue => exact .refl files
  | reopen =>
    rw [FileBacked.take, h.reopens]
    exact .refl files

/-! ## What a mirroring directory says -/

section

variable {files : FileBacked} {memory : InMemory} {name namespaceName : String}

theorem Mirrors.get_eq_ok (h : Mirrors files memory) {r : MemoryRecord} :
    files.get name namespaceName = .ok r ↔ memory.records.get? (namespaceName, name) = some r := by
  by_cases fits : Fits "" namespaceName ∧ Fits ".json.tmp" name ∧ name ≠ "."
  · rw [get_eq h fits.1 fits.2.1, InMemory.get]
    cases memory.records.get? (namespaceName, name) <;> simp
  · obtain ⟨e, hget⟩ := h.get_refused fits
    constructor
    · intro found
      rw [hget] at found
      cases found
    · intro found
      refine absurd ?_ (h.not_has fits .memory)
      rw [InMemory.Has, found]
      exact Option.some_ne_none r

theorem Mirrors.configValue_eq_ok (h : Mirrors files memory) {key : ValueKey} {value : String} :
    files.configValue key = .ok (some value) ↔ memory.configValue key = some value := by
  by_cases fits : Fits "" key.namespaceName ∧ Fits ".json.tmp" key.name ∧ key.name ≠ "."
  · rw [configValue_eq h fits.1 fits.2.1, Except.ok.injEq]
  · constructor
    · intro found
      rcases h.configValue_refused fits with hvalue | ⟨e, hvalue⟩ <;>
      · rw [hvalue] at found
        cases found
    · intro found
      refine absurd ⟨key.key, ?_⟩ (h.not_has fits (.values key.kind))
      rw [show memory.values.get? key = some value from found]
      exact Option.some_ne_none value

theorem Mirrors.versionsBelow (h : Mirrors files memory) (room : files.VersionsBelow) :
    memory.VersionsBelow := by
  intro name namespaceName r found
  refine room name namespaceName r (h.get_eq_ok.2 ?_)
  rw [InMemory.get] at found
  split at found
  · cases found
    assumption
  · cases found

end

theorem InMemory.VersionsBelow.alive {memory : InMemory} (room : memory.VersionsBelow)
    (step : StoreStep) : (memory.take step).1 ≠ .crashed := by
  have below (key : String × String) : (memory.versionOf key).toNat + 1 ≠ UInt64.size := by
    obtain ⟨version, hversion⟩ := room.versionOf key
    have := version.toNat_lt_size
    have := Store.nextVersion?_eq_some.1 hversion
    omega
  intro crashed
  cases step with
  | put record =>
    have puts := memory.puts record
    rw [InMemory.take] at crashed
    generalize memory.put record = after at puts crashed
    cases puts with
    | stored => cases crashed
    | last full => exact below _ full
  | updateStatus record =>
    have updates := memory.updates record
    rw [InMemory.take] at crashed
    generalize memory.updateStatus record = after at updates crashed
    cases updates with
    | missing | stale | written => cases crashed
    | last found same full =>
      refine below (InMemory.keyOf record) ?_
      rwa [InMemory.versionOf_of_get? found]
  | get name namespaceName =>
    rw [InMemory.take] at crashed
    cases hget : memory.get name namespaceName <;>
    · rw [hget] at crashed
      cases crashed
  | setValue | configValue | reopen => cases crashed

/-! ## Clients -/

/-- The stores of several clients. -/
abbrev Clients (ι : Type) := ι → FileBacked

namespace Clients

variable {ι : Type} [DecidableEq ι]

/-- One client takes a step; all of them see the files as they are then. -/
def take (clients : Clients ι) (i : ι) (step : StoreStep) : StoreAnswer × Clients ι :=
  (((clients i).take step).1, fun j =>
    if j = i then ((clients i).take step).2
    else { clients j with tree := ((clients i).take step).2.tree })

/-- The stores after the steps of a run. -/
def after (clients : Clients ι) : List (ι × StoreStep) → Clients ι
  | [] => clients
  | (i, step) :: rest => after (clients.take i step).2 rest

/-- The steps of a run with their answers. -/
def history (clients : Clients ι) : List (ι × StoreStep) → List (StoreStep × StoreAnswer)
  | [] => []
  | (i, step) :: rest => (step, (clients.take i step).1) :: history (clients.take i step).2 rest

theorem after_append (clients : Clients ι) (front back : List (ι × StoreStep)) :
    clients.after (front ++ back) = (clients.after front).after back := by
  induction front generalizing clients with
  | nil => rfl
  | cons turn rest ih => exact ih _

/-- All clients mirror one store in memory. -/
structure Tracks (clients : Clients ι) (memory : InMemory) : Prop where
  mirrors : ∀ i, Mirrors (clients i) memory
  tree : ∀ i j, (clients i).tree = (clients j).tree
  root : ∀ i j, (clients i).root = (clients j).root
  keyed : memory.Keyed

variable {clients : Clients ι} {memory : InMemory} {turns : List (ι × StoreStep)}

theorem Tracks.step (h : clients.Tracks memory) {i : ι} {step : StoreStep} {later : InMemory}
    (mirrors : Mirrors ((clients i).take step).2 later) (keyed : later.Keyed) :
    (clients.take i step).2.Tracks later := by
  have stays := (h.mirrors i).staysAt step
  constructor
  case mirrors =>
    intro j
    simp only [take]
    split
    · exact mirrors
    · -- the path of another client still leads to the directory
      have leads := WrittenPath.follow_keeps (h.mirrors j).leads
        (show ∀ q, _ → ((clients i).take step).2.tree.get? q = some .directory by
          rw [h.tree j i]
          exact stays.keeps)
      have moved := stays.root.trans (h.root i j)
      obtain ⟨home, -, -, named, shown, only, reachable, spare⟩ := mirrors
      rw [moved] at home shown only reachable spare
      exact ⟨home, leads, (h.mirrors j).free, named, shown, only, reachable, spare⟩
  case tree =>
    have same (j : ι) : ((clients.take i step).2 j).tree = ((clients i).take step).2.tree := by
      simp only [take]
      split <;> rfl
    intro j k
    rw [same, same]
  case root =>
    have same (j : ι) : ((clients.take i step).2 j).root = (clients i).root := by
      simp only [take]
      split
      · exact stays.root
      · exact h.root j i
    intro j k
    rw [same, same]
  case keyed => exact keyed

/-- A step with its answer: the store in memory that all mirror afterwards, with versions raised by
what was written, and the copy that was answered in it. -/
theorem Tracks.take (h : clients.Tracks memory) {i : ι} (room : (clients i).VersionsBelow)
    (step : StoreStep) :
    ∃ later, (clients.take i step).2.Tracks later ∧
      (∀ key, (later.versionOf key).toNat = (memory.versionOf key).toNat +
        if wrote key (step, (clients.take i step).1) then 1 else 0) ∧
      ∀ copy, (clients.take i step).1 = .record copy →
        later.records.get? (InMemory.keyOf copy) = some copy := by
  have follows := take_follows (h.mirrors i) step
  have mirrors (later : InMemory) (mirror : Mirrors ((clients i).take step).2 later) :=
    h.step mirror
  simp only [Clients.take] at mirrors ⊢
  generalize (clients i).take step = after at follows mirrors ⊢
  cases follows with
  | agrees agree =>
    have alive := ((h.mirrors i).versionsBelow room).alive step
    refine ⟨(memory.take step).2, mirrors _ (agree.mirrors alive) (h.keyed.take step), ?_, ?_⟩
    · rw [agree.answers]
      exact memory.versionOf_take step
    · rw [agree.answers]
      exact fun copy => InMemory.obtains h.keyed
  | @refused answer files refusal mirror =>
    refine ⟨memory, mirrors _ mirror h.keyed, fun key => ?_, fun copy answered => ?_⟩
    · have failed : answer.succeeded = false := by
        cases answer with
        | done | record => exact refusal.elim
        | value | failed | crashed => rfl
      rw [wrote, failed, Bool.and_false]
      rfl
    · rw [show answer = .record copy from answered] at refusal
      exact refusal.elim

/-! ## Runs -/

theorem Tracks.after (h : clients.Tracks memory)
    (room : ∀ front, front <+: turns → ∀ i, (clients.after front i).VersionsBelow) :
    ∃ later, (clients.after turns).Tracks later ∧ ∀ key, (later.versionOf key).toNat =
      (memory.versionOf key).toNat + writes key (clients.history turns) := by
  induction turns generalizing clients memory with
  | nil => exact ⟨memory, h, fun key => rfl⟩
  | cons turn rest ih =>
    obtain ⟨i, step⟩ := turn
    obtain ⟨next, tracks, counts, -⟩ := h.take (room [] (List.nil_prefix) i) step
    obtain ⟨later, ends, total⟩ := ih tracks fun front hle =>
      room ((i, step) :: front) ((List.prefix_cons_inj _).2 hle)
    refine ⟨later, ends, fun key => ?_⟩
    rw [total, counts, history, writes, writes, List.countP_cons]
    omega

theorem Tracks.room (h : clients.Tracks memory)
    (short : ∀ key, (memory.versionOf key).toNat + turns.length + 1 < UInt64.size) :
    ∀ front, front <+: turns → ∀ i, (clients.after front i).VersionsBelow := by
  have here (i : ι) : (clients i).VersionsBelow := by
    intro name namespaceName r found
    have := short (namespaceName, name)
    rw [InMemory.versionOf_of_get? ((h.mirrors i).get_eq_ok.1 found)] at this
    omega
  induction turns generalizing clients memory with
  | nil =>
    intro front hle
    rw [List.prefix_nil.1 hle]
    exact here
  | cons turn rest ih =>
    intro front hle
    cases front with
    | nil => exact here
    | cons first front =>
      obtain ⟨rfl, hback⟩ := List.cons_prefix_cons.1 hle
      obtain ⟨i, step⟩ := first
      obtain ⟨later, tracks, counts, -⟩ := h.take (here i) step
      have raised (key : String × String) :
          (later.versionOf key).toNat ≤ (memory.versionOf key).toNat + 1 := by
        rw [counts]
        split <;> omega
      have short' (key : String × String) :
          (later.versionOf key).toNat + rest.length + 1 < UInt64.size := by
        have := short key
        have := raised key
        rw [List.length_cons] at *
        omega
      refine ih tracks short' (fun k => ?_) front hback
      intro name namespaceName r found
      have := short' (namespaceName, name)
      rw [InMemory.versionOf_of_get? ((tracks.mirrors k).get_eq_ok.1 found)] at this
      omega

omit [DecidableEq ι] in
theorem tracks_of_openAt {tree : FileTree} {path : ι → WrittenPath}
    (opened : ∀ i, FileBacked.openAt tree (path i) = (.ok (clients i), tree))
    (shared : ∀ i j, (clients i).root = (clients j).root)
    (empty : ∀ i names, IsBelow names → tree.get? ((clients i).root ++ names) = none) :
    clients.Tracks {} := by
  have same (i : ι) : (clients i).tree = tree := by
    have hopen := opened i
    rw [FileBacked.openAt] at hopen
    split at hopen
    · cases hopen
    · split at hopen
      · cases hopen
      · simp only [Prod.mk.injEq, Except.ok.injEq] at hopen
        rw [← hopen.1]
        exact hopen.2
  refine ⟨fun i => mirrors_of_openAt (opened i) ?_, fun i j => ?_, shared, InMemory.keyed_empty⟩
  · rw [same i]
    exact empty i
  · rw [same, same]

/-! ## Writing a status -/

/-- Between two moments a status has been written, and nothing else. -/
structure WritesStatus (before after : FileBacked) (record stored : MemoryRecord) : Prop where
  found : before.get record.metadata.name record.metadata.namespaceName = .ok stored
  written : ∃ version, version.toNat = stored.metadata.resourceVersion.toNat + 1 ∧
    after.get record.metadata.name record.metadata.namespaceName =
      .ok ({ stored with status := record.status }.atVersion version)
  records : ∀ name namespaceName r, (namespaceName, name) ≠ InMemory.keyOf record →
    (after.get name namespaceName = .ok r ↔ before.get name namespaceName = .ok r)
  values : ∀ key value,
    after.configValue key = .ok (some value) ↔ before.configValue key = .ok (some value)

variable {record stored : MemoryRecord}

theorem Tracks.updateStatus_stale (h : clients.Tracks memory) (j : ι)
    (found : memory.records.get? (InMemory.keyOf record) = some stored)
    (differs : stored.metadata.resourceVersion ≠ record.metadata.resourceVersion) :
    clients.take j (.updateStatus record) =
      (.failed (.conflict record.metadata.name record.metadata.namespaceName
        record.metadata.resourceVersion stored.metadata.resourceVersion), clients) := by
  have mirrors := h.mirrors j
  obtain ⟨here, there, -⟩ := mirrors.named .memory record.metadata.namespaceName
    record.metadata.name (by
      rw [InMemory.Has, show memory.records.get? (_, _) = _ from found]
      exact Option.some_ne_none stored)
  have refused : (clients j).updateStatus record =
      (.failed (.conflict record.metadata.name record.metadata.namespaceName
        record.metadata.resourceVersion stored.metadata.resourceVersion), clients j) := by
    rw [FileBacked.updateStatus, FileBacked.withStatus, recordPath_eq (clients j) here there]
    dsimp only
    rw [mirrors.readRecord here there, show memory.records.get? (_, _) = _ from found]
    dsimp only
    rw [Store.checkVersion, if_neg differs]
  have same : (fun k => if k = j then clients j
      else { clients k with tree := (clients j).tree }) = clients := by
    funext k
    split
    · rename_i heq
      rw [heq]
    · rw [h.tree j k]
  rw [Clients.take, FileBacked.take, refused]
  exact congrArg (Prod.mk _) same

theorem Tracks.updateStatus_fresh (h : clients.Tracks memory) (j : ι)
    (room : (clients j).VersionsBelow)
    (found : memory.records.get? (InMemory.keyOf record) = some stored)
    (same : stored.metadata.resourceVersion = record.metadata.resourceVersion) :
    (clients.take j (.updateStatus record)).1 = .done ∧
      ∀ k, WritesStatus (clients k) ((clients.take j (.updateStatus record)).2 k) record stored := by
  have alive := ((h.mirrors j).versionsBelow room).alive (.updateStatus record)
  obtain ⟨here, there, -⟩ := (h.mirrors j).named .memory record.metadata.namespaceName
    record.metadata.name (by
      rw [InMemory.Has, show memory.records.get? (_, _) = _ from found]
      exact Option.some_ne_none stored)
  have agree := agree_updateStatus (h.mirrors j) here there
  have after := h.step (agree.mirrors alive) (h.keyed.take (.updateStatus record))
  have answers := agree.answers
  have updates := memory.updates record
  rw [InMemory.take] at after alive answers
  generalize memory.updateStatus record = result at updates after alive answers
  cases updates with
  | missing none' =>
    rw [none'] at found
    cases found
  | stale found' differs =>
    rw [found'] at found
    cases found
    exact absurd same differs
  | last => exact absurd rfl alive
  | written found' same' next =>
    rw [found'] at found
    cases found
    refine ⟨answers, fun k => ?_⟩
    have before := h.mirrors k
    have after := after.mirrors k
    refine ⟨before.get_eq_ok.2 found', ⟨_, next, after.get_eq_ok.2 (Table.get?_set_self _ _ _)⟩,
      fun name namespaceName r other => ?_, fun key value => ?_⟩
    · rw [after.get_eq_ok, before.get_eq_ok]
      exact iff_of_eq (congrArg (· = some r) (Table.get?_set_of_ne _ other))
    · rw [after.configValue_eq_ok, before.configValue_eq_ok]
      rfl

/-- A record that somebody has got a copy of stays there, and every write since then has raised its
version. -/
theorem Tracks.raised_since (start : clients.Tracks memory) {before between : List (ι × StoreStep)}
    {i : ι} {obtain' : StoreStep} {copy : MemoryRecord}
    (room : ∀ front, front <+: before ++ (i, obtain') :: between →
      ∀ k, (clients.after front k).VersionsBelow)
    (answer : ((clients.after before).take i obtain').1 = .record copy) :
    ∃ last stored, (clients.after (before ++ (i, obtain') :: between)).Tracks last ∧
      last.records.get? (InMemory.keyOf copy) = some stored ∧
      stored.metadata.resourceVersion.toNat = copy.metadata.resourceVersion.toNat +
        writes (InMemory.keyOf copy) (((clients.after before).take i obtain').2.history between) := by
  -- the copy is the stored record when it is obtained
  obtain ⟨middle, tracks, -⟩ := start.after fun front hle =>
    room front (hle.trans (List.prefix_append _ _))
  have roomAt : ((clients.after before) i).VersionsBelow := room before (List.prefix_append _ _) i
  obtain ⟨next, tracks, -, obtained⟩ := tracks.take roomAt obtain'
  have held := obtained copy answer
  have positive := (tracks.keyed _ _ held).2
  -- and its version is raised by every write since then
  have roomSince : ∀ front, front <+: between → ∀ k,
      (((clients.after before).take i obtain').2.after front k).VersionsBelow := by
    intro front hle k
    have := room (before ++ (i, obtain') :: front) (by simpa using hle) k
    rwa [after_append, Clients.after] at this
  obtain ⟨last, ends, raised⟩ := tracks.after roomSince
  have counted := raised (InMemory.keyOf copy)
  rw [InMemory.versionOf_of_get? held] at counted
  rw [after_append, Clients.after]
  cases hget : last.records.get? (InMemory.keyOf copy) with
  | none =>
    rw [InMemory.versionOf_of_none hget] at counted
    omega
  | some stored =>
    rw [InMemory.versionOf_of_get? hget] at counted
    exact ⟨last, stored, ends, hget, counted⟩

/-- **A status is written by whoever has a copy as old as the last write of the record, and by nobody
else.** -/
theorem updateStatus_of_copy {tree : FileTree} {path : ι → WrittenPath}
    (opened : ∀ i, FileBacked.openAt tree (path i) = (.ok (clients i), tree))
    (shared : ∀ i j, (clients i).root = (clients j).root)
    (empty : ∀ i names, IsBelow names → tree.get? ((clients i).root ++ names) = none)
    (room : ∀ front, front <+: turns → ∀ i, (clients.after front i).VersionsBelow) :
    (∀ i name namespaceName,
      (0 < writes (namespaceName, name) (clients.history turns) →
        ∃ r, (clients.after turns i).get name namespaceName = .ok r) ∧
      ∀ r, (clients.after turns i).get name namespaceName = .ok r →
        r.metadata.resourceVersion.toNat =
          writes (namespaceName, name) (clients.history turns)) ∧
    ∀ before i obtain' between copy, turns = before ++ (i, obtain') :: between →
      ((clients.after before).take i obtain').1 = .record copy →
      ∀ j record, record.metadata = copy.metadata → ∃ stored,
        let since := writes (InMemory.keyOf copy)
          (((clients.after before).take i obtain').2.history between)
        let written := (clients.after turns).take j (.updateStatus record)
        (∀ k, (clients.after turns k).get copy.metadata.name copy.metadata.namespaceName =
          .ok stored) ∧
        (since = 0 → written.1 = .done ∧
          ∀ k, WritesStatus (clients.after turns k) (written.2 k) record stored) ∧
        (since ≠ 0 → written = (.failed (.conflict copy.metadata.name copy.metadata.namespaceName
          copy.metadata.resourceVersion stored.metadata.resourceVersion), clients.after turns)) := by
  have start := tracks_of_openAt opened shared empty
  obtain ⟨last, ends, total⟩ := start.after room
  refine ⟨fun i name namespaceName => ⟨fun some' => ?_, fun r found => ?_⟩, ?_⟩
  · cases hget : last.records.get? (namespaceName, name) with
    | none =>
      have counted := total (namespaceName, name)
      rw [InMemory.versionOf_of_none hget] at counted
      omega
    | some r => exact ⟨r, (ends.mirrors i).get_eq_ok.2 hget⟩
  · have counted := total (namespaceName, name)
    rw [InMemory.versionOf_of_get? ((ends.mirrors i).get_eq_ok.1 found)] at counted
    rw [counted]
    exact Nat.zero_add _
  · rintro before i obtain' between copy rfl answer j record read
    obtain ⟨last, stored, ends, held, counted⟩ := start.raised_since room answer
    have roomEnd := room _ (List.prefix_refl _) j
    have key : InMemory.keyOf record = InMemory.keyOf copy := by
      rw [InMemory.keyOf, read, InMemory.keyOf]
    have found := held
    rw [← key] at found
    refine ⟨stored, fun k => (ends.mirrors k).get_eq_ok.2 held, fun none' => ?_, fun some' => ?_⟩
    · refine ends.updateStatus_fresh j roomEnd found ?_
      rw [read, ← UInt64.toNat_inj, counted, none']
      rfl
    · have differs : stored.metadata.resourceVersion ≠ record.metadata.resourceVersion := by
        rw [read, Ne, ← UInt64.toNat_inj, counted]
        omega
      rw [ends.updateStatus_stale j found differs, read]

/-- A record, and the copy of it that `put` answers with another address and another status. -/
def notes : MemoryRecord := .create "notes" "team" (.literal "http://a")

def editedNotes : MemoryRecord :=
  { notes.atVersion 1 with spec.address := .literal "http://b", status.message := some "seen" }

/-- Two clients with the same copy: the first one writes a status, the second one is refused. -/
theorem updateStatus_of_copy_pair :
    let clients : Clients Bool := fun _ => shelf
    let once := clients.after [(false, .put notes)]
    let twice := clients.after [(false, .put notes), (true, .updateStatus editedNotes)]
    (once.take true (.updateStatus editedNotes)).1 = .done ∧
      ∃ stored, (twice.take false (.updateStatus editedNotes)) =
        (.failed (.conflict "notes" "team" 1 stored), twice) := by
  intro clients once twice
  have opened (i : Bool) : FileBacked.openAt shelf.tree ⟨["store"]⟩ = (.ok (clients i), shelf.tree) :=
    (mirrors_of_openAt openAt_shelf shelf_empty).reopens
  have shared (i j : Bool) : (clients i).root = (clients j).root := rfl
  have empty (i : Bool) := shelf_empty
  have start : clients.Tracks {} := tracks_of_openAt opened shared empty
  have small (key : String × String) : (({} : InMemory).versionOf key).toNat = 0 := rfl
  -- the copy that `put` answers
  have agree : Agree (shelf.take (.put notes)) (({} : InMemory).take (.put notes)) :=
    agree_put (start.mirrors false) (by decide) (by decide) (by decide)
  have copied : (clients.take false (.put notes)).1 = .record (notes.atVersion 1) := agree.answers
  have first := (updateStatus_of_copy opened shared empty
    (start.room fun key => by rw [small]; decide)).2 [] false (.put notes) [] (notes.atVersion 1) rfl
    copied true editedNotes rfl
  obtain ⟨stored, -, fresh, -⟩ := first
  have done : (once.take true (.updateStatus editedNotes)).1 = .done := (fresh rfl).1
  have second := (updateStatus_of_copy opened shared empty
    (start.room fun key => by rw [small]; decide)).2 [] false (.put notes)
    [(true, .updateStatus editedNotes)] (notes.atVersion 1) rfl copied false editedNotes rfl
  obtain ⟨stored, -, -, stale⟩ := second
  refine ⟨done, stored.metadata.resourceVersion, stale ?_⟩
  have since : (once.history [(true, .updateStatus editedNotes)]) =
      [(.updateStatus editedNotes, .done)] := by
    rw [history, history, done]
  change writes _ (once.history [(true, .updateStatus editedNotes)]) ≠ 0
  rw [since]
  decide

end Clients

end ConversationMemory
