import ConversationMemory.Proofs.Store.Mirror

/-!
# The store in files against the store in memory

* `StoreStep`: what is asked of a store. `InMemory.take`, `FileBacked.take`: how the two answer.
* `Tidy`: the directory holds one file for each resource and no other file.
* `take_mirrors`: one step of both stores; `take_point`: the one kind of step that tells them apart.
* **`answers_eq_iff`**: the stores give the same answers exactly as long as nothing is written under
  the name that is a point, and the directory is tidy all along.
-/

namespace ConversationMemory

open FileBacked (Family Fits filePath sparePath directoryOf fileName step)

/-! ## Steps -/

/-- What is asked of a store. -/
inductive StoreStep
  | put (record : MemoryRecord)
  | get (name namespaceName : String)
  | updateStatus (record : MemoryRecord)
  | setValue (key : ValueKey) (value : String)
  | configValue (key : ValueKey)
  /-- The store is left and opened anew. -/
  | reopen

/-- What a store answers. -/
inductive StoreAnswer
  | done
  | record (record : MemoryRecord)
  | value (value : Option String)
  | failed (error : StoreError)
  | crashed

/-- The answer of a call that has ended. -/
def StoreAnswer.ofEnding {α : Type} (shown : α → StoreAnswer) : Ending StoreError α → StoreAnswer
  | .done a => shown a
  | .failed e => .failed e
  | .crashed => .crashed

/-- A step of the store in memory, a clone of which is the same store. -/
def InMemory.take (memory : InMemory) : StoreStep → StoreAnswer × InMemory
  | .put record => ((memory.put record).map (.ofEnding .record) id)
  | .get name namespaceName =>
    (.ofEnding .record (.ofExcept (memory.get name namespaceName)), memory)
  | .updateStatus record => (memory.updateStatus record).map (.ofEnding fun _ => .done) id
  | .setValue key value => (.done, memory.setValue key value)
  | .configValue key => (.value (memory.configValue key), memory)
  | .reopen => (.done, memory)

/-- A step of the store in files. -/
def FileBacked.take (files : FileBacked) : StoreStep → StoreAnswer × FileBacked
  | .put record => (files.put record).map (.ofEnding .record) id
  | .get name namespaceName =>
    (.ofEnding .record (.ofExcept (files.get name namespaceName)), files)
  | .updateStatus record => (files.updateStatus record).map (.ofEnding fun _ => .done) id
  | .setValue key value => (files.setValue key value).map (.ofEnding fun _ => .done) id
  | .configValue key => (.ofEnding .value (.ofExcept (files.configValue key)), files)
  | .reopen =>
    match FileBacked.openAt files.tree files.written with
    | (.ok again, _) => (.done, again)
    | (.error e, tree) => (.failed e, { files with tree })

namespace StoreStep

/-- The namespace and the name in a step, if there are any. -/
def place? : StoreStep → Option (String × String)
  | put record | updateStatus record => some (record.metadata.namespaceName, record.metadata.name)
  | get name namespaceName => some (namespaceName, name)
  | setValue key _ | configValue key => some (key.namespaceName, key.name)
  | reopen => none

/-- Namespaces and names can be those of directories and files. -/
def Fits (step : StoreStep) : Prop :=
  ∀ namespaceName name, step.place? = some (namespaceName, name) →
    FileBacked.Fits "" namespaceName ∧ FileBacked.Fits ".json.tmp" name

/-- Something is written under the name that is a point. -/
def WritesPoint : StoreStep → Prop
  | put record => record.metadata.name = "."
  | setValue key _ => key.name = "."
  | _ => False

end StoreStep

/-- The directory of a store holds one file for each resource in memory, and no other file. -/
def Tidy (files : FileBacked) (memory : InMemory) : Prop :=
  ∀ names, IsBelow names →
    ((∃ bytes, files.tree.get? (files.root ++ names) = some (.file bytes)) ↔
      ∃! resource : Family × String × String,
        memory.Has resource.2.1 resource.2.2 resource.1 ∧
          names = namesOf resource.1 resource.2.1 resource.2.2)

variable {files : FileBacked} {memory later : InMemory} {namespaceName name : String}

theorem Mirrors.tidy (h : Mirrors files memory) : Tidy files memory := by
  intro names below
  constructor
  · rintro ⟨bytes, hfile⟩
    obtain ⟨family, namespaceName, name, has, rfl⟩ := h.only names bytes below hfile
    refine ⟨(family, namespaceName, name), ⟨has, rfl⟩, ?_⟩
    rintro ⟨family', namespaceName', name'⟩ ⟨-, same⟩
    have paths : filePath [] family namespaceName name = filePath [] family' namespaceName' name' := by
      rw [filePath_eq, filePath_eq, same]
    obtain ⟨rfl, rfl, rfl⟩ := FileBacked.filePath_inj.1 paths
    rfl
  · rintro ⟨⟨family, namespaceName, name⟩, ⟨has, rfl⟩, -⟩
    obtain ⟨fits, nameFits, -⟩ := h.named _ _ _ has
    rw [← filePath_eq]
    exact (h.shown _ _ _ fits nameFits).has_iff.1 has

theorem Tidy.congr (h : Tidy files memory)
    (same : ∀ family namespaceName name,
      memory.Has namespaceName name family ↔ later.Has namespaceName name family) :
    Tidy files later := by
  intro names below
  rw [h names below]
  simp only [same]

theorem InMemory.has_set {key : String × String} {stored : MemoryRecord}
    (found : memory.records.get? key = some stored) (r : MemoryRecord) (family : Family)
    (namespaceName name : String) :
    memory.Has namespaceName name family ↔
      InMemory.Has { memory with records := memory.records.set key r } namespaceName name family := by
  cases family with
  | values kind => rfl
  | memory =>
    rw [Has, Has]
    by_cases same : (namespaceName, name) = key
    · rw [same, Table.get?_set_self, found]
      exact ⟨fun _ => Option.some_ne_none r, fun _ => Option.some_ne_none stored⟩
    · rw [Table.get?_set_of_ne _ same]

/-! ## Opening -/

theorem mirrors_of_openAt {tree after : FileTree} {path : WrittenPath}
    (opened : FileBacked.openAt tree path = (.ok files, after))
    (empty : ∀ names, IsBelow names → files.tree.get? (files.root ++ names) = none) :
    Mirrors files {} := by
  rw [FileBacked.openAt] at opened
  split at opened
  · cases opened
  · rename_i made hmade
    split at opened
    · cases opened
    · rename_i root leads
      cases opened
      have free := WrittenPath.free_of_makeAll hmade
      have nothing (family : Family) (namespaceName name : String)
          (has : ({} : InMemory).Has namespaceName name family) : False := by
        cases family with
        | memory => exact has rfl
        | values kind =>
          obtain ⟨key, hkey⟩ := has
          exact hkey rfl
      have bare (family : Family) (namespaceName last : String) (fits : Fits "" namespaceName)
          (inside : TreePath.isOutside last = false) :
          after.get? (root ++ (step namespaceName ++ [family.directory, last])) = none :=
        empty _ (isBelow_append fits family (by simpa using inside))
      constructor
      case home =>
        exact WrittenPath.isPlace_of_follow leads (WrittenPath.isPlace_start path after)
          (WrittenPath.clean_of_refusal free)
      case leads => exact leads
      case free => exact free
      case named => exact fun family namespaceName name has => (nothing _ _ _ has).elim
      case shown =>
        intro family namespaceName name fits nameFits
        rw [filePath_eq]
        dsimp only
        rw [namesOf, bare family namespaceName _ fits (FileBacked.fileName_not_isOutside name)]
        cases family with
        | memory => rfl
        | values kind => exact ⟨[], .nil, fun key => rfl, rfl⟩
      case only =>
        intro names text below hfile
        rw [empty names below] at hfile
        cases hfile
      case reachable => exact fun family namespaceName name has => (nothing _ _ _ has).elim
      case spare =>
        intro family namespaceName name fits
        rw [sparePath_eq]
        dsimp only
        rw [bare family namespaceName _ fits (FileBacked.spareName_not_isOutside name)]
        intro heq
        cases heq

theorem Mirrors.reopens (h : Mirrors files memory) :
    FileBacked.openAt files.tree files.written = (.ok files, files.tree) := by
  rw [FileBacked.openAt, WrittenPath.makeAll_of_directory h.leads h.free]
  dsimp only
  rw [h.leads]

/-! ## Single steps -/

theorem recordPath_eq (files : FileBacked) (fits : Fits "" namespaceName)
    (nameFits : Fits ".json.tmp" name) :
    files.recordPath name namespaceName = .ok (filePath files.root .memory namespaceName name) :=
  FileBacked.pathOf_eq_ok.2 ⟨fits.isSegment, nameFits.isSegment, rfl⟩

theorem valuesPath_eq (files : FileBacked) (kind : ValueKind) (fits : Fits "" namespaceName)
    (nameFits : Fits ".json.tmp" name) :
    files.valuesPath kind name namespaceName =
      .ok (filePath files.root (.values kind) namespaceName name) :=
  FileBacked.pathOf_eq_ok.2 ⟨fits.isSegment, nameFits.isSegment, rfl⟩

theorem Mirrors.saveRecord (h : Mirrors files memory) (fits : Fits "" namespaceName)
    (nameFits : Fits ".json.tmp" name) (point : name ≠ ".") (r : MemoryRecord) :
    ∃ tree, files.save (filePath files.root .memory namespaceName name) r.toJson r =
        (.done r, { files with tree }) ∧
      Mirrors { files with tree }
        { memory with records := memory.records.set (namespaceName, name) r } := by
  have shows' : InMemory.Shows { memory with records := memory.records.set (namespaceName, name) r }
      namespaceName name .memory (some (.file (Utf8.bytesOf r.toJson.pretty))) := by
    rw [InMemory.Shows, Table.get?_set_self]
    rfl
  obtain ⟨tree, wrote, mirrors⟩ := h.save fits nameFits point r.toJson shows' <| by
    intro family' namespaceName' name' differs
    cases family' with
    | memory =>
      refine (Table.get?_set_of_ne _ fun same => differs ?_).symm
      cases same
      exact ⟨rfl, rfl, rfl⟩
    | values kind => exact fun key => rfl
  refine ⟨tree, ?_, mirrors⟩
  rw [FileBacked.save, wrote]

theorem Mirrors.saveValues (h : Mirrors files memory) {key : ValueKey}
    (fits : Fits "" key.namespaceName) (nameFits : Fits ".json.tmp" key.name) (point : key.name ≠ ".")
    {entries : Entries String} (sorted : entries.Sorted)
    (same : ∀ other, entries.get? other =
      memory.values.get? ⟨key.kind, key.namespaceName, key.name, other⟩) (value : String) :
    ∃ tree, files.save (filePath files.root (.values key.kind) key.namespaceName key.name)
        (valuesJson (entries.insert key.key value)) () = (.done (), { files with tree }) ∧
      Mirrors { files with tree } (memory.setValue key value) := by
  have shows' : (memory.setValue key value).Shows key.namespaceName key.name (.values key.kind)
      (some (.file (Utf8.bytesOf (valuesJson (entries.insert key.key value)).pretty))) := by
    refine ⟨entries.insert key.key value, Entries.sorted_insert sorted _ _, fun other => ?_, ?_⟩
    · by_cases hother : other = key.key
      · subst hother
        rw [Entries.get?_insert_self, InMemory.setValue, Table.get?_set_self]
      · rw [Entries.get?_insert_of_ne _ hother, same, InMemory.setValue, Table.get?_set_of_ne]
        intro heq
        exact hother (congrArg ValueKey.key heq)
    · rw [if_neg]
      intro hnil
      have found := Entries.get?_insert_self entries key.key value
      rw [hnil] at found
      cases found
  obtain ⟨tree, wrote, mirrors⟩ := h.save fits nameFits point _ shows' <| by
    intro family' namespaceName' name' differs
    cases family' with
    | memory => rfl
    | values kind =>
      intro other
      rw [InMemory.setValue, Table.get?_set_of_ne]
      rintro rfl
      exact differs ⟨rfl, rfl, rfl⟩
  refine ⟨tree, ?_, mirrors⟩
  rw [FileBacked.save, wrote]

/-- Both stores answer alike, and go on alike unless they have broken down. -/
structure Agree (a : StoreAnswer × FileBacked) (b : StoreAnswer × InMemory) : Prop where
  answers : a.1 = b.1
  tidy : Tidy a.2 b.2
  mirrors : b.1 ≠ .crashed → Mirrors a.2 b.2

theorem Agree.of_mirrors {answer : StoreAnswer} (h : Mirrors files memory) :
    Agree (answer, files) (answer, memory) :=
  ⟨rfl, h.tidy, fun _ => h⟩

theorem agree_put (h : Mirrors files memory) {record : MemoryRecord}
    (fits : Fits "" record.metadata.namespaceName) (nameFits : Fits ".json.tmp" record.metadata.name)
    (point : record.metadata.name ≠ ".") :
    Agree (files.take (.put record)) (memory.take (.put record)) := by
  have version : (memory.records.get? (record.metadata.namespaceName, record.metadata.name)).elim 0
      (fun existing => existing.metadata.resourceVersion) =
      memory.versionOf (InMemory.keyOf record) := by
    rw [InMemory.versionOf, InMemory.keyOf]
    cases memory.records.get? (record.metadata.namespaceName, record.metadata.name) <;> rfl
  rw [FileBacked.take, InMemory.take, FileBacked.put, InMemory.put,
    recordPath_eq files fits nameFits]
  dsimp only
  rw [h.readRecord fits nameFits]
  dsimp only
  rw [version]
  cases Store.nextVersion? (memory.versionOf (InMemory.keyOf record)) with
  | none => exact .of_mirrors h
  | some next =>
    obtain ⟨tree, saved, mirrors⟩ := h.saveRecord fits nameFits point (record.atVersion next)
    dsimp only
    rw [saved]
    exact .of_mirrors mirrors

theorem get_eq (h : Mirrors files memory) (fits : Fits "" namespaceName)
    (nameFits : Fits ".json.tmp" name) :
    files.get name namespaceName = memory.get name namespaceName := by
  rw [FileBacked.get, InMemory.get, recordPath_eq files fits nameFits]
  dsimp only
  rw [h.readRecord fits nameFits]
  cases memory.records.get? (namespaceName, name) <;> rfl

theorem agree_updateStatus (h : Mirrors files memory) {record : MemoryRecord}
    (fits : Fits "" record.metadata.namespaceName)
    (nameFits : Fits ".json.tmp" record.metadata.name) :
    Agree (files.take (.updateStatus record)) (memory.take (.updateStatus record)) := by
  rw [FileBacked.take, InMemory.take, FileBacked.updateStatus, FileBacked.withStatus,
    InMemory.updateStatus, InMemory.get]
  dsimp only
  rw [recordPath_eq files fits nameFits]
  dsimp only
  rw [h.readRecord fits nameFits]
  cases hget : memory.records.get? (record.metadata.namespaceName, record.metadata.name) with
  | none => exact .of_mirrors h
  | some stored =>
    have has : memory.Has record.metadata.namespaceName record.metadata.name .memory := by
      rw [InMemory.Has, hget]
      intro heq
      cases heq
    obtain ⟨-, -, point⟩ := h.named _ _ _ has
    dsimp only
    cases Store.checkVersion stored record with
    | error e => exact .of_mirrors h
    | ok _ =>
      dsimp only
      cases Store.nextVersion? stored.metadata.resourceVersion with
      | none =>
        -- the store in memory has the new status already when it breaks down
        exact ⟨rfl, h.tidy.congr (InMemory.has_set hget _), fun alive => (alive rfl).elim⟩
      | some next =>
        obtain ⟨tree, saved, mirrors⟩ := h.saveRecord fits nameFits point
          ({ stored with status := record.status }.atVersion next)
        dsimp only
        rw [saved]
        exact .of_mirrors mirrors

theorem agree_setValue (h : Mirrors files memory) {key : ValueKey} (value : String)
    (fits : Fits "" key.namespaceName) (nameFits : Fits ".json.tmp" key.name)
    (point : key.name ≠ ".") :
    Agree (files.take (.setValue key value)) (memory.take (.setValue key value)) := by
  obtain ⟨entries, sorted, same, hread⟩ := h.readValues fits nameFits key.kind
  obtain ⟨tree, saved, mirrors⟩ := h.saveValues fits nameFits point sorted same value
  have kept : (if entries = [] then none else some entries).getD [] = entries := by
    split
    · rename_i hnil
      exact hnil.symm
    · rfl
  rw [FileBacked.take, InMemory.take, FileBacked.setValue, valuesPath_eq files _ fits nameFits]
  dsimp only
  rw [hread]
  dsimp only
  rw [kept, ← valuesJson, saved]
  exact .of_mirrors mirrors

theorem configValue_eq (h : Mirrors files memory) {key : ValueKey}
    (fits : Fits "" key.namespaceName) (nameFits : Fits ".json.tmp" key.name) :
    files.configValue key = .ok (memory.configValue key) := by
  obtain ⟨entries, -, same, hread⟩ := h.readValues fits nameFits key.kind
  rw [FileBacked.configValue, valuesPath_eq files _ fits nameFits]
  dsimp only
  rw [hread, InMemory.configValue, ← same key.key]
  by_cases hnil : entries = []
  · rw [if_pos hnil, hnil]
    rfl
  · rw [if_neg hnil]
    rfl

/-- **Both stores answer a step alike, unless something is written under the name that is a point.**
-/
theorem take_mirrors (h : Mirrors files memory) {step : StoreStep} (fits : step.Fits)
    (point : ¬ step.WritesPoint) : Agree (files.take step) (memory.take step) := by
  cases step with
  | put record =>
    obtain ⟨here, there⟩ := fits _ _ rfl
    exact agree_put h here there point
  | get name namespaceName =>
    obtain ⟨here, there⟩ := fits _ _ rfl
    rw [FileBacked.take, InMemory.take, get_eq h here there]
    exact .of_mirrors h
  | updateStatus record =>
    obtain ⟨here, there⟩ := fits _ _ rfl
    exact agree_updateStatus h here there
  | setValue key value =>
    obtain ⟨here, there⟩ := fits _ _ rfl
    exact agree_setValue h value here there point
  | configValue key =>
    obtain ⟨here, there⟩ := fits _ _ rfl
    rw [FileBacked.take, InMemory.take, configValue_eq h here there]
    exact .of_mirrors h
  | reopen =>
    rw [FileBacked.take, InMemory.take, h.reopens]
    exact .of_mirrors h

/-- **Under the name that is a point nothing can be written to files, though it can be in memory.**
-/
theorem take_point (h : Mirrors files memory) {step : StoreStep} (fits : step.Fits)
    (point : step.WritesPoint) :
    (files.take step).1 = .failed (.io .isDirectory) ∧ ∀ e, (memory.take step).1 ≠ .failed e := by
  have unsaved {α : Type} {family : Family} {namespaceName : String} (here : Fits "" namespaceName)
      (there : Fits ".json.tmp" ".") (value : Json) (result : α) :
      (files.save (filePath files.root family namespaceName ".") value result).1 =
        .failed (.io .isDirectory) := by
    have failed := FileBacked.writeJson_point (h.isOrderly here there family) here value
    rw [FileBacked.save]
    cases hwrite : FileBacked.writeJson files.tree
      (filePath files.root family namespaceName ".") value with
    | mk ending tree =>
      rw [hwrite] at failed
      dsimp only at failed
      rw [failed]
  cases step with
  | put record =>
    obtain ⟨here, there⟩ := fits _ _ rfl
    have name : record.metadata.name = "." := point
    rw [name] at there
    have missing : memory.records.get? (record.metadata.namespaceName, ".") = none := by
      by_cases hget : memory.records.get? (record.metadata.namespaceName, ".") = none
      · exact hget
      · exact absurd rfl (h.named .memory _ _ hget).2.2
    have first : memory.versionOf (InMemory.keyOf record) = 0 := by
      rw [InMemory.versionOf, InMemory.keyOf, name, missing]
    refine ⟨?_, fun e heq => ?_⟩
    · rw [FileBacked.take, FileBacked.put, name, recordPath_eq files here there]
      dsimp only
      rw [h.readRecord here there, missing]
      change StoreAnswer.ofEnding .record (files.save _ (record.atVersion 1).toJson _).1 = _
      rw [unsaved here there]
      rfl
    · rw [InMemory.take, InMemory.put, first] at heq
      cases heq
  | setValue key value =>
    obtain ⟨here, there⟩ := fits _ _ rfl
    have name : key.name = "." := point
    rw [name] at there
    obtain ⟨entries, -, -, hread⟩ := h.readValues here there key.kind
    refine ⟨?_, fun e heq => nomatch heq⟩
    rw [FileBacked.take, FileBacked.setValue, name, valuesPath_eq files _ here there]
    dsimp only
    rw [hread]
    dsimp only
    rw [Prod.map_fst, unsaved here there]
    rfl
  | get | updateStatus | configValue | reopen => exact point.elim

/-! ## Runs -/

/-- Whether the answer is a breakdown. -/
def StoreAnswer.isCrash : StoreAnswer → Bool
  | .crashed => true
  | _ => false

/-- The answers of a store with what it is after each of them. A breakdown ends the run. -/
def trace {σ : Type} (take : σ → StoreStep → StoreAnswer × σ) :
    σ → List StoreStep → List (StoreAnswer × σ)
  | _, [] => []
  | s, step :: rest =>
    take s step :: if (take s step).1.isCrash then [] else trace take (take s step).2 rest

variable {steps : List StoreStep}

theorem answers_eq_iff_of_mirrors (h : Mirrors files memory) (fits : ∀ step ∈ steps, step.Fits) :
    ((trace FileBacked.take files steps).map Prod.fst =
        (trace InMemory.take memory steps).map Prod.fst ↔
      ∀ step ∈ steps.take (trace InMemory.take memory steps).length, ¬ step.WritesPoint) ∧
    ((∀ step ∈ steps.take (trace InMemory.take memory steps).length, ¬ step.WritesPoint) →
      List.Forall₂ (fun a b => Tidy a.2 b.2) (trace FileBacked.take files steps)
        (trace InMemory.take memory steps)) := by
  induction steps generalizing files memory with
  | nil => exact ⟨⟨fun _ step hmem => (nomatch hmem), fun _ => rfl⟩, fun _ => .nil⟩
  | cons step rest ih =>
    have here := fits step List.mem_cons_self
    simp only [trace, List.map_cons, List.length_cons, List.take_succ_cons, List.forall_mem_cons,
      List.cons.injEq]
    by_cases point : step.WritesPoint
    · obtain ⟨failed, fine⟩ := take_point h here point
      refine ⟨⟨fun same => ?_, fun none => absurd point none.1⟩, fun none => absurd point none.1⟩
      rw [failed] at same
      exact absurd same.1.symm (fine _)
    · obtain ⟨answers, tidy, mirrors⟩ := take_mirrors h here point
      rw [answers]
      cases hcrash : (memory.take step).1.isCrash with
      | true => simp [point, tidy]
      | false =>
        have alive : (memory.take step).1 ≠ .crashed := by
          intro heq
          rw [heq] at hcrash
          cases hcrash
        obtain ⟨same, tidies⟩ :=
          ih (mirrors alive) fun next hnext => fits next (List.mem_cons_of_mem _ hnext)
        refine ⟨?_, fun none => ?_⟩
        · simpa [point] using same
        · exact .cons tidy (tidies none.2)

/-- **The store in files gives the answers of the store in memory exactly as long as nothing is
written under the name that is a point.** Both begin empty, all names can be those of files, and a
breakdown ends the run. As long as it is so the directory holds, after every step, one file for each
record and each collection of values, and no other file. -/
theorem answers_eq_iff {tree after : FileTree} {path : WrittenPath}
    (opened : FileBacked.openAt tree path = (.ok files, after))
    (empty : ∀ names, IsBelow names → files.tree.get? (files.root ++ names) = none)
    (fits : ∀ step ∈ steps, step.Fits) :
    ((trace FileBacked.take files steps).map Prod.fst =
        (trace InMemory.take {} steps).map Prod.fst ↔
      ∀ step ∈ steps.take (trace InMemory.take {} steps).length, ¬ step.WritesPoint) ∧
    ((∀ step ∈ steps.take (trace InMemory.take {} steps).length, ¬ step.WritesPoint) →
      List.Forall₂ (fun a b => Tidy a.2 b.2) (trace FileBacked.take files steps)
        (trace InMemory.take {} steps)) :=
  answers_eq_iff_of_mirrors (mirrors_of_openAt opened empty) fits

/-- A store in a fresh directory. -/
def shelf : FileBacked where
  tree := ⟨[(["store"], .directory)]⟩
  root := ["store"]
  written := ⟨["store"]⟩

theorem openAt_shelf : FileBacked.openAt {} ⟨["store"]⟩ = (.ok shelf, shelf.tree) := by
  have followed : (⟨["store"]⟩ : WrittenPath).refusal? = none := by
    simp only [WrittenPath.refusal?, WrittenPath.text, String.contains_char_eq,
      String.intercalate_singleton]
    decide
  rw [FileBacked.openAt, WrittenPath.makeAll, followed]
  rfl

theorem shelf_empty (names : TreePath) (below : IsBelow names) :
    shelf.tree.get? (shelf.root ++ names) = none := by
  obtain ⟨first, rest, rfl⟩ := List.exists_cons_of_ne_nil below.1
  rfl

/-- A record and a value, in a namespace that is a point. -/
def shelfSteps : List StoreStep :=
  [.put (.create "notes" "." (.literal "http://a")),
    .updateStatus (.create "notes" "." (.literal "http://b")),
    .setValue ⟨.secret, ".", "urls", ""⟩ "http://a", .reopen,
    .configValue ⟨.secret, ".", "urls", ""⟩, .get "notes" "."]

/-- A record under the name that is a point. -/
def pointStep : StoreStep := .put (.create "." "team" (.literal "http://a"))

/-- The same answers without the point as a name, and other ones with it. -/
theorem answers_eq_iff_shelf :
    (trace FileBacked.take shelf shelfSteps).map Prod.fst =
        (trace InMemory.take {} shelfSteps).map Prod.fst ∧
      (trace FileBacked.take shelf [pointStep]).map Prod.fst ≠
        (trace InMemory.take {} [pointStep]).map Prod.fst := by
  have fits : ∀ step ∈ shelfSteps, step.Fits := by
    intro step hmem namespaceName name hplace
    simp only [shelfSteps, List.mem_cons, List.not_mem_nil, or_false] at hmem
    rcases hmem with rfl | rfl | rfl | rfl | rfl | rfl <;> cases hplace <;> decide
  have pointFits : ∀ step ∈ [pointStep], step.Fits := by
    intro step hmem namespaceName name hplace
    obtain rfl := List.mem_singleton.1 hmem
    cases hplace
    decide
  refine ⟨(answers_eq_iff openAt_shelf shelf_empty fits).1.2 fun step hmem point => ?_, ?_⟩
  · have inside := List.mem_of_mem_take hmem
    simp only [shelfSteps, List.mem_cons, List.not_mem_nil, or_false] at inside
    rcases inside with rfl | rfl | rfl | rfl | rfl | rfl <;>
      simp [StoreStep.WritesPoint, MemoryRecord.create] at point
  · intro same
    exact (answers_eq_iff openAt_shelf shelf_empty pointFits).1.1 same pointStep
      List.mem_cons_self rfl

end ConversationMemory
