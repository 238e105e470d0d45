import ConversationMemory.Json.Decoder
import ConversationMemory.Json.Printer
import ConversationMemory.Store.InMemory
import ConversationMemory.Text.Unprintable

/-!
# The store in files

A record is the file `namespace/memories/name.json` below the root of the store, a collection of
values the file `namespace/configmaps/name.json` or `namespace/secrets/name.json`.

* `FileBacked.recordPath`, `FileBacked.valuesPath`: the path of a resource; `FileBacked.segment`
  refuses names that would lead elsewhere.
* `FileBacked.put`, `FileBacked.get`, `FileBacked.updateStatus`, `FileBacked.setValue`,
  `FileBacked.configValue`: the operations of a store.
* `FileBacked.writeJson`: writes beside the file and renames, so that no reader sees half of it.
* `WriteStage`: how far a write gets that is given up. `FileBacked.writeUntil`,
  `FileBacked.updateStatusUntil`: what is left of it.
-/

namespace ConversationMemory

/-- How far a write gets before it is given up; nobody waits for it any more. -/
inductive WriteStage
  | unstarted
  /-- The directories on the way are there. -/
  | directories
  /-- So many bytes stand in the file beside. -/
  | beside (count : Nat)
  | whole
  deriving DecidableEq, Repr

/-- A store in a directory of a file tree. -/
structure FileBacked where
  tree : FileTree
  root : TreePath
  /-- The directory as it has been written. -/
  written : WrittenPath := .ofText ""

namespace FileBacked

/-! ## Paths -/

/-- Whether two points stand next to each other. -/
def hasDoublePoint : List Char → Bool
  | '.' :: '.' :: _ => true
  | _ :: rest => hasDoublePoint rest
  | [] => false

/-- A name that is one step of a path. -/
def segment (value : String) : Except StoreError String :=
  if value.isEmpty then .error (.invalidName value .empty)
  else if value.toList.any fun c => c == '/' || c == '\\' then
    .error (.invalidName value .separator)
  else if hasDoublePoint value.toList then .error (.invalidName value .doublePoint)
  else .ok value

/-- The families of resources. -/
inductive Family
  | memory
  | values (kind : ValueKind)
  deriving DecidableEq, Repr

/-- The directory of a family below its namespace. -/
def Family.directory : Family → String
  | memory => "memories"
  | values .configMap => "configmaps"
  | values .secret => "secrets"

/-- The step of a path for a namespace; a single point stays in place. -/
def step (name : String) : TreePath := if name = "." then [] else [name]

/-- The directory of the resources of a family in a namespace. -/
def directoryOf (root : TreePath) (family : Family) (namespaceName : String) : TreePath :=
  root ++ step namespaceName ++ [family.directory]

/-- The path of a resource. -/
def pathOf (root : TreePath) (family : Family) (namespaceName name : String) :
    Except StoreError TreePath := do
  let namespaceName ← segment namespaceName
  let name ← segment name
  return directoryOf root family namespaceName ++ [name ++ ".json"]

/-- The path beside a file to which its next content is written first: what stands before the
extension, and another extension. Of the name `.` two points stand there, which lead to the
directory above. -/
def temporaryOf (path : TreePath) : TreePath :=
  match path.getLast? with
  | none => []
  | some name =>
    if name = "..json" then path.dropLast.dropLast else path.dropLast ++ [name ++ ".tmp"]

/-- The path of a record. -/
def recordPath (store : FileBacked) (name namespaceName : String) : Except StoreError TreePath :=
  pathOf store.root .memory namespaceName name

/-- The path of a collection of values. -/
def valuesPath (store : FileBacked) (kind : ValueKind) (name namespaceName : String) :
    Except StoreError TreePath :=
  pathOf store.root (.values kind) namespaceName name

/-! ## Files -/

/-- Reads and decodes a file, if it is there. -/
def readFile {α : Type} (tree : FileTree) (d : Json.Decoder α) (path : TreePath) :
    Except StoreError (Option α) :=
  match tree.readText path with
  | .error .notFound => .ok none
  | .error e => .error (.io e)
  | .ok text =>
    match d.decodeText text with
    | .ok a => .ok (some a)
    | .error fault => .error (.malformed fault)

/-- Writes a value to a file, by way of a temporary file beside it. -/
def writeJson (tree : FileTree) (path : TreePath) (value : Json) :
    Except StoreError Unit × FileTree :=
  match tree.createDirectories path.dropLast with
  | (.error e, tree) => (.error (.io e), tree)
  | (.ok (), tree) =>
    match tree.writeBytes (temporaryOf path) (Utf8.bytesOf value.pretty) with
    | (.error e, tree) => (.error (.io e), tree)
    | (.ok (), tree) =>
      match tree.rename (temporaryOf path) path with
      | (.error e, tree) => (.error (.io e), tree)
      | (.ok (), tree) => (.ok (), tree)

/-- What is left of a write that was given up. -/
def writeUntil (stage : WriteStage) (tree : FileTree) (path : TreePath) (value : Json) : FileTree :=
  match stage with
  | .unstarted => tree
  | .directories => (tree.createDirectories path.dropLast).2
  | .beside count =>
    match tree.createDirectories path.dropLast with
    | (.error _, tree) => tree
    | (.ok (), tree) =>
      (tree.writeBytes (temporaryOf path) ((Utf8.bytesOf value.pretty).take count)).2
  | .whole => (writeJson tree path value).2

/-- Writes a value and answers a result when that went well. -/
def save {α : Type} (store : FileBacked) (path : TreePath) (value : Json) (result : α) :
    Ending StoreError α × FileBacked :=
  match writeJson store.tree path value with
  | (.error e, tree) => (.failed e, { store with tree })
  | (.ok (), tree) => (.done result, { store with tree })

/-! ## Operations -/

/-- The store in a directory, which is made if it is missing. -/
def openAt (tree : FileTree) (path : WrittenPath) : Except StoreError FileBacked × FileTree :=
  match path.makeAll tree with
  | (.error e, tree) => (.error (.io e), tree)
  | (.ok (), tree) =>
    match path.directory tree with
    | .error e => (.error (.io e), tree)
    | .ok root => (.ok { tree, root, written := path }, tree)

/-- The record in a file, if it is there. -/
def readRecord (store : FileBacked) (path : TreePath) : Except StoreError (Option MemoryRecord) :=
  readFile store.tree MemoryRecord.decoder path

/-- The values in a file, if it is there. -/
def readValues (store : FileBacked) (path : TreePath) :
    Except StoreError (Option (Entries String)) :=
  readFile store.tree Json.Decoder.textMap path

/-- Stores a record in place of an older one and answers it with its new version. -/
def put (store : FileBacked) (record : MemoryRecord) :
    Ending StoreError MemoryRecord × FileBacked :=
  match store.recordPath record.metadata.name record.metadata.namespaceName with
  | .error e => (.failed e, store)
  | .ok path =>
    match store.readRecord path with
    | .error e => (.failed e, store)
    | .ok existing =>
      match Store.nextVersion? (existing.elim 0 (·.metadata.resourceVersion)) with
      | none => (.crashed, store)
      | some version =>
        let stored := record.atVersion version
        store.save path stored.toJson stored

/-- The stored record. -/
def get (store : FileBacked) (name namespaceName : String) : Except StoreError MemoryRecord :=
  match store.recordPath name namespaceName with
  | .error e => .error e
  | .ok path =>
    match store.readRecord path with
    | .error e => .error e
    | .ok none => .error (.notFound name namespaceName)
    | .ok (some record) => .ok record

/-- What a status write puts into which file: the stored record with another status and its next
version, if it was read at the stored one. The file is that of the submitted name and namespace; what
it says about itself does not count. -/
def withStatus (store : FileBacked) (record : MemoryRecord) :
    Ending StoreError (TreePath × MemoryRecord) :=
  let name := record.metadata.name
  let namespaceName := record.metadata.namespaceName
  match store.recordPath name namespaceName with
  | .error e => .failed e
  | .ok path =>
    match store.readRecord path with
    | .error e => .failed e
    | .ok none => .failed (.notFound name namespaceName)
    | .ok (some stored) =>
      match Store.checkVersion stored record with
      | .error e => .failed e
      | .ok () =>
        match Store.nextVersion? stored.metadata.resourceVersion with
        | none => .crashed
        | some version => .done (path, { stored with status := record.status }.atVersion version)

/-- Writes the status of a record that was read at the stored version, and answers the record as
stored. -/
def updateStatus (store : FileBacked) (record : MemoryRecord) :
    Ending StoreError MemoryRecord × FileBacked :=
  match store.withStatus record with
  | .failed e => (.failed e, store)
  | .crashed => (.crashed, store)
  | .done (path, updated) => store.save path updated.toJson updated

/-- What is left of a status write that was given up. -/
def updateStatusUntil (stage : WriteStage) (store : FileBacked) (record : MemoryRecord) : FileBacked :=
  match store.withStatus record with
  | .failed _ | .crashed => store
  | .done (path, updated) => { store with tree := writeUntil stage store.tree path updated.toJson }

/-- Sets one value of a collection. -/
def setValue (store : FileBacked) (key : ValueKey) (value : String) :
    Ending StoreError Unit × FileBacked :=
  match store.valuesPath key.kind key.name key.namespaceName with
  | .error e => (.failed e, store)
  | .ok path =>
    match store.readValues path with
    | .error e => (.failed e, store)
    | .ok existing =>
      let entries := (existing.getD []).insert key.key value
      store.save path (.object (entries.map fun (key, value) => (key, .string value))) ()

/-- A value, if it is there. -/
def configValue (store : FileBacked) (key : ValueKey) : Except StoreError (Option String) :=
  match store.valuesPath key.kind key.name key.namespaceName with
  | .error e => .error e
  | .ok path => (store.readValues path).map fun entries => entries.bind (·.get? key.key)

/-! ## Log entries -/

/-- The entry about a stored record in a store in a directory. -/
def putEntry (written : WrittenPath) (stored : MemoryRecord) : LogEntry :=
  let directory := (written.join stored.metadata.namespaceName).join Family.memory.directory
  let path := (directory.join (stored.metadata.name ++ ".json")).text
  ⟨.debug, s!"[FileSystemResourceStore] Stored memory '{stored.target}' to {Text.quoted path}", []⟩

/-- The entry about a record read for a name and namespace. -/
def getEntry (name namespaceName : String) (record : MemoryRecord) : LogEntry :=
  ⟨.debug, s!"[FileSystemResourceStore] Loaded memory '{namespaceName}/{name}' at version " ++
    s!"{record.metadata.resourceVersion.toNat}", []⟩

/-- The entry about a written status. -/
def updateEntry (stored : MemoryRecord) : LogEntry :=
  ⟨.debug, s!"[FileSystemResourceStore] Updated status of '{stored.target}' to version " ++
    s!"{stored.metadata.resourceVersion.toNat}", []⟩

/-- The entry about a value that was set. -/
def setEntry (key : ValueKey) : LogEntry :=
  let shown := s!"'{key.namespaceName}/{key.name}' key '{key.key}'"
  ⟨.debug, s!"[FileSystemResourceStore] Set {key.kind.name} " ++ shown, []⟩

end FileBacked

end ConversationMemory
