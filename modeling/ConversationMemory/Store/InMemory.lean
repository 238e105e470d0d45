import ConversationMemory.Store.Version
import ConversationMemory.Table
import ConversationMemory.Telemetry.Event

/-!
# The store in memory

* `InMemory`: records by namespace and name, values by collection and key.
* `InMemory.put`, `InMemory.get`, `InMemory.updateStatus`, `InMemory.delete`: the records.
* `InMemory.setValue`, `InMemory.configValue`: the values.
-/

namespace ConversationMemory

/-- Where a value is kept. -/
structure ValueKey where
  kind : ValueKind
  namespaceName : String
  name : String
  key : String
  deriving DecidableEq, Repr

/-- A store that lives in memory. -/
structure InMemory where
  /-- Records by namespace and name. -/
  records : Table (String × String) MemoryRecord := []
  values : Table ValueKey String := []

namespace InMemory

/-- The key of a record. -/
def keyOf (record : MemoryRecord) : String × String :=
  (record.metadata.namespaceName, record.metadata.name)

/-- The version of the stored record, zero when there is none. -/
def versionOf (store : InMemory) (key : String × String) : UInt64 :=
  match store.records.get? key with
  | some existing => existing.metadata.resourceVersion
  | none => 0

/-- Stores a record in place of an older one and answers it with its new version. -/
def put (store : InMemory) (record : MemoryRecord) : Ending StoreError MemoryRecord × InMemory :=
  let key := keyOf record
  match Store.nextVersion? (store.versionOf key) with
  | none => (.crashed, store)
  | some version =>
    let stored := record.atVersion version
    (.done stored, { store with records := store.records.set key stored })

/-- The stored record. -/
def get (store : InMemory) (name namespaceName : String) : Except StoreError MemoryRecord :=
  match store.records.get? (namespaceName, name) with
  | some record => .ok record
  | none => .error (.notFound name namespaceName)

/-- Writes the status of a record that was read at the stored version, and answers the record as
stored. The status is in place before the version is raised. -/
def updateStatus (store : InMemory) (record : MemoryRecord) :
    Ending StoreError MemoryRecord × InMemory :=
  match store.get record.metadata.name record.metadata.namespaceName with
  | .error e => (.failed e, store)
  | .ok stored =>
    match Store.checkVersion stored record with
    | .error e => (.failed e, store)
    | .ok () =>
      let updated := { stored with status := record.status }
      match Store.nextVersion? stored.metadata.resourceVersion with
      | none => (.crashed, { store with records := store.records.set (keyOf record) updated })
      | some version =>
        let updated := updated.atVersion version
        (.done updated, { store with records := store.records.set (keyOf record) updated })

/-- Removes a record. -/
def delete (store : InMemory) (name namespaceName : String) : InMemory :=
  { store with records := store.records.erase (namespaceName, name) }

/-- Sets one value of a collection. -/
def setValue (store : InMemory) (key : ValueKey) (value : String) : InMemory :=
  { store with values := store.values.set key value }

/-- A value, if it is there. -/
def configValue (store : InMemory) (key : ValueKey) : Option String := store.values.get? key

/-! ## Log entries -/

/-- The entry about a stored record. -/
def putEntry (stored : MemoryRecord) : LogEntry :=
  ⟨.debug, s!"[InMemoryResourceStore] Stored memory '{stored.target}' at version " ++
    s!"{stored.metadata.resourceVersion.toNat}", []⟩

/-- The entry about a written status. -/
def updateEntry (submitted stored : MemoryRecord) : LogEntry :=
  ⟨.debug, s!"[InMemoryResourceStore] Updated status of '{submitted.target}' to version " ++
    s!"{stored.metadata.resourceVersion.toNat}", []⟩

/-- The entry about a removed record. -/
def deleteEntry (name namespaceName : String) : LogEntry :=
  ⟨.debug, s!"[InMemoryResourceStore] Deleted memory '{namespaceName}/{name}'", []⟩

end InMemory

end ConversationMemory
