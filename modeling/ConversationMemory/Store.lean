import ConversationMemory.Store.FileBacked

/-!
# Stores

Both stores behind one set of operations, each of which also answers what it adds to the log.

* `Store`: a store in memory or in files.
* `Store.put`, `Store.get`, `Store.updateStatus`, `Store.delete`: the records.
  `Store.updateStatusUntil`: what is left of a status write that was given up.
* `Store.setValue`, `Store.configValue`: the values.
-/

namespace ConversationMemory

/-- A store. -/
inductive Store
  | memory (store : InMemory)
  | files (store : FileBacked)

namespace Store

/-- The entries about a call that succeeded. -/
def entriesOf {α : Type} (entry : α → LogEntry) : Ending StoreError α → List LogEntry
  | .done a => [entry a]
  | _ => []

/-- Stores a record in place of an older one and answers it with its new version. -/
def put (record : MemoryRecord) : Store → Ending StoreError MemoryRecord × Store × List LogEntry
  | memory store =>
    let (ending, after) := store.put record
    (ending, memory after, entriesOf InMemory.putEntry ending)
  | files store =>
    let (ending, after) := store.put record
    (ending, files after, entriesOf (FileBacked.putEntry store.written) ending)

/-- The stored record. -/
def get (name namespaceName : String) : Store → Except StoreError MemoryRecord × List LogEntry
  | memory store => (store.get name namespaceName, [])
  | files store =>
    let answer := store.get name namespaceName
    (answer, entriesOf (FileBacked.getEntry name namespaceName) (.ofExcept answer))

/-- Writes the status of a record that was read at the stored version. -/
def updateStatus (record : MemoryRecord) : Store → Ending StoreError Unit × Store × List LogEntry
  | memory store =>
    let (ending, after) := store.updateStatus record
    (ending.map fun _ => (), memory after, entriesOf (InMemory.updateEntry record) ending)
  | files store =>
    let (ending, after) := store.updateStatus record
    (ending.map fun _ => (), files after, entriesOf FileBacked.updateEntry ending)

/-- What is left of a status write that was given up. In memory it is made at once or not at all. -/
def updateStatusUntil (stage : WriteStage) (record : MemoryRecord) : Store → Store
  | memory store => memory (if stage = .whole then (store.updateStatus record).2 else store)
  | files store => files (store.updateStatusUntil stage record)

/-- Removes a record from the store in memory; records in files stay. -/
def delete (name namespaceName : String) : Store → Store × List LogEntry
  | memory store =>
    (memory (store.delete name namespaceName), [InMemory.deleteEntry name namespaceName])
  | files store => (files store, [])

/-- Sets one value of a collection. -/
def setValue (key : ValueKey) (value : String) :
    Store → Ending StoreError Unit × Store × List LogEntry
  | memory store => (.done (), memory (store.setValue key value), [])
  | files store =>
    let (ending, after) := store.setValue key value
    (ending, files after, entriesOf (fun _ => FileBacked.setEntry key) ending)

/-- A value, if it is there. -/
def configValue (key : ValueKey) : Store → Except StoreError (Option String)
  | memory store => .ok (store.configValue key)
  | files store => store.configValue key

end Store

end ConversationMemory
