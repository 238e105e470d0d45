import ConversationMemory.CommandLine.Arguments
import ConversationMemory.Handle.Build
import ConversationMemory.Handle.Messages
import ConversationMemory.Store.FileBacked

/-!
# What the commands do

* `CommandLine.connect`: a handle for the memory that a command is about.
* `CommandLine.addMessages`, `CommandLine.getMessages`: the commands that use the service.
* `CommandLine.register`: stores a record with a literal address. `CommandLine.registration` is that
  record.
* `CommandLine.readMessages`: the messages of a text.
* `CommandLine.Failure`: what went wrong, and what led to it.
-/

namespace ConversationMemory.CommandLine

/-- What went wrong, and the errors that led to it, the nearest one first. -/
structure Failure where
  message : String
  causes : List String := []
  deriving DecidableEq, Repr

namespace Failure

/-- The failure of an operation on a memory. -/
def ofMemory (e : MemoryError) : Failure := ⟨e.message, e.causes⟩

/-- The failure of a store. -/
def ofStore (e : StoreError) : Failure := ⟨e.message, e.causes⟩

/-- The failure and what led to it in one line. -/
def chain (failure : Failure) : String := ": ".intercalate (failure.message :: failure.causes)

/-- A text that is moved to the right, from its second line on. -/
def indented (margin : String) (text : String) : String :=
  ("\n" ++ margin).intercalate (text.splitOn "\n")

/-- The causes under each other, with numbers if there are several. -/
def causeLines : List String → List String
  | [cause] => ["    " ++ indented "    " cause]
  | causes => causes.zipIdx.map fun (cause, i) =>
      let margin := String.ofList (List.replicate (5 - (toString i).length) ' ')
      margin ++ s!"{i}: " ++ indented "       " cause

/-- The failure and what led to it, over several lines. -/
def report (failure : Failure) : String :=
  if failure.causes.isEmpty then failure.message
  else "\n".intercalate (failure.message :: "" :: "Caused by:" :: causeLines failure.causes)

end Failure

/-! ## Messages from a file -/

/-- The messages of a text. -/
def readMessages (text : String) : Except Failure (List Message) :=
  match Message.decoder.list.decodeText text with
  | .ok messages => .ok messages
  | .error fault => .error ⟨"Expected a JSON array of messages", [fault.message]⟩

/-- The messages of a file; a stroke stands for the input. -/
def messagesOf (tree : FileTree) (input file : String) : Except Failure (List Message) :=
  if file = "-" then readMessages input
  else
    match (WrittenPath.ofText file).readText tree with
    | .error e => .error ⟨s!"Failed to read {file}", [e.message]⟩
    | .ok text => readMessages text

/-! ## Commands on a memory -/

section

variable {m : Type → Type} [Monad m] [MonadStateOf HandleState m]

/-- What a handle for a command is built from. -/
def handleSpec (settings : MemoryConfig) (target : Target) (session : Option String) : HandleSpec :=
  { name := target.name, namespaceName := target.namespaceName, sessionId := session,
    settings := some settings }

/-- A handle for the memory that a command is about. -/
def connect (c : Collaborators m) (settings : MemoryConfig) (target : Target)
    (session : Option String) :
    m (Except MemoryError Handle) := do
  match ← (handleSpec settings target session).build c true with
  | .error e => return .error e
  | .ok (handle, state) =>
    set state
    return .ok handle

/-- Appends messages to a session. -/
def addMessages (c : Collaborators m) (settings : MemoryConfig) (target : Target)
    (session : Option String)
    (messages : List Message) : m (Except MemoryError Handle) := do
  match ← connect c settings target session with
  | .error e => return .error e
  | .ok handle =>
    match ← handle.addMessages c {} messages with
    | .error e => return .error e
    | .ok () =>
      handle.close c
      return .ok handle

/-- Fetches the messages of a session. -/
def getMessages (c : Collaborators m) (settings : MemoryConfig) (target : Target)
    (session : Option String) :
    m (Except MemoryError (Handle × List Message)) := do
  match ← connect c settings target session with
  | .error e => return .error e
  | .ok handle =>
    match ← handle.getMessages c {} with
    | .error e => return .error e
    | .ok messages =>
      handle.close c
      return .ok (handle, messages)

end

/-! ## Registration -/

/-- The identity of a registered memory. -/
def registeredUid (target : Target) : String := target.namespaceName ++ "." ++ target.name

/-- The record of a memory with a literal address, which counts as resolved. -/
def registration (target : Target) (address : String) : MemoryRecord :=
  ((MemoryRecord.create target.name target.namespaceName (.literal address)).withUid
    (registeredUid target)).withResolvedAddress address

/-- Stores the record of a memory, in place of an older one. -/
def register (store : FileBacked) (target : Target) (address : String) :
    Ending StoreError MemoryRecord × FileBacked :=
  store.put (registration target address)

end ConversationMemory.CommandLine
