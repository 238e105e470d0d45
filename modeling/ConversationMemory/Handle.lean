import ConversationMemory.Message
import ConversationMemory.Operation.Context
import ConversationMemory.Operation.Error
import ConversationMemory.Settings
import ConversationMemory.Telemetry.Tracker

/-!
# Handles

A handle is the memory of one session at the service that a record points to.

* `Handle`: what stays the same about a handle. `HandleState`: its last resolved base address and
  its open transport.
* `Collaborators`: everything outside of a handle that its operations call upon.
* `normalize`: an address without one slash at its end.
-/

namespace ConversationMemory

/-- The address without one slash at its end. -/
def normalize (address : String) : String :=
  if address.toList.getLast? = some '/' then String.ofList address.toList.dropLast else address

/-- What stays the same about a handle. -/
structure Handle where
  name : String
  namespaceName : String
  sessionId : String
  settings : MemoryConfig
  /-- A transport that was given by the caller, and is used whenever one is needed. -/
  shared : Option Transport := none
  deriving DecidableEq, Repr

/-- What changes about a handle. -/
structure HandleState where
  /-- The last resolved address, without one slash at its end. -/
  baseUrl : String
  transport : Option Transport
  deriving DecidableEq, Repr

/-- Namespace and name, by which messages name the memory. -/
def Handle.target (handle : Handle) : String := handle.namespaceName ++ "/" ++ handle.name

/-- Why an operation ends before it has come to a result. -/
inductive Abort
  | interrupted (interrupt : Interrupt)
  /-- Nobody waits for the operation any more. -/
  | dropped
  /-- A collaborator has broken down. -/
  | crashed
  /-- A collaborator never answers. -/
  | stuck
  deriving DecidableEq, Repr

/-- What the operations of a handle call upon. Each call may take its time; an operation may be
stopped while it waits. -/
structure Collaborators (m : Type → Type) where
  /-- The current record of a name in a namespace. -/
  get : String → String → m (Except StoreError MemoryRecord)
  /-- Writes the status of a record. -/
  updateStatus : MemoryRecord → m (Except StoreError Unit)
  /-- The address that a specification stands for in a namespace. -/
  resolve : AddressSpec → String → m (Except ResolveError String)
  /-- Sends a request. -/
  send : Request → m (Except TransportError Response)
  /-- Takes in an event. -/
  emit : OperationEvent → m Unit
  /-- Writes to the log. -/
  log : LogEntry → m Unit
  /-- Runs an operation in its scope, under a timeout that holds if the scope has no deadline. -/
  within : {α : Type} → OperationContext → Option Nat → m α → m (Except Abort α)
  /-- The time since an operation has started. -/
  elapsed : m Duration
  /-- Ends in the way in which an operation has ended. -/
  leave : {α : Type} → Abort → m α

end ConversationMemory
