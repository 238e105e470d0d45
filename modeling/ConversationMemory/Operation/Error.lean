import ConversationMemory.Http
import ConversationMemory.Resolution

/-!
# What can go wrong with an operation

* `MemoryError`: why an operation on a memory, or its construction, fails.
* `MemoryError.message`, `MemoryError.causes`: the error and what led to it in words.
* `MemoryError.isRetryable`: whether the same call may go better later.
-/

namespace ConversationMemory

/-- Why an operation fails. Operations go by their names, memories by namespace and name. -/
inductive MemoryError
  | invalidArgument (reason : String)
  /-- The record has never been resolved. -/
  | notReady (target : String)
  | configuration (operation target : String) (source : StoreError)
  | resolution (operation target : String) (source : ResolveError)
  /-- The service has answered with a status that is no success. -/
  | backend (operation target : String) (status : Nat)
  | transport (operation target : String) (source : TransportError)
  | encode (operation target : String) (source : Json.Fault)
  /-- A message at an index, or the answer as a whole, cannot be understood. -/
  | decode (operation target : String) (index : Option Nat) (reason : String)
  | cancelled (operation target : String) (reason : String)

namespace MemoryError

/-- The error in words. -/
def message : MemoryError → String
  | invalidArgument reason => "invalid argument: " ++ reason
  | notReady target => s!"memory {target} has no lastResolvedAddress in status"
  | configuration operation target source =>
    s!"{operation} on {target}: failed to get memory resource: {source.message}"
  | resolution operation target source =>
    s!"{operation} on {target}: failed to resolve memory address: {source.message}"
  | backend operation target status => s!"{operation} on {target}: HTTP status {status}"
  | transport operation target source =>
    s!"{operation} on {target}: HTTP request failed: {source.message}"
  | encode operation target source =>
    s!"{operation} on {target}: failed to serialize messages: {source.message}"
  | decode operation target (some index) reason =>
    s!"{operation} on {target}: failed to unmarshal message at index {index}: {reason}"
  | decode operation target none reason =>
    s!"{operation} on {target}: failed to decode response: {reason}"
  | cancelled operation target reason => s!"{operation} on {target}: operation cancelled: {reason}"

/-- The errors that led to an error, the nearest one first. -/
def causes : MemoryError → List String
  | configuration _ _ source => source.message :: source.causes
  | resolution _ _ source => source.message :: source.causes
  | transport _ _ source => source.message :: source.causes
  | encode _ _ source => [source.message]
  | _ => []

/-- The status of an answer that is no success. -/
def status : MemoryError → Option Nat
  | backend _ _ status => some status
  | _ => none

/-- Whether the same call may go better later. -/
def isRetryable : MemoryError → Bool
  | transport .. | cancelled .. => true
  | backend _ _ status => status == 429 || 500 ≤ status
  | configuration _ _ (.unavailable _) => true
  | _ => false

end MemoryError

end ConversationMemory
