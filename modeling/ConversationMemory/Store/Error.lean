import ConversationMemory.FileTree.Written
import ConversationMemory.Json.Fault

/-!
# What can be wrong with a store

* `StoreError`: why a store does not answer a request; `StoreError.message` puts it into words.
* `Ending`: how a call ends, a breakdown included.
-/

namespace ConversationMemory

/-- Why a name cannot be used as a key of a store. -/
inductive NameFault
  | empty
  | separator
  | doublePoint
  deriving DecidableEq, Repr

/-- The fault in words. -/
def NameFault.message : NameFault → String
  | empty => "must not be empty"
  | separator => "must not contain path separators"
  | doublePoint => "must not contain `..`"

/-- Why a store does not answer a request. -/
inductive StoreError
  | notFound (name namespaceName : String)
  | unavailable (reason : String)
  /-- The record submitted was read at another version than the stored one. -/
  | conflict (name namespaceName : String) (submitted current : UInt64)
  | invalidName (value : String) (fault : NameFault)
  | io (error : IoError)
  | malformed (fault : Json.Fault)

/-- The error in words. -/
def StoreError.message : StoreError → String
  | notFound name namespaceName => s!"memory {namespaceName}/{name} not found"
  | unavailable reason => s!"configuration store unavailable: {reason}"
  | conflict name namespaceName submitted current =>
    s!"memory {namespaceName}/{name} was modified concurrently (have version {submitted.toNat}, " ++
      s!"store has {current.toNat})"
  | invalidName value fault => s!"invalid resource name `{value}`: {fault.message}"
  | io error => s!"store I/O error: {error.message}"
  | malformed fault => s!"malformed stored resource: {fault.message}"

/-- The errors that led to an error, the nearest one first. -/
def StoreError.causes : StoreError → List String
  | io error => [error.message]
  | malformed fault => [fault.message]
  | _ => []

/-- How a call ends. -/
inductive Ending (ε α : Type)
  | done (result : α)
  | failed (error : ε)
  /-- The call breaks down without an answer. -/
  | crashed

namespace Ending

/-- The ending with the result changed. -/
def map {ε α β : Type} (f : α → β) : Ending ε α → Ending ε β
  | done a => done (f a)
  | failed e => failed e
  | crashed => crashed

/-- An answer of either kind. -/
def ofExcept {ε α : Type} : Except ε α → Ending ε α
  | .ok a => done a
  | .error e => failed e

end Ending

end ConversationMemory
