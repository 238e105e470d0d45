import ConversationMemory.Record
import ConversationMemory.Store.Error

/-!
# Versions of records

Every write of a record raises its version by one, and a status is only written by someone who has
seen the version that is stored. Versions are counted with a check for overflow, as in a build with
such checks: what would need a version after the last one breaks down. A build without them would go
on at zero.

* `Store.nextVersion?`: the version after a write; the last one of 64 bits has none.
* `Store.checkVersion`: refuses a record that was read at another version.
* `ValueKind`: the two kinds of collections that hold values.
-/

namespace ConversationMemory

/-- The kinds of collections in which values are kept. -/
inductive ValueKind
  | configMap
  | secret
  deriving DecidableEq, Repr

/-- The kind as it is written. -/
def ValueKind.name : ValueKind → String
  | configMap => "configmap"
  | secret => "secret"

namespace Store

/-- The version after a write, unless counting on would overflow. -/
def nextVersion? (version : UInt64) : Option UInt64 :=
  if version.toNat + 1 < UInt64.size then some (version + 1) else none

theorem nextVersion?_eq_some {version next : UInt64} :
    nextVersion? version = some next ↔ next.toNat = version.toNat + 1 := by
  have low : next.toNat < UInt64.size := next.toNat_lt_size
  have step : (version + 1).toNat = (version.toNat + 1) % UInt64.size := UInt64.toNat_add version 1
  unfold nextVersion?
  split
  · rename_i h
    rw [Nat.mod_eq_of_lt h] at step
    constructor
    · intro eq
      rw [← Option.some.inj eq]
      exact step
    · intro eq
      rw [← step] at eq
      exact congrArg some (UInt64.toNat_inj.mp eq.symm)
  · constructor
    · intro eq
      cases eq
    · intro eq
      omega

/-- Whether a submitted record was read at the version that is stored. -/
def checkVersion (stored submitted : MemoryRecord) : Except StoreError Unit :=
  if stored.metadata.resourceVersion = submitted.metadata.resourceVersion then .ok ()
  else
    .error (.conflict submitted.metadata.name submitted.metadata.namespaceName
      submitted.metadata.resourceVersion stored.metadata.resourceVersion)

end Store

end ConversationMemory
