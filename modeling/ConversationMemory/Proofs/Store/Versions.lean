import ConversationMemory.Proofs.Store.Refinement
import Mathlib.Data.List.Induction

/-!
# Versions count writes

The version of a record is all a store keeps of its history.

* `InMemory.Puts`, `InMemory.Updates`: all that the two writing operations can do.
* `InMemory.Keyed`: records are kept under the names in them.
* **`InMemory.versionOf_take`**: a step raises a version by one exactly when it writes the record.
* `InMemory.obtains`: a copy that is answered is the stored record.
-/

namespace ConversationMemory

/-! ## What has been written -/

/-- The record that a step is to write. -/
def StoreStep.target? : StoreStep → Option (String × String)
  | .put record | .updateStatus record => some (InMemory.keyOf record)
  | _ => none

/-- Whether the answer is that of a step on a record that went well. -/
def StoreAnswer.succeeded : StoreAnswer → Bool
  | .done | .record _ => true
  | _ => false

/-- Whether a step, with its answer, has written the record of a key. -/
def wrote (key : String × String) (turn : StoreStep × StoreAnswer) : Bool :=
  turn.1.target? = some key && turn.2.succeeded

/-- How often a run has written the record of a key. -/
def writes (key : String × String) (history : List (StoreStep × StoreAnswer)) : Nat :=
  history.countP (wrote key)

namespace InMemory

variable {memory : InMemory} {key : String × String}

/-! ## Operations -/

theorem versionOf_of_get? {stored : MemoryRecord} (h : memory.records.get? key = some stored) :
    memory.versionOf key = stored.metadata.resourceVersion := by
  rw [versionOf, h]

theorem versionOf_of_none (h : memory.records.get? key = none) :
    (memory.versionOf key).toNat = 0 := by
  rw [versionOf, h]
  rfl

theorem versionOf_set (records : Table (String × String) MemoryRecord) (values : Table ValueKey String)
    (r : MemoryRecord) (other : String × String) :
    versionOf ⟨records.set key r, values⟩ other =
      if other = key then r.metadata.resourceVersion else versionOf ⟨records, values⟩ other := by
  by_cases same : other = key
  · rw [if_pos same, same, versionOf, Table.get?_set_self]
  · rw [if_neg same, versionOf, versionOf, Table.get?_set_of_ne _ same]

/-- What `put` can do. -/
inductive Puts (memory : InMemory) (record : MemoryRecord) :
    Ending StoreError MemoryRecord × InMemory → Prop
  | stored {version : UInt64} (next : version.toNat = (memory.versionOf (keyOf record)).toNat + 1) :
    Puts memory record (.done (record.atVersion version),
      ⟨memory.records.set (keyOf record) (record.atVersion version), memory.values⟩)
  | last (full : (memory.versionOf (keyOf record)).toNat + 1 = UInt64.size) :
    Puts memory record (.crashed, memory)

theorem nextVersion?_eq_none {version : UInt64} (h : Store.nextVersion? version = none) :
    version.toNat + 1 = UInt64.size := by
  have low := version.toNat_lt_size
  rw [Store.nextVersion?] at h
  split at h
  · cases h
  · omega

theorem puts (memory : InMemory) (record : MemoryRecord) :
    memory.Puts record (memory.put record) := by
  rw [put]
  cases hnext : Store.nextVersion? (memory.versionOf (keyOf record)) with
  | none => exact .last (nextVersion?_eq_none hnext)
  | some version => exact .stored (Store.nextVersion?_eq_some.1 hnext)

/-- What `updateStatus` can do. -/
inductive Updates (memory : InMemory) (record : MemoryRecord) :
    Ending StoreError MemoryRecord × InMemory → Prop
  | missing (none' : memory.records.get? (keyOf record) = none) :
    Updates memory record
      (.failed (.notFound record.metadata.name record.metadata.namespaceName), memory)
  | stale {stored : MemoryRecord} (found : memory.records.get? (keyOf record) = some stored)
      (differs : stored.metadata.resourceVersion ≠ record.metadata.resourceVersion) :
    Updates memory record
      (.failed (.conflict record.metadata.name record.metadata.namespaceName
        record.metadata.resourceVersion stored.metadata.resourceVersion), memory)
  | last {stored : MemoryRecord} (found : memory.records.get? (keyOf record) = some stored)
      (same : stored.metadata.resourceVersion = record.metadata.resourceVersion)
      (full : stored.metadata.resourceVersion.toNat + 1 = UInt64.size) :
    Updates memory record (.crashed,
      ⟨memory.records.set (keyOf record) { stored with status := record.status }, memory.values⟩)
  | written {stored : MemoryRecord} {version : UInt64}
      (found : memory.records.get? (keyOf record) = some stored)
      (same : stored.metadata.resourceVersion = record.metadata.resourceVersion)
      (next : version.toNat = stored.metadata.resourceVersion.toNat + 1) :
    Updates memory record (.done ({ stored with status := record.status }.atVersion version),
      ⟨memory.records.set (keyOf record) ({ stored with status := record.status }.atVersion version),
        memory.values⟩)

theorem updates (memory : InMemory) (record : MemoryRecord) :
    memory.Updates record (memory.updateStatus record) := by
  rw [updateStatus, get]
  cases hget : memory.records.get? (record.metadata.namespaceName, record.metadata.name) with
  | none => exact .missing hget
  | some stored =>
    dsimp only
    rw [Store.checkVersion]
    split
    · rename_i heq
      split at heq
      · cases heq
      · rename_i differs
        cases heq
        exact .stale hget differs
    · rename_i heq
      split at heq
      · rename_i same
        cases hnext : Store.nextVersion? stored.metadata.resourceVersion with
        | none => exact .last hget same (nextVersion?_eq_none hnext)
        | some version => exact .written hget same (Store.nextVersion?_eq_some.1 hnext)
      · cases heq

/-! ## Steps -/

/-- **A step raises a version by one exactly when it writes the record.** -/
theorem versionOf_take (memory : InMemory) (step : StoreStep) (key : String × String) :
    ((memory.take step).2.versionOf key).toNat =
      (memory.versionOf key).toNat + if wrote key (step, (memory.take step).1) then 1 else 0 := by
  cases step with
  | put record =>
    have puts := memory.puts record
    rw [take, wrote, StoreStep.target?]
    generalize memory.put record = after at puts ⊢
    cases puts with
    | last full => simp [StoreAnswer.ofEnding, StoreAnswer.succeeded]
    | @stored version next =>
      simp only [Prod.map, StoreAnswer.ofEnding, StoreAnswer.succeeded, id_eq, versionOf_set,
        Bool.and_true, decide_eq_true_eq, Option.some.injEq, eq_comm (a := keyOf record)]
      by_cases same : key = keyOf record
      · simp [same, MemoryRecord.atVersion, next]
      · simp [same]
  | updateStatus record =>
    have updates := memory.updates record
    rw [take, wrote, StoreStep.target?]
    generalize memory.updateStatus record = after at updates ⊢
    cases updates with
    | missing none' => simp [StoreAnswer.ofEnding, StoreAnswer.succeeded]
    | stale found differs => simp [StoreAnswer.ofEnding, StoreAnswer.succeeded]
    | last found same full =>
      simp only [Prod.map, StoreAnswer.ofEnding, StoreAnswer.succeeded, id_eq, versionOf_set]
      by_cases same : key = keyOf record
      · simp [same, versionOf_of_get? found]
      · simp [same]
    | written found same next =>
      simp only [Prod.map, StoreAnswer.ofEnding, StoreAnswer.succeeded, id_eq, versionOf_set,
        Bool.and_true, decide_eq_true_eq, Option.some.injEq, eq_comm (a := keyOf record)]
      by_cases same : key = keyOf record
      · simp [same, MemoryRecord.atVersion, next, versionOf_of_get? found]
      · simp [same]
  | get | setValue | configValue | reopen => rfl

/-- Every record is kept under the names in it, and has been written. -/
def Keyed (memory : InMemory) : Prop :=
  ∀ key r, memory.records.get? key = some r → keyOf r = key ∧ 0 < r.metadata.resourceVersion.toNat

theorem keyed_empty : ({} : InMemory).Keyed := fun _ _ found => nomatch found

theorem Keyed.set (h : memory.Keyed) {r : MemoryRecord} (same : keyOf r = key)
    (positive : 0 < r.metadata.resourceVersion.toNat) (values : Table ValueKey String) :
    Keyed ⟨memory.records.set key r, values⟩ := by
  intro other stored found
  by_cases hother : other = key
  · rw [hother, Table.get?_set_self] at found
    cases found
    exact ⟨same.trans hother.symm, positive⟩
  · rw [Table.get?_set_of_ne _ hother] at found
    exact h other stored found

theorem Keyed.take (h : memory.Keyed) (step : StoreStep) : (memory.take step).2.Keyed := by
  cases step with
  | put record =>
    have puts := memory.puts record
    rw [InMemory.take]
    generalize memory.put record = after at puts ⊢
    cases puts with
    | last => exact h
    | @stored version next =>
      have positive : 0 < version.toNat := by omega
      exact Keyed.set (r := record.atVersion version) h rfl positive _
  | updateStatus record =>
    have updates := memory.updates record
    rw [InMemory.take]
    generalize memory.updateStatus record = after at updates ⊢
    cases updates with
    | missing => exact h
    | stale => exact h
    | @last stored found same full =>
      exact Keyed.set (r := { stored with status := record.status }) h (h _ _ found).1
        (h _ _ found).2 _
    | @written stored version found same next =>
      have positive : 0 < version.toNat := by omega
      exact Keyed.set (r := { stored with status := record.status }.atVersion version) h
        (h _ _ found).1 positive _
  | get | setValue | configValue | reopen => exact h

/-- **A copy that is answered is the stored record.** -/
theorem obtains (h : memory.Keyed) {step : StoreStep} {copy : MemoryRecord}
    (answer : (memory.take step).1 = .record copy) :
    (memory.take step).2.records.get? (keyOf copy) = some copy := by
  cases step with
  | put record =>
    have puts := memory.puts record
    rw [take] at answer ⊢
    generalize memory.put record = after at puts answer ⊢
    cases puts with
    | last => cases answer
    | stored next =>
      cases answer
      exact Table.get?_set_self _ _ _
  | get name namespaceName =>
    rw [take, get] at answer
    rw [take]
    cases hget : memory.records.get? (namespaceName, name) with
    | none =>
      rw [hget] at answer
      cases answer
    | some r =>
      rw [hget] at answer
      cases answer
      rw [(h _ _ hget).1]
      exact hget
  | updateStatus record =>
    have updates := memory.updates record
    rw [take] at answer
    generalize memory.updateStatus record = after at updates answer
    cases updates <;> cases answer
  | setValue | configValue | reopen => cases answer

end InMemory

end ConversationMemory
