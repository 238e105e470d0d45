import ConversationMemory.Proofs.Store.Versions
import Mathlib.Data.List.Nodup

/-!
# Versions and removal

A version lives in the record it counts the writes of, and goes away with it.

* `MemoryStep`: what is asked of the store in memory, removal included. `Change`: what takes effect.
* `versionAfter`: the version after some changes; `versionOf_served`: the store has this one.
* **`updateStatus_of_old_copy`**: a copy is as good as new after a removal followed by as many writes
  as its version says, and versions are given out again exactly when a removed record is written.
-/

namespace ConversationMemory

/-! ## Changes -/

/-- What is asked of a store in memory. -/
inductive MemoryStep
  | ask (step : StoreStep)
  | delete (name namespaceName : String)

/-- What has taken effect on the record of a key. -/
inductive Change
  | written (key : String × String)
  | removed (key : String × String)
  deriving DecidableEq

namespace Change

/-- The key of the record. -/
def key : Change → String × String
  | written key | removed key => key

/-- The version of a record after a change. -/
def next (key : String × String) (version : Nat) : Change → Nat
  | written other => if other = key then version + 1 else version
  | removed other => if other = key then 0 else version

end Change

section

variable {key : String × String} {changes front back : List Change} {version : Nat}

/-- The version of a record after changes. -/
def versionAfter (key : String × String) (version : Nat) (changes : List Change) : Nat :=
  changes.foldl (Change.next key) version

/-- The versions that changes give out for a record. -/
def versionsGiven (key : String × String) (version : Nat) : List Change → List Nat
  | [] => []
  | change :: rest =>
    (if change = .written key then [change.next key version] else []) ++
      versionsGiven key (change.next key version) rest

theorem versionAfter_append :
    versionAfter key version (front ++ back) = versionAfter key (versionAfter key version front) back :=
  List.foldl_append

theorem versionsGiven_append : versionsGiven key version (front ++ back) =
    versionsGiven key version front ++ versionsGiven key (versionAfter key version front) back := by
  induction front generalizing version with
  | nil => rfl
  | cons change rest ih => simp [versionsGiven, versionAfter, ih]

theorem versionAfter_of_not_removed (kept : .removed key ∉ changes) :
    versionAfter key version changes = version + changes.count (.written key) := by
  induction changes generalizing version with
  | nil => rfl
  | cons change rest ih =>
    have hrest : .removed key ∉ rest := fun hmem => kept (List.mem_cons_of_mem _ hmem)
    have step := @ih (change.next key version) hrest
    rw [versionAfter, List.foldl_cons, ← versionAfter, step, List.count_cons]
    cases change with
    | written other =>
      by_cases same : other = key <;> simp [Change.next, same]
      omega
    | removed other =>
      have differs : other ≠ key := by
        rintro rfl
        exact kept List.mem_cons_self
      simp [Change.next, differs]

theorem versionAfter_of_removed (kept : .removed key ∉ back) :
    versionAfter key version (front ++ .removed key :: back) = back.count (.written key) := by
  have reset (n : Nat) : Change.next key n (.removed key) = 0 := if_pos rfl
  rw [versionAfter_append, versionAfter, List.foldl_cons, reset, ← versionAfter,
    versionAfter_of_not_removed kept, Nat.zero_add]

theorem exists_last_removal (h : .removed key ∈ changes) :
    ∃ front back, changes = front ++ .removed key :: back ∧ .removed key ∉ back := by
  obtain ⟨back, front, hsplit, hback⟩ := List.eq_append_cons_of_mem (List.mem_reverse.2 h)
  refine ⟨front.reverse, back.reverse, ?_, by simpa using hback⟩
  rw [← List.reverse_reverse changes, hsplit]
  simp

theorem versionAfter_zero_of_not_written (h : .written key ∉ changes) :
    versionAfter key 0 changes = 0 := by
  by_cases removed : .removed key ∈ changes
  · obtain ⟨front, back, rfl, kept⟩ := exists_last_removal removed
    rw [versionAfter_of_removed kept, List.count_eq_zero]
    exact fun hmem => h (by simp [hmem])
  · rw [versionAfter_of_not_removed removed, List.count_eq_zero.2 h]

/-- **Which changes lead back to a version.** -/
theorem versionAfter_eq_iff : versionAfter key version changes = version ↔
    (∀ change ∈ changes, change.key ≠ key) ∨ ∃ front back,
      changes = front ++ .removed key :: back ∧ .removed key ∉ back ∧
        back.count (.written key) = version := by
  constructor
  · intro same
    by_cases removed : .removed key ∈ changes
    · obtain ⟨front, back, rfl, kept⟩ := exists_last_removal removed
      rw [versionAfter_of_removed kept] at same
      exact .inr ⟨front, back, rfl, kept, same⟩
    · rw [versionAfter_of_not_removed removed] at same
      have unwritten : .written key ∉ changes := List.count_eq_zero.1 (by omega)
      refine .inl fun change hmem => ?_
      rintro rfl
      cases change with
      | written => exact unwritten hmem
      | removed => exact removed hmem
  · rintro (untouched | ⟨front, back, rfl, kept, same⟩)
    · have unwritten : .written key ∉ changes := fun hmem => untouched _ hmem rfl
      have kept : .removed key ∉ changes := fun hmem => untouched _ hmem rfl
      rw [versionAfter_of_not_removed kept, List.count_eq_zero.2 unwritten, Nat.add_zero]
    · rw [versionAfter_of_removed kept, same]

/-! ## Versions given out -/

theorem versionsGiven_of_not_written (h : .written key ∉ changes) :
    versionsGiven key version changes = [] := by
  induction changes generalizing version with
  | nil => rfl
  | cons change rest ih =>
    rw [List.mem_cons, not_or] at h
    rw [versionsGiven, if_neg (Ne.symm h.1), ih h.2]
    rfl

theorem versionsGiven_increasing (kept : .removed key ∉ changes) :
    (versionsGiven key version changes).Pairwise (· < ·) ∧
      ∀ n ∈ versionsGiven key version changes, version < n := by
  induction changes generalizing version with
  | nil => simp [versionsGiven]
  | cons change rest ih =>
    rw [List.mem_cons, not_or] at kept
    obtain ⟨increasing, above⟩ := @ih (change.next key version) kept.2
    by_cases here : change = .written key
    · subst here
      have next : Change.next key version (.written key) = version + 1 := if_pos rfl
      rw [next] at increasing above
      rw [versionsGiven, if_pos rfl, next, List.singleton_append]
      refine ⟨List.pairwise_cons.2 ⟨above, increasing⟩, fun n hn => ?_⟩
      rcases List.mem_cons.1 hn with rfl | hn
      · omega
      · have := above n hn
        omega
    · have next : change.next key version = version := by
        cases change with
        | written other =>
          refine if_neg ?_
          rintro rfl
          exact here rfl
        | removed other =>
          refine if_neg ?_
          rintro rfl
          exact kept.1 rfl
      rw [next] at increasing above
      rw [versionsGiven, if_neg here, next]
      exact ⟨increasing, above⟩

theorem one_mem_versionsGiven (h : .written key ∈ changes) : 1 ∈ versionsGiven key 0 changes := by
  induction changes with
  | nil => cases h
  | cons change rest ih =>
    rw [versionsGiven, List.mem_append]
    by_cases here : change = .written key
    · subst here
      rw [if_pos rfl, Change.next, if_pos rfl]
      exact .inl (List.mem_singleton.2 rfl)
    · have next : change.next key 0 = 0 := by
        cases change with
        | written other =>
          refine if_neg ?_
          rintro rfl
          exact here rfl
        | removed other => exact ite_self 0
      rw [next]
      exact .inr (ih (List.mem_of_ne_of_mem (Ne.symm here) h))

/-- **Versions are given out again exactly when a removed record is written again.** -/
theorem versionsGiven_nodup_iff
    (effective : ∀ front back, changes = front ++ .removed key :: back →
      0 < versionAfter key 0 front) :
    (versionsGiven key 0 changes).Nodup ↔
      ∀ front back, changes = front ++ .removed key :: back → .written key ∉ back := by
  constructor
  · rintro nodup front back rfl hwritten
    have first : 1 ∈ versionsGiven key 0 front := by
      by_contra none'
      have unwritten : .written key ∉ front := fun hmem => none' (one_mem_versionsGiven hmem)
      have := effective front back rfl
      rw [versionAfter_zero_of_not_written unwritten] at this
      omega
    have again : 1 ∈ versionsGiven key (versionAfter key 0 front) (.removed key :: back) := by
      have reset : Change.next key (versionAfter key 0 front) (.removed key) = 0 := if_pos rfl
      rw [versionsGiven, reset, if_neg (by simp)]
      exact one_mem_versionsGiven hwritten
    rw [versionsGiven_append] at nodup
    exact List.disjoint_of_nodup_append nodup first again
  · intro unwritten
    have increasing (rest : List Change) (kept : .removed key ∉ rest) :
        (versionsGiven key 0 rest).Nodup :=
      (versionsGiven_increasing kept).1.imp fun h => Nat.ne_of_lt h
    by_cases removed : .removed key ∈ changes
    · obtain ⟨front, back, rfl, kept⟩ := List.eq_append_cons_of_mem removed
      rw [versionsGiven_append, @versionsGiven_of_not_written key (.removed key :: back),
        List.append_nil]
      · exact increasing front kept
      · rw [List.mem_cons, not_or]
        exact ⟨by simp, unwritten front back rfl⟩
    · exact increasing changes removed

end

/-! ## Runs of a store -/

namespace InMemory

variable {memory : InMemory} {key : String × String}

/-- A step of the store. -/
def serve (memory : InMemory) : MemoryStep → StoreAnswer × InMemory
  | .ask step => memory.take step
  | .delete name namespaceName => (.done, memory.delete name namespaceName)

/-- What a step has changed. -/
def change? (memory : InMemory) : MemoryStep → Option Change
  | .ask step => if (memory.take step).1.succeeded then step.target?.map .written else none
  | .delete name namespaceName =>
    if memory.records.get? (namespaceName, name) = none then none
    else some (.removed (namespaceName, name))

/-- The store after steps. -/
def served (memory : InMemory) : List MemoryStep → InMemory
  | [] => memory
  | step :: rest => (memory.serve step).2.served rest

/-- What steps have changed. -/
def changes (memory : InMemory) : List MemoryStep → List Change
  | [] => []
  | step :: rest => (memory.change? step).toList ++ (memory.serve step).2.changes rest

/-- The versions with which steps have written the record of a key. -/
def given (memory : InMemory) (key : String × String) : List MemoryStep → List Nat
  | [] => []
  | step :: rest =>
    (if memory.change? step = some (.written key) then
      [((memory.serve step).2.versionOf key).toNat] else []) ++ (memory.serve step).2.given key rest

theorem versionOf_serve (memory : InMemory) (step : MemoryStep) (key : String × String) :
    ((memory.serve step).2.versionOf key).toNat =
      versionAfter key (memory.versionOf key).toNat (memory.change? step).toList := by
  cases step with
  | ask step =>
    have counted := memory.versionOf_take step key
    rw [wrote] at counted
    rw [serve, change?, counted]
    cases (memory.take step).1.succeeded with
    | false => simp [versionAfter]
    | true =>
      cases step.target? with
      | none => simp [versionAfter]
      | some other =>
        by_cases same : other = key <;> simp [versionAfter, Change.next, same]
  | delete name namespaceName =>
    rw [serve, change?]
    by_cases same : (namespaceName, name) = key
    · subst same
      have gone : ((memory.delete name namespaceName).versionOf (namespaceName, name)).toNat = 0 :=
        versionOf_of_none (Table.get?_erase_self _ _)
      dsimp only
      rw [gone]
      split
      · rename_i missing
        simp [versionAfter, versionOf_of_none missing]
      · simp [versionAfter, Change.next]
    · have kept : (memory.delete name namespaceName).versionOf key = memory.versionOf key := by
        rw [versionOf, delete, Table.get?_erase_of_ne (Ne.symm same), ← versionOf]
      dsimp only
      rw [kept]
      split <;> simp [versionAfter, Change.next, same]

theorem versionOf_served (memory : InMemory) (steps : List MemoryStep) (key : String × String) :
    ((memory.served steps).versionOf key).toNat =
      versionAfter key (memory.versionOf key).toNat (memory.changes steps) := by
  induction steps generalizing memory with
  | nil => rfl
  | cons step rest ih => rw [served, changes, ih, versionOf_serve, versionAfter_append]

theorem given_eq (memory : InMemory) (steps : List MemoryStep) (key : String × String) :
    memory.given key steps =
      versionsGiven key (memory.versionOf key).toNat (memory.changes steps) := by
  induction steps generalizing memory with
  | nil => rfl
  | cons step rest ih =>
    have next := memory.versionOf_serve step key
    rw [given, changes, ih, versionsGiven_append, next]
    congr 1
    cases memory.change? step with
    | none => simp [versionsGiven]
    | some change => simp [versionsGiven, versionAfter]

theorem Keyed.serve (h : memory.Keyed) (step : MemoryStep) : (memory.serve step).2.Keyed := by
  cases step with
  | ask step => exact h.take step
  | delete name namespaceName =>
    intro key r found
    by_cases same : key = (namespaceName, name)
    · rw [same, InMemory.serve, delete, Table.get?_erase_self] at found
      cases found
    · rw [InMemory.serve, delete, Table.get?_erase_of_ne same] at found
      exact h key r found

theorem Keyed.served (h : memory.Keyed) (steps : List MemoryStep) : (memory.served steps).Keyed := by
  induction steps generalizing memory with
  | nil => exact h
  | cons step rest ih => exact ih (h.serve step)

theorem Keyed.effective (h : memory.Keyed) {steps : List MemoryStep} {front back : List Change}
    (hsplit : memory.changes steps = front ++ .removed key :: back) :
    0 < versionAfter key (memory.versionOf key).toNat front := by
  induction steps generalizing memory front with
  | nil => simp [changes] at hsplit
  | cons step rest ih =>
    rw [changes] at hsplit
    have further (more : List Change)
        (hmore : (memory.serve step).2.changes rest = more ++ .removed key :: back)
        (hfront : front = (memory.change? step).toList ++ more) :
        0 < versionAfter key (memory.versionOf key).toNat front := by
      have := ih (h.serve step) hmore
      rwa [versionOf_serve, ← versionAfter_append, ← hfront] at this
    cases hchange : memory.change? step with
    | none =>
      rw [hchange] at hsplit further
      exact further front hsplit rfl
    | some change =>
      rw [hchange, Option.toList_some, List.singleton_append] at hsplit
      rw [hchange] at further
      cases front with
      | cons first more =>
        obtain ⟨rfl, hmore⟩ := List.cons.inj hsplit
        exact further more hmore rfl
      | nil =>
        obtain ⟨rfl, -⟩ := List.cons.inj hsplit
        -- the record that is removed has been written
        cases step with
        | ask step =>
          rw [change?] at hchange
          split at hchange
          · simp at hchange
          · cases hchange
        | delete name namespaceName =>
          rw [change?] at hchange
          split at hchange
          · cases hchange
          · rename_i there
            cases hchange
            obtain ⟨r, found⟩ := Option.ne_none_iff_exists'.1 there
            rw [versionAfter, List.foldl_nil, versionOf_of_get? found]
            exact (h _ _ found).2

/-! ## Old copies -/

theorem updateStatus_iff {record : MemoryRecord}
    (positive : 0 < record.metadata.resourceVersion.toNat) :
    (memory.take (.updateStatus record)).1 = .done ↔
      record.metadata.resourceVersion.toNat + 1 < UInt64.size ∧
        (memory.versionOf (keyOf record)).toNat = record.metadata.resourceVersion.toNat := by
  have updates := memory.updates record
  rw [InMemory.take]
  generalize memory.updateStatus record = after at updates
  cases updates with
  | missing none' =>
    rw [versionOf_of_none none']
    exact iff_of_false (by rintro ⟨⟩) (by omega)
  | stale found differs =>
    rw [versionOf_of_get? found]
    exact iff_of_false (by rintro ⟨⟩) fun same => differs (UInt64.toNat_inj.1 same.2)
  | last found same full =>
    rw [same] at full
    exact iff_of_false (by rintro ⟨⟩) (by omega)
  | @written stored version found same next =>
    have low := version.toNat_lt_size
    rw [versionOf_of_get? found, same]
    rw [same] at next
    exact iff_of_true rfl ⟨by omega, rfl⟩

/-- **A copy is as good as new after a removal followed by as many writes as its version says.**
Versions are given out again exactly when a removed record is written again. -/
theorem updateStatus_of_old_copy {before between : List MemoryStep} {obtain' : StoreStep}
    {copy record : MemoryRecord}
    (answer : ((({} : InMemory).served before).serve (.ask obtain')).1 = .record copy)
    (read : record.metadata = copy.metadata) :
    (let then' := ((({} : InMemory).served before).serve (.ask obtain')).2
    ((then'.served between).take (.updateStatus record)).1 = .done ↔
      copy.metadata.resourceVersion.toNat + 1 < UInt64.size ∧
        ((∀ change ∈ then'.changes between, change.key ≠ keyOf copy) ∨
          ∃ front back, then'.changes between = front ++ .removed (keyOf copy) :: back ∧
            .removed (keyOf copy) ∉ back ∧
            back.count (.written (keyOf copy)) = copy.metadata.resourceVersion.toNat)) ∧
    ∀ steps key, (({} : InMemory).given key steps).Nodup ↔ ∀ front back,
      ({} : InMemory).changes steps = front ++ .removed key :: back → .written key ∉ back := by
  constructor
  · intro then'
    have keyed := (keyed_empty.served before).serve (.ask obtain')
    have held : then'.records.get? (keyOf copy) = some copy :=
      obtains (keyed_empty.served before) answer
    have positive := (keyed _ _ held).2
    have key : keyOf record = keyOf copy := by
      rw [keyOf, read, keyOf]
    rw [updateStatus_iff (by rwa [read]), read, key, versionOf_served,
      versionOf_of_get? held, versionAfter_eq_iff]
  · intro steps key
    rw [given_eq]
    exact versionsGiven_nodup_iff fun front back hsplit => keyed_empty.effective hsplit

/-- A record that is put, removed and put again, and a status by the first copy. -/
theorem updateStatus_of_old_copy_removed :
    let record : MemoryRecord := .create "notes" "team" (.literal "http://a")
    let between : List MemoryStep := [.delete "notes" "team", .ask (.put record)]
    (((({} : InMemory).take (.put record)).2.served between).take
        (.updateStatus (record.atVersion 1))).1 = .done ∧
      ¬ (({} : InMemory).given ("team", "notes") (.ask (.put record) :: between)).Nodup := by
  intro record between
  have old := @updateStatus_of_old_copy [] between (.put record) (record.atVersion 1)
    (record.atVersion 1) rfl rfl
  refine ⟨old.1.2 ⟨by decide, .inr ⟨[], [.written ("team", "notes")], rfl, by decide, rfl⟩⟩, ?_⟩
  rw [old.2]
  intro unwritten
  exact unwritten [.written ("team", "notes")] [.written ("team", "notes")] rfl (by simp)

end InMemory

end ConversationMemory
