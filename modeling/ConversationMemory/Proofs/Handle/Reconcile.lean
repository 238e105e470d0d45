import ConversationMemory.Handle.Messages
import ConversationMemory.Proofs.Execution.Watch

/-!
# What a reconciliation does

* `Handle.Reconciled`: the four ways in which a reconciliation can go, with the calls that it makes.
* **`reconcile_reaches`**: there is no fifth way; the base address is remembered exactly when there
  is one.
* `settles_reconcile`: in a world that always answers, a reconciliation comes to its end.
-/

namespace ConversationMemory.Handle

variable {σ : Type} {world : World σ} {emitter : Emitter} {handle : Handle} {operation : String}
  {scope : Scope} {s t : Running σ}

/-- The base address that is remembered after a reconciliation. -/
def rememberedAfter (cached : String) : Except MemoryError String → String
  | .ok next => next
  | .error _ => cached

/-- The world after the answer to a status write; a refusal is logged. -/
def afterWrite (world : World σ) (handle : Handle) (resolved : String) (x : σ) :
    Except StoreError Unit → σ
  | .ok () => x
  | .error e => world.log (handle.driftLostEntry resolved e) x

/-- A reconciliation goes from one world to another. The status is written back only when the
address differs from the cached one, and its answer does not count. -/
inductive Reconciled (world : World σ) (handle : Handle) (operation cached : String) (x : σ) :
    Except MemoryError String → σ → Prop
  | unread {e y} (read : (world.get handle.name handle.namespaceName x).Answers (.error e) y) :
    Reconciled world handle operation cached x (.error (.configuration operation handle.target e)) y
  | unresolved {record e y z}
    (read : (world.get handle.name handle.namespaceName x).Answers (.ok record) y)
    (found : (world.resolve record.spec.address handle.namespaceName y).Answers (.error e) z) :
    Reconciled world handle operation cached x (.error (.resolution operation handle.target e)) z
  | kept {record resolved y z}
    (read : (world.get handle.name handle.namespaceName x).Answers (.ok record) y)
    (found : (world.resolve record.spec.address handle.namespaceName y).Answers (.ok resolved) z)
    (same : normalize cached = normalize resolved) :
    Reconciled world handle operation cached x (.ok (normalize resolved)) z
  | drifted {record resolved answer y z u}
    (read : (world.get handle.name handle.namespaceName x).Answers (.ok record) y)
    (found : (world.resolve record.spec.address handle.namespaceName y).Answers (.ok resolved) z)
    (differs : normalize cached ≠ normalize resolved)
    (written : (world.updateStatus (drifted record resolved)
      (world.log (handle.driftEntry (normalize cached) (normalize resolved)) z)).Answers answer u) :
    Reconciled world handle operation cached x (.ok (normalize resolved))
      (afterWrite world handle resolved u answer)

open Run in
theorem reaches_remember {next : String} {r : Except MemoryError String}
    (h : (do
      modifyThe HandleState fun state => { state with baseUrl := next }
      return .ok next : Run σ (Except MemoryError String)).Reaches scope s r t) :
    r = .ok next ∧ t = { s with handle := { s.handle with baseUrl := next } } := by
  obtain ⟨_, u, hset, h⟩ := reaches_bind.1 h
  obtain rfl := reaches_modify.1 hset
  exact reaches_pure.1 h

open Run in
/-- **A reconciliation goes in one of four ways, and remembers the address that it has found.** -/
theorem reconcile_reaches {r : Except MemoryError String}
    (h : (handle.reconcile (world.collaborators emitter) operation).Reaches scope s r t) :
    Reconciled world handle operation s.handle.baseUrl s.world r t.world ∧
      t.handle = { s.handle with baseUrl := rememberedAfter s.handle.baseUrl r } ∧
      t.events = s.events := by
  unfold reconcile at h
  obtain ⟨read, s₁, hget, h⟩ := reaches_bind.1 h
  obtain ⟨hread, waited₁⟩ := reaches_await hget
  cases read with
  | error e =>
    obtain ⟨rfl, rfl⟩ := reaches_pure.1 h
    exact ⟨.unread hread, waited₁.handle, waited₁.events⟩
  | ok record =>
    obtain ⟨found, s₂, hresolve, h⟩ := reaches_bind.1 h
    obtain ⟨hfound, waited₂⟩ := reaches_await hresolve
    have handle₂ : s₂.handle = s.handle := waited₂.handle.trans waited₁.handle
    have events₂ : s₂.events = s.events := waited₂.events.trans waited₁.events
    cases found with
    | error e =>
      obtain ⟨rfl, rfl⟩ := reaches_pure.1 h
      exact ⟨.unresolved hread hfound, handle₂, events₂⟩
    | ok resolved =>
      obtain ⟨state, s₃, hstate, h⟩ := reaches_bind.1 h
      obtain ⟨rfl, rfl⟩ := reaches_get.1 hstate
      rw [handle₂] at h
      by_cases hdrift : normalize s.handle.baseUrl = normalize resolved
      · simp only [hdrift, ne_eq, not_true_eq_false, if_false] at h
        obtain ⟨_, s₄, hset, h⟩ := reaches_bind.1 h
        obtain rfl := reaches_modify.1 hset
        obtain ⟨rfl, rfl⟩ := reaches_pure.1 h
        refine ⟨.kept hread hfound hdrift, ?_, events₂⟩
        simp only [rememberedAfter, handle₂]
      · simp only [ne_eq, hdrift, not_false_eq_true, if_true] at h
        obtain ⟨_, s₄, hlog, h⟩ := reaches_bind.1 h
        obtain rfl := reaches_update.1 hlog
        obtain ⟨answer, s₅, hwrite, h⟩ := reaches_bind.1 h
        obtain ⟨hwritten, waited₅⟩ := reaches_await hwrite
        have handle₅ : s₅.handle = s.handle := waited₅.handle.trans handle₂
        have events₅ : s₅.events = s.events := waited₅.events.trans events₂
        -- whatever the answer is, the address is remembered; a refusal is logged before that
        have remembered : r = .ok (normalize resolved) ∧
            t = { s₅ with
              world := afterWrite world handle resolved s₅.world answer
              handle := { s₅.handle with baseUrl := normalize resolved } } := by
          cases answer with
          | ok _ => exact reaches_remember h
          | error e =>
            obtain ⟨_, s₆, hlost, h⟩ := reaches_bind.1 h
            obtain rfl := reaches_update.1 hlost
            exact reaches_remember h
        obtain ⟨rfl, rfl⟩ := remembered
        refine ⟨.drifted hread hfound hdrift hwritten, ?_, events₅⟩
        simp only [rememberedAfter, handle₅]

open Run in
theorem settles_reconcile {fresh written : σ → Prop} (serves : world.Serves fresh written) :
    Settles fresh (handle.reconcile (world.collaborators emitter) operation)
      (fun x => fresh x ∨ written x) := by
  unfold reconcile
  have remembers {before : σ → Prop} (next : String) (h : ∀ x, before x → fresh x ∨ written x) :
      Settles before (do
        modifyThe HandleState fun state => { state with baseUrl := next }
        return .ok next : Run σ (Except MemoryError String)) (fun x => fresh x ∨ written x) :=
    settles_bind (settles_modify _) fun _ => settles_pure _ h
  refine settles_bind (settles_await (serves.get _ _)) fun read => ?_
  cases read with
  | error e => exact settles_pure _ fun _ => .inl
  | ok record =>
    refine settles_bind (settles_await (serves.resolve _ _)) fun found => ?_
    cases found with
    | error e => exact settles_pure _ fun _ => .inl
    | ok resolved =>
      refine settles_bind settles_get fun state => ?_
      dsimp only
      split
      · refine settles_bind (settles_update _ fun s => serves.log_fresh _ s.world) fun _ => ?_
        refine settles_bind (settles_await (serves.updateStatus _)) fun answer => ?_
        cases answer with
        | ok _ => exact remembers _ fun _ => .inr
        | error e =>
          exact settles_bind (settles_update _ fun s => serves.log_written _ s.world) fun _ =>
            remembers _ fun _ => .inr
      · exact remembers _ fun _ => .inl

/-! ## What a reconciliation depends on -/

variable {cached : String} {x y : σ} {r : Except MemoryError String}

theorem Reconciled.result (h : Reconciled world handle operation cached x r y) :
    ∃ read y, (world.get handle.name handle.namespaceName x).Answers read y ∧
      match read with
      | .error e => r = .error (.configuration operation handle.target e)
      | .ok record =>
        ∃ found z, (world.resolve record.spec.address handle.namespaceName y).Answers found z ∧
          match found with
          | .error e => r = .error (.resolution operation handle.target e)
          | .ok resolved => r = .ok (normalize resolved) := by
  cases h with
  | unread read => exact ⟨_, _, read, rfl⟩
  | unresolved read found => exact ⟨_, _, read, _, _, found, rfl⟩
  | kept read found same => exact ⟨_, _, read, _, _, found, rfl⟩
  | drifted read found differs written => exact ⟨_, _, read, _, _, found, rfl⟩

/-- **Two reconciliations in one world come to the same, whatever they have cached.** -/
theorem Reconciled.unique {other : String} {z : σ} {q : Except MemoryError String}
    (h : Reconciled world handle operation cached x r y)
    (k : Reconciled world handle operation other x q z) : r = q := by
  obtain ⟨read, y₁, hread, hr⟩ := h.result
  obtain ⟨read', y₂, kread, kr⟩ := k.result
  obtain ⟨rfl, rfl⟩ := hread.unique kread
  cases read with
  | error e => exact hr.trans kr.symm
  | ok record =>
    obtain ⟨found, z₁, hfound, hr⟩ := hr
    obtain ⟨found', z₂, kfound, kr⟩ := kr
    obtain ⟨rfl, rfl⟩ := hfound.unique kfound
    cases found with
    | error e => exact hr.trans kr.symm
    | ok resolved => exact hr.trans kr.symm

/-! ## The calls of a reconciliation -/

/-- The calls that a reconciliation makes, in order, and what comes of it. -/
inductive ReconcileCalls (handle : Handle) (operation cached : String) :
    List Call → Except MemoryError String → Prop
  | unread (e : StoreError) :
    ReconcileCalls handle operation cached [.get handle.name handle.namespaceName (some (.error e))]
      (.error (.configuration operation handle.target e))
  | unresolved (record : MemoryRecord) (e : ResolveError) :
    ReconcileCalls handle operation cached
      [.get handle.name handle.namespaceName (some (.ok record)),
        .resolve record.spec.address handle.namespaceName (some (.error e))]
      (.error (.resolution operation handle.target e))
  | kept (record : MemoryRecord) (resolved : String) (same : normalize cached = normalize resolved) :
    ReconcileCalls handle operation cached
      [.get handle.name handle.namespaceName (some (.ok record)),
        .resolve record.spec.address handle.namespaceName (some (.ok resolved))]
      (.ok (normalize resolved))
  | drifted (record : MemoryRecord) (resolved : String) (answer : Except StoreError Unit)
    (differs : normalize cached ≠ normalize resolved) :
    ReconcileCalls handle operation cached
      [.get handle.name handle.namespaceName (some (.ok record)),
        .resolve record.spec.address handle.namespaceName (some (.ok resolved)),
        .updateStatus (drifted record resolved) (some answer)]
      (.ok (normalize resolved))

theorem afterWrite_watched (resolved : String) (x : σ × List Call) (answer : Except StoreError Unit) :
    (afterWrite world.watched handle resolved x answer).2 = x.2 := by
  cases answer <;> rfl

/-- **A reconciliation makes these calls, and no others.** -/
theorem Reconciled.calls {x y : σ × List Call}
    (h : Reconciled world.watched handle operation cached x r y) :
    ∃ made, y.2 = x.2 ++ made ∧ handle.ReconcileCalls operation cached made r := by
  cases h with
  | unread read =>
    obtain ⟨-, hread⟩ := Reply.answers_noted.1 read
    exact ⟨_, hread, .unread _⟩
  | @unresolved record e _ _ read found =>
    obtain ⟨-, hread⟩ := Reply.answers_noted.1 read
    obtain ⟨-, hfound⟩ := Reply.answers_noted.1 found
    refine ⟨_, ?_, .unresolved record e⟩
    rw [hfound, hread, List.append_assoc]
    rfl
  | @kept record resolved _ _ read found same =>
    obtain ⟨-, hread⟩ := Reply.answers_noted.1 read
    obtain ⟨-, hfound⟩ := Reply.answers_noted.1 found
    refine ⟨_, ?_, .kept record resolved same⟩
    rw [hfound, hread, List.append_assoc]
    rfl
  | @drifted record resolved answer _ _ _ read found differs written =>
    obtain ⟨-, hread⟩ := Reply.answers_noted.1 read
    obtain ⟨-, hfound⟩ := Reply.answers_noted.1 found
    obtain ⟨-, hwritten⟩ := Reply.answers_noted.1 written
    refine ⟨_, ?_, .drifted record resolved answer differs⟩
    rw [afterWrite_watched, hwritten]
    simp only [World.watched, hfound, hread, List.append_assoc, List.cons_append, List.nil_append]

/-! ## The network during a reconciliation -/

theorem Reconciled.network {ν : Type} {network : Network ν} {x y : (σ × ν) × List Call}
    (h : Reconciled (world.beside network).watched handle operation cached x r y) :
    y.1.2 = x.1.2 := by
  cases h with
  | unread read => exact Reply.network_of_answers read
  | unresolved read found =>
    exact (Reply.network_of_answers found).trans (Reply.network_of_answers read)
  | kept read found same =>
    exact (Reply.network_of_answers found).trans (Reply.network_of_answers read)
  | @drifted record resolved answer _ _ _ read found differs written =>
    have kept := (Reply.network_of_answers written).trans <|
      (Reply.network_of_answers found).trans (Reply.network_of_answers read)
    cases answer with
    | ok _ => exact kept
    | error e => exact kept

end ConversationMemory.Handle
