import ConversationMemory.Proofs.Execution.Pair
import ConversationMemory.Proofs.Handle.Operation
import ConversationMemory.Proofs.Store.Alike

/-!
# An operation in two worlds

* `World.SendsAlike`: two worlds that answer alike to requests. `World.Alike`: two worlds that answer
  alike to all calls, up to the statuses and versions of records, and up to what they answer to a status
  write.
* **`performs_unless`**: an operation goes alike in two worlds if its reconciliation does, or it breaks
  down in that. **`coupled_perform`**, `coupled_close`: operations and closing in worlds that answer
  alike.
-/

namespace ConversationMemory

/-- Two worlds answer alike to requests. They are `fresh` until a status is written, and `written`
after that. -/
structure World.SendsAlike {σ : Type} (timed : Prop) (fresh written : σ → σ → Prop)
    (world other : World σ) : Prop where
  weaken : ∀ x y, fresh x y → written x y
  send : ∀ request x y, written x y →
    (world.send request x).Alike timed Eq written written (other.send request y)
  /-- The log is no part of the worlds. -/
  log : ∀ entry x, world.log entry x = x ∧ other.log entry x = x

/-- Two worlds answer alike; the answers to the write of a status may differ. -/
structure World.Alike {σ : Type} (timed : Prop) (fresh written : σ → σ → Prop)
    (world other : World σ) : Prop extends World.SendsAlike timed fresh written world other where
  get : ∀ name namespaceName x y, fresh x y →
    (world.get name namespaceName x).Alike timed
      (fun a b => a.map MemoryRecord.lasting = b.map MemoryRecord.lasting) fresh written
      (other.get name namespaceName y)
  resolve : ∀ spec namespaceName x y, fresh x y →
    (world.resolve spec namespaceName x).Alike timed Eq fresh written
      (other.resolve spec namespaceName y)
  updateStatus : ∀ record record' x y, fresh x y →
    (world.updateStatus record x).Alike timed (fun _ _ => True) written written
      (other.updateStatus record' y)

namespace Handle

open Run

variable {σ : Type} {timed : Prop} {fresh written : σ → σ → Prop} {world other : World σ}
  {handle : Handle}

theorem log_bind {α : Type} {emitter : Emitter} (silent : ∀ entry x, world.log entry x = x)
    (entry : LogEntry) (next : Run σ α) :
    ((world.collaborators emitter).log entry >>= fun _ => next) = next := by
  funext scope s
  change next scope { s with world := world.log entry s.world } = next scope s
  rw [silent]

theorem coupled_remember {before : σ → σ → Prop} (next : String)
    (keep : ∀ x y, before x y → written x y) : Coupled timed written before
      (do
        modifyThe HandleState fun state => { state with baseUrl := next }
        return .ok next : Run σ (Except MemoryError String))
      (do
        modifyThe HandleState fun state => { state with baseUrl := next }
        return .ok next) Eq written :=
  coupled_bind (coupled_modify _) fun _ _ _ => coupled_pure rfl keep

/-- Two reconciliations come to the same, whatever is answered to their status writes, or the first one
breaks down in that. The records that they read are such as they are `seen`, and their addresses are
resolved to what is `found`. -/
theorem reconciles_unless {excused : HandleState → Prop} (seen : MemoryRecord → MemoryRecord → Prop)
    (found : MemoryRecord → Except ResolveError String → Prop)
    (weaken : ∀ x y, fresh x y → written x y)
    (silent : ∀ entry x, world.log entry x = x ∧ other.log entry x = x)
    (gets : ∀ x y, fresh x y → (world.get handle.name handle.namespaceName x).Alike timed
      (Outcomes seen) fresh written (other.get handle.name handle.namespaceName y))
    (resolves : ∀ record record', seen record record' → ∀ x y, fresh x y →
      (world.resolve record.spec.address handle.namespaceName x).Alike timed
        (fun a b => a = b ∧ found record a) fresh written
        (other.resolve record'.spec.address handle.namespaceName y))
    (writes : ∀ record record' resolved state, seen record record' → found record (.ok resolved) →
      normalize state.baseUrl ≠ normalize resolved → ∀ x y, fresh x y →
        (∃ z, world.updateStatus (drifted record resolved) x = .crash z) ∧ excused state ∨
          (world.updateStatus (drifted record resolved) x).Alike timed (fun _ _ => True) written written
            (other.updateStatus (drifted record' resolved) y))
    (operation : String) :
    CoupledUnless timed excused written fresh
      (handle.reconcile (world.collaborators .recording) operation)
      (handle.reconcile (other.collaborators .recording) operation) Eq written := by
  have left := fun entry x => (silent entry x).1
  have right := fun entry x => (silent entry x).2
  have waits {α : Type} {call : σ → Reply σ α} {scope : Scope} {s u : Running σ} {a : α}
      (h : (await call).Reaches scope s a u) : u.handle = s.handle := (reaches_await h).2.handle
  unfold reconcile
  refine coupledUnless_bind (coupled_await gets) waits fun read read' hread => ?_
  cases read with
  | error e =>
    cases read' with
    | ok record => exact hread.elim
    | error e' =>
      obtain rfl : e = e' := hread
      exact (coupled_pure rfl weaken).unless
  | ok record =>
    cases read' with
    | error e' => exact hread.elim
    | ok record' =>
      refine coupledUnless_bind (coupled_await (resolves record record' hread)) waits
        fun answer answer' hfound => ?_
      obtain ⟨rfl, known⟩ := hfound
      cases answer with
      | error e => exact (coupled_pure rfl weaken).unless
      | ok resolved =>
        refine coupledUnless_look fun state => ?_
        dsimp only
        split
        · rename_i differs
          rw [log_bind left, log_bind right]
          refine CoupledUnless.bind (coupledUnless_await
            (writes record record' resolved state hread known differs)) fun answer answer' _ => ?_
          -- whatever the answers are, the address is remembered
          have remembered : Coupled timed written written _ _ Eq written :=
            coupled_remember (normalize resolved) fun _ _ => id
          cases answer with
          | ok _ =>
            cases answer' with
            | ok _ => exact remembered
            | error e' => simpa only [log_bind right] using remembered
          | error e =>
            cases answer' with
            | ok _ => simpa only [log_bind left] using remembered
            | error e' => simpa only [log_bind left, log_bind right] using remembered
        · exact (coupled_remember _ weaken).unless

theorem coupled_reconcile (alike : world.Alike timed fresh written other) (operation : String) :
    Coupled timed written fresh (handle.reconcile (world.collaborators .recording) operation)
      (handle.reconcile (other.collaborators .recording) operation) Eq written := by
  refine CoupledUnless.coupled <| reconciles_unless (fun a b => a.lasting = b.lasting)
    (fun _ _ => True) alike.weaken alike.log (fun x y h => (alike.get _ _ x y h).imp fun a b same => ?_)
    (fun record record' same x y h => ?_)
    (fun _ _ _ _ _ _ _ x y h => .inr (alike.updateStatus _ _ x y h)) operation
  · cases a with
    | ok record =>
      cases b with
      | ok record' => exact Except.ok.inj same
      | error e' => cases same
    | error e =>
      cases b with
      | ok record' => cases same
      | error e' => exact Except.error.inj same
  · rw [show record.spec = record'.spec from congrArg (·.spec) same]
    exact (alike.resolve _ _ x y h).imp fun a b same => ⟨same, trivial⟩

section

variable {excused : HandleState → Prop} (sends : world.SendsAlike timed fresh written other)

include sends

theorem coupled_exchange {operation : String} {method : Method} {url : String}
    {header : String × String} {body : Option String} :
    Coupled timed written written
      (handle.exchange (world.collaborators .recording) operation method url header body)
      (handle.exchange (other.collaborators .recording) operation method url header body)
      Eq written := by
  unfold exchange
  have transport : Coupled timed written written (handle.transport : Run σ Transport)
      (handle.transport : Run σ Transport) Eq written := by
    unfold Handle.transport
    refine coupled_bind coupled_get fun state state' hstate => ?_
    subst hstate
    split
    · exact coupled_pure rfl fun _ _ => id
    · exact coupled_bind (coupled_modify _) fun _ _ _ => coupled_pure rfl fun _ _ => id
  refine coupled_bind transport fun transport transport' htransport => ?_
  subst htransport
  dsimp only
  split
  · exact coupled_pure rfl fun _ _ => id
  · refine coupled_bind (coupled_await (sends.send _)) fun answer answer' hanswer => ?_
    subst hanswer
    split
    · exact coupled_pure rfl fun _ _ => id
    · split <;> exact coupled_pure rfl fun _ _ => id

theorem puts_unless {messages : List Message}
    (reconciles : CoupledUnless timed excused written fresh
      (handle.reconcile (world.collaborators .recording) addOperation)
      (handle.reconcile (other.collaborators .recording) addOperation) Eq written) :
    CoupledUnless timed excused written fresh
      (handle.putMessages (world.collaborators .recording) messages)
      (handle.putMessages (other.collaborators .recording) messages) Eq written := by
  unfold putMessages
  refine reconciles.bind fun base base' hbase => ?_
  subst hbase
  split
  · exact coupled_pure rfl fun _ _ => id
  · dsimp only
    rw [log_bind fun entry x => (sends.log entry x).1, log_bind fun entry x => (sends.log entry x).2]
    refine coupled_bind (coupled_exchange sends) fun answer answer' hanswer => ?_
    subst hanswer
    split <;> exact coupled_pure rfl fun _ _ => id

theorem fetches_unless
    (reconciles : CoupledUnless timed excused written fresh
      (handle.reconcile (world.collaborators .recording) getOperation)
      (handle.reconcile (other.collaborators .recording) getOperation) Eq written) :
    CoupledUnless timed excused written fresh
      (handle.fetchMessages (world.collaborators .recording))
      (handle.fetchMessages (other.collaborators .recording)) Eq written := by
  unfold fetchMessages
  refine reconciles.bind fun base base' hbase => ?_
  subst hbase
  split
  · exact coupled_pure rfl fun _ _ => id
  · dsimp only
    rw [log_bind fun entry x => (sends.log entry x).1, log_bind fun entry x => (sends.log entry x).2]
    refine coupled_bind (coupled_exchange sends) fun answer answer' hanswer => ?_
    subst hanswer
    split
    · exact coupled_pure rfl fun _ _ => id
    · split <;> exact coupled_pure rfl fun _ _ => id

end

/-! ## Between the events -/

theorem coupled_emit {before : σ → σ → Prop} {event event' : OperationEvent}
    (h : event.undated = event'.undated) :
    Coupled timed written before ((world.collaborators .recording).emit event)
      ((other.collaborators .recording).emit event') Eq before :=
  coupled_update fun _ _ hst => { hst with events := by simp [hst.events, h] }

section

variable {excused : HandleState → Prop} (weaken : ∀ x y, fresh x y → written x y)

include weaken

/-- **What an operation tells and answers is the same if its body comes to the same**, unless the body
breaks down. -/
theorem tracks_unless {α : Type} {context : OperationContext} {operation : String}
    {metadata : Entries String} {finish : α → Entries String × String}
    {body body' : Run σ (Except MemoryError α)}
    (quiet : timed ∨ context.stopsAt = none ∧ handle.settings.operationTimeout = none)
    (hbody : CoupledUnless timed excused written fresh body body' Eq written) :
    CoupledUnless timed excused written fresh
      (handle.track (world.collaborators .recording) context operation metadata finish body)
      (handle.track (other.collaborators .recording) context operation metadata finish body')
      Eq written := by
  intro scope s t timely hst
  let started : OperationEvent := Tracker.started ⟨operation, handle.name, metadata⟩
  let u : Running σ := { s with events := s.events ++ [started] }
  let v : Running σ := { t with events := t.events ++ [started] }
  have huv : u.Alike timed fresh v := { hst with events := by simp [u, v, hst.events] }
  unfold track
  dsimp only
  rw [bind_ok (show (world.collaborators .recording).emit started scope s = (.ok (), u) from rfl),
    bind_ok (show (other.collaborators .recording).emit started scope t = (.ok (), v) from rfl)]
  rcases within_unless quiet weaken hbody scope huv with ⟨⟨w, crashed⟩, excuse⟩ | ended
  · refine .inl ⟨?_, excuse⟩
    rw [bind_ok (show (world.collaborators .recording).within context handle.settings.operationTimeout
      body scope u = (.ok (.error .crashed), w) from crashed)]
    rfl
  refine .inr (EndsAlike.bind ended timely fun outcome outcome' h => ?_)
  have elapses : Coupled timed written written ((world.collaborators .recording).elapsed)
      ((other.collaborators .recording).elapsed) (fun _ _ => True) written :=
    fun _ _ _ _ hst => ⟨trivial, hst⟩
  refine coupled_bind elapses fun elapsed elapsed' _ => ?_
  have ends {α : Type} {event event' : OperationEvent} (result : α)
      (same : event.undated = event'.undated) : Coupled timed written written
        (do (world.collaborators .recording).emit event; return result : Run σ α)
        (do (other.collaborators .recording).emit event'; return result) Eq written :=
    coupled_bind (coupled_emit same) fun _ _ _ => coupled_pure rfl fun _ _ => id
  have leaves {α : Type} {event event' : OperationEvent} (reason : Abort)
      (same : event.undated = event'.undated) : Coupled timed written written
        (do
          (world.collaborators .recording).emit event
          (world.collaborators .recording).leave reason : Run σ α)
        (do
          (other.collaborators .recording).emit event'
          (other.collaborators .recording).leave reason) Eq written :=
    coupled_bind (coupled_emit same) fun _ _ _ => coupled_abort reason fun _ _ => id
  cases outcome with
  | ok result =>
    cases outcome' with
    | error abort => exact h.elim
    | ok result' =>
      obtain rfl : result = result' := h
      cases result with
      | ok a => exact ends _ rfl
      | error e => exact ends _ rfl
  | error abort =>
    cases outcome' with
    | ok result => exact h.elim
    | error abort' =>
      obtain rfl : abort = abort' := h
      cases abort with
      | interrupted interrupt => exact ends _ rfl
      | dropped => exact leaves _ rfl
      | crashed => exact leaves _ rfl
      | stuck => exact leaves _ rfl

end

/-! ## Operations -/

/-- **An operation comes to the same if its reconciliation does**, or it breaks down in that. -/
theorem performs_unless {excused : HandleState → Prop}
    (sends : world.SendsAlike timed fresh written other)
    (reconciles : ∀ operation, CoupledUnless timed excused written fresh
      (handle.reconcile (world.collaborators .recording) operation)
      (handle.reconcile (other.collaborators .recording) operation) Eq written)
    {context : OperationContext} (operation : Operation)
    (quiet : timed ∨ context.stopsAt = none ∧ handle.settings.operationTimeout = none) :
    CoupledUnless timed excused written fresh
      (handle.perform (world.collaborators .recording) context operation)
      (handle.perform (other.collaborators .recording) context operation) Eq written := by
  cases operation with
  | add messages =>
    refine CoupledUnless.map ?_ fun a b h => congrArg _ h
    unfold addMessages
    split
    · exact (coupled_pure rfl sends.weaken).unless
    · exact tracks_unless sends.weaken quiet (puts_unless sends (reconciles _))
  | get =>
    exact (tracks_unless sends.weaken quiet (fetches_unless sends (reconciles _))).map fun a b h =>
      congrArg _ h

/-- **An operation comes to the same in two worlds that answer alike.** -/
theorem coupled_perform (alike : world.Alike timed fresh written other)
    {context : OperationContext} (operation : Operation)
    (quiet : timed ∨ context.stopsAt = none ∧ handle.settings.operationTimeout = none) :
    Coupled timed written fresh
      (handle.perform (world.collaborators .recording) context operation)
      (handle.perform (other.collaborators .recording) context operation) Eq written :=
  (performs_unless alike.toSendsAlike (fun _ => (coupled_reconcile alike _).unless) operation
    quiet).coupled

theorem coupled_close (alike : world.Alike timed fresh written other) :
    Coupled timed written written (handle.close (world.collaborators .recording))
      (handle.close (other.collaborators .recording)) Eq written := by
  unfold close
  refine coupled_bind coupled_get fun state state' hstate => ?_
  subst hstate
  split
  · refine coupled_bind (coupled_modify _) fun _ _ _ => ?_
    refine coupled_update fun s t hst => ?_
    rw [(alike.log _ _).1, (alike.log _ _).2]
    exact hst
  · exact coupled_pure rfl fun _ _ => id

end Handle

end ConversationMemory
