import ConversationMemory.Handle.Build
import ConversationMemory.Handle.Messages
import ConversationMemory.Proofs.Execution.Built

/-!
# Operations are made of calls

Every part of a handle is a computation that is made of calls to the world, apart from
`Handle.track`, which gives an operation its scope and its events.
-/

namespace ConversationMemory

open Run

variable {σ : Type} {world : World σ} {emitter : Emitter}

namespace Handle

variable (handle : Handle)

theorem built_reconcile (operation : String) :
    Built world emitter (handle.reconcile (world.collaborators emitter) operation) := by
  have remembers (next : String) : Built world emitter (do
      modifyThe HandleState fun state => { state with baseUrl := next }
      return .ok next : Run σ (Except MemoryError String)) :=
    .bind (.modify _) fun _ => .pure _
  unfold reconcile
  refine .bind (.get _ _) fun read => ?_
  split
  · exact .pure _
  · refine .bind (.resolve _ _) fun found => ?_
    split
    · exact .pure _
    · refine .bind .look fun state => ?_
      dsimp only
      split
      · refine .bind (.log _) fun _ => .bind (.updateStatus _) fun answer => ?_
        split
        · exact remembers _
        · exact .bind (.log _) fun _ => remembers _
      · exact remembers _

theorem built_transport : Built world emitter (handle.transport : Run σ Transport) := by
  unfold Handle.transport
  refine .bind .look fun state => ?_
  split
  · exact .pure _
  · exact .bind (.modify _) fun _ => .pure _

theorem built_exchange (operation : String) (method : Method) (url : String)
    (header : String × String) (body : Option String) :
    Built world emitter
      (handle.exchange (world.collaborators emitter) operation method url header body) := by
  unfold exchange
  refine .bind handle.built_transport fun transport => ?_
  dsimp only
  split
  · exact .pure _
  · refine .bind (.send _) fun answer => ?_
    split
    · exact .pure _
    · split <;> exact .pure _

theorem built_putMessages (messages : List Message) :
    Built world emitter (handle.putMessages (world.collaborators emitter) messages) := by
  unfold putMessages
  refine .bind (handle.built_reconcile _) fun base => ?_
  split
  · exact .pure _
  · refine .bind (.log _) fun _ => .bind (handle.built_exchange _ _ _ _ _) fun answer => ?_
    split <;> exact .pure _

theorem built_fetchMessages :
    Built world emitter (handle.fetchMessages (world.collaborators emitter)) := by
  unfold fetchMessages
  refine .bind (handle.built_reconcile _) fun base => ?_
  split
  · exact .pure _
  · refine .bind (.log _) fun _ => .bind (handle.built_exchange _ _ _ _ _) fun answer => ?_
    split
    · exact .pure _
    · split <;> exact .pure _

theorem built_close : Built world emitter (handle.close (world.collaborators emitter)) := by
  unfold close
  refine .bind .look fun state => ?_
  split
  · exact .bind (.modify _) fun _ => .log _
  · exact .pure _

end Handle

theorem HandleSpec.built_build (spec : HandleSpec) (hasLocator : Bool) :
    Built world emitter (spec.build (world.collaborators emitter) hasLocator) := by
  unfold HandleSpec.build
  split
  · exact .pure _
  · refine .bind (.get _ _) fun read => ?_
    split
    · exact .pure _
    · split
      · exact .pure _
      · exact .bind (.log _) fun _ => .pure _

end ConversationMemory
