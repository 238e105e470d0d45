import ConversationMemory.Proofs.Execution.Prompt
import ConversationMemory.Proofs.Handle.Built

/-!
# What an operation keeps

* `World.sending`: the world in which requests are sent, at most one record is written, and nothing is
  read. **`Handle.reconcile_parts`**: what comes after the address is made of calls to such a world.
* `Handle.Begins`: a body that reconciles first, and sends after that. `begins_putMessages`,
  `begins_fetchMessages`: both operations do.
* `World.KeepsResolved`: every call keeps something, and a status is written only with an address that
  was resolved. **`Begins.preserves`**: so an operation keeps it.
-/

namespace ConversationMemory

open Run

variable {σ α β : Type} {world : World σ} {emitter : Emitter} {kept : σ → Prop}

theorem World.preserves_emit (logs : ∀ entry x, kept x → kept (world.log entry x))
    (event : OperationEvent) : Preserves kept ((world.collaborators emitter).emit event) := by
  refine ensures_update _ fun s hs => ?_
  cases emitter with
  | recording => exact hs
  | logging => exact logs event.toLog s.world hs

namespace Handle

variable {handle : Handle} {operation : String}

/-- After its body, an operation makes no call, apart from what it tells; the result of the body is
its result. -/
theorem track_parts (world : World σ) (emitter : Emitter) (handle : Handle)
    (context : OperationContext) (operation : String) (metadata : Entries String)
    (finish : α → Entries String × String) (body : Run σ (Except MemoryError α)) :
    ∃ rest : Except Abort (Except MemoryError α) → Run σ (Except MemoryError α),
      (∀ kept : σ → Prop, (∀ entry x, kept x → kept (world.log entry x)) →
        ∀ outcome, Preserves kept (rest outcome)) ∧
      (∀ kept : σ → Prop, (∀ entry x, kept x → kept (world.log entry x)) →
        ∀ r, Prompt kept (rest (.ok r)) fun q w => q = r ∧ kept w) ∧
      handle.track (world.collaborators emitter) context operation metadata finish body = (do
        (world.collaborators emitter).emit (Tracker.started ⟨operation, handle.name, metadata⟩)
        rest (← within context handle.settings.operationTimeout body)) := by
  refine ⟨?_, ?_, ?_, ?_⟩
  rotate_left 3
  · unfold track
    rfl
  · intro kept logs outcome
    have emits (event : OperationEvent) : Preserves kept ((world.collaborators emitter).emit event) :=
      World.preserves_emit logs event
    have looks : Preserves kept (world.collaborators emitter).elapsed := fun _ _ hs => hs
    refine ensures_bind looks fun elapsed => ?_
    cases outcome with
    | ok r =>
      cases r with
      | ok a => exact ensures_bind (emits _) fun _ => ensures_pure _ fun _ _ _ => id
      | error e => exact ensures_bind (emits _) fun _ => ensures_pure _ fun _ _ _ => id
    | error reason =>
      cases reason with
      | interrupted interrupt => exact ensures_bind (emits _) fun _ => ensures_pure _ fun _ _ _ => id
      | dropped | crashed | stuck =>
        exact ensures_bind (emits _) fun _ => ensures_abort _ fun _ _ _ => id
  · intro kept logs r
    have looks : Prompt kept (world.collaborators emitter).elapsed fun _ => kept :=
      fun _ s _ hs => ⟨_, s, rfl, rfl, hs⟩
    refine prompt_bind looks fun elapsed => ?_
    cases r with
    | ok a => exact prompt_bind (prompt_emit logs _) fun _ => prompt_pure _ fun _ h => ⟨rfl, h⟩
    | error e => exact prompt_bind (prompt_emit logs _) fun _ => prompt_pure _ fun _ h => ⟨rfl, h⟩

theorem preserves_track (logs : ∀ entry x, kept x → kept (world.log entry x))
    {context : OperationContext} {metadata : Entries String} {finish : α → Entries String × String}
    {body : Run σ (Except MemoryError α)} (preserves : Preserves kept body) :
    Preserves kept
      (handle.track (world.collaborators emitter) context operation metadata finish body) := by
  obtain ⟨rest, tells, -, parts⟩ :=
    handle.track_parts world emitter context operation metadata finish body
  rw [parts]
  refine ensures_bind (World.preserves_emit logs _) fun _ => ensures_bind
    ((ensures_within preserves fun _ _ _ _ => id).imp (fun _ _ _ => id)
      (fun outcome w _ _ h => ?_) fun _ _ _ _ => id) fun outcome => tells kept logs outcome
  cases outcome <;> exact h

section

variable {before left : σ → Prop} {context : OperationContext} {metadata : Entries String}
  {finish : α → Entries String × String} {body : Run σ (Except MemoryError α)}
  (opens : ∀ now, (context.orTimeout now handle.settings.operationTimeout).interruptAt now = none)
  (logs : ∀ entry x, before x → before (world.log entry x))
  (logs_left : ∀ entry x, left x → left (world.log entry x))

include opens logs logs_left

theorem prompt_track {r : Except MemoryError α}
    (h : Prompt before body fun q w => q = r ∧ left w) :
    Prompt before
      (handle.track (world.collaborators emitter) context operation metadata finish body)
      fun q w => q = r ∧ left w := by
  obtain ⟨rest, -, ends, parts⟩ :=
    handle.track_parts world emitter context operation metadata finish body
  rw [parts]
  refine prompt_bind (prompt_emit logs _) fun _ => prompt_bind (prompt_within opens h) fun outcome => ?_
  rintro scope s opened ⟨q, rfl, rfl, there⟩
  exact ends left logs_left q scope s opened there

theorem leaves_track (h : Leaves before body left) : Leaves before
    (handle.track (world.collaborators emitter) context operation metadata finish body) left := by
  obtain ⟨rest, tells, -, parts⟩ :=
    handle.track_parts world emitter context operation metadata finish body
  rw [parts]
  exact leaves_bind (prompt_emit logs _) fun _ =>
    leaves_then (leaves_within opens h) (tells left logs_left)

end

end Handle

/-! ## The parts of an operation -/

/-- The world in which nothing is read: requests are sent, and a status write writes this record, or
never ends. -/
def World.sending (world : World σ) (written : Option MemoryRecord) : World σ where
  get _ _ x := .never x
  resolve _ _ x := .never x
  updateStatus _ x :=
    match written with
    | some record => world.updateStatus record x
    | none => .never x
  send := world.send
  log := world.log

namespace Handle

variable {handle : Handle} {operation : String}

/-- **A reconciliation reads the record and resolves its address**; after that it writes this record
with the address, if anything. -/
theorem reconcile_parts (world : World σ) (emitter : Emitter) (handle : Handle) (operation : String) :
    ∃ rest : MemoryRecord → String → Run σ (Except MemoryError String),
      (∀ record resolved, Built (world.sending (some (drifted record resolved))) emitter
        (rest record resolved)) ∧
      handle.reconcile (world.collaborators emitter) operation = (do
        match ← (world.collaborators emitter).get handle.name handle.namespaceName with
        | .error e => return .error (.configuration operation handle.target e)
        | .ok record =>
          match ← (world.collaborators emitter).resolve record.spec.address handle.namespaceName with
          | .error e => return .error (.resolution operation handle.target e)
          | .ok resolved => rest record resolved) := by
  refine ⟨?_, ?_, ?_⟩
  rotate_left 2
  · unfold reconcile
    rfl
  · intro record resolved
    have remembers (next : String) :
        Built (world.sending (some (drifted record resolved))) emitter (do
          modifyThe HandleState fun state => { state with baseUrl := next }
          return .ok next : Run σ (Except MemoryError String)) :=
      .bind (.modify _) fun _ => .pure _
    refine .bind .look fun state => ?_
    dsimp only
    split
    · refine .bind (.log _) fun _ => .bind (.updateStatus (drifted record resolved)) fun answer => ?_
      split
      · exact remembers _
      · exact .bind (.log _) fun _ => remembers _
    · exact remembers _

/-- The body of an operation reconciles first. If this fails, it fails so; the rest is made of calls
that send. -/
def Begins (handle : Handle) (world : World σ) (emitter : Emitter) (operation : String)
    (body : Run σ (Except MemoryError α)) : Prop :=
  ∃ rest : Except MemoryError String → Run σ (Except MemoryError α),
    (∀ base, Built (world.sending none) emitter (rest base)) ∧
      (∀ e, rest (.error e) = pure (.error e)) ∧
      body = handle.reconcile (world.collaborators emitter) operation >>= rest

theorem begins_putMessages (handle : Handle) (messages : List Message) :
    handle.Begins world emitter addOperation
      (handle.putMessages (world.collaborators emitter) messages) := by
  refine ⟨_, fun base => ?_, fun e => ?_, rfl⟩
  · split
    · exact .pure _
    · refine .bind (.log _) fun _ => .bind (handle.built_exchange _ _ _ _ _) fun answer => ?_
      split <;> exact .pure _
  · rfl

theorem begins_fetchMessages (handle : Handle) :
    handle.Begins world emitter getOperation
      (handle.fetchMessages (world.collaborators emitter)) := by
  refine ⟨_, fun base => ?_, fun e => ?_, rfl⟩
  · split
    · exact .pure _
    · refine .bind (.log _) fun _ => .bind (handle.built_exchange _ _ _ _ _) fun answer => ?_
      split
      · exact .pure _
      · split <;> exact .pure _
  · rfl

end Handle

/-! ## What is kept -/

/-- Every call to the world keeps something, and a status write does when it is about an address that
was resolved before. -/
structure World.KeepsResolved (world : World σ) (found : String → Prop) (kept : σ → Prop) : Prop where
  get : ∀ name namespaceName x, kept x → (world.get name namespaceName x).Keeps kept fun _ => kept
  resolve : ∀ spec namespaceName x, kept x → (world.resolve spec namespaceName x).Ends
    (fun answer y => (∀ address, answer = .ok address → found address) ∧ kept y) fun _ => kept
  updateStatus : ∀ record address x, found address → kept x →
    (world.updateStatus (Handle.drifted record address) x).Keeps kept fun _ => kept
  send : ∀ request x, kept x → (world.send request x).Keeps kept fun _ => kept
  log : ∀ entry x, kept x → kept (world.log entry x)

namespace World.KeepsResolved

variable {found : String → Prop} (keeps : world.KeepsResolved found kept)

include keeps

theorem sending {written : Option MemoryRecord}
    (drifts : ∀ record, written = some record →
      ∃ read address, found address ∧ record = Handle.drifted read address) :
    (world.sending written).Keeps kept fun _ => kept where
  get _ _ _ h _ _ := h
  resolve _ _ _ h _ _ := h
  updateStatus _ x h := by
    cases written with
    | none => exact fun _ _ => h
    | some record =>
      obtain ⟨read, address, resolved, rfl⟩ := drifts record rfl
      exact keeps.updateStatus read address x resolved h
  send := keeps.send
  log := keeps.log

theorem sending_nothing : (world.sending none).Keeps kept fun _ => kept :=
  keeps.sending fun _ given => nomatch given

theorem preserves_reconcile (handle : Handle) (operation : String) :
    Preserves kept (handle.reconcile (world.collaborators emitter) operation) := by
  obtain ⟨rest, built, parts⟩ := handle.reconcile_parts world emitter operation
  rw [parts]
  refine ensures_bind (ensures_ends fun w _ _ => keeps.get _ _ w) fun read => ?_
  cases read with
  | error e => exact ensures_pure _ fun _ _ _ => id
  | ok record =>
    refine ensures_bind (ensures_ends fun w _ _ => keeps.resolve _ _ w) fun answer => ?_
    refine ensures_assume fun resolved => ?_
    cases answer with
    | error e => exact ensures_pure _ fun _ _ _ => id
    | ok address =>
      refine (built record address).keeps (keeps.sending ?_)
      rintro _ ⟨⟩
      exact ⟨record, address, resolved address rfl, rfl⟩

theorem preserves_build (spec : HandleSpec) (hasLocator : Bool) :
    Preserves kept (spec.build (world.collaborators emitter) hasLocator) := by
  unfold HandleSpec.build
  split
  · exact ensures_pure _ fun _ _ _ => id
  · refine ensures_bind (ensures_ends fun w _ _ => keeps.get _ _ w) fun read => ?_
    split
    · exact ensures_pure _ fun _ _ _ => id
    · split
      · exact ensures_pure _ fun _ _ _ => id
      · exact ensures_bind (ensures_update _ fun s => keeps.log _ s.world) fun _ =>
          ensures_pure _ fun _ _ _ => id

end World.KeepsResolved

/-- **What every call keeps, an operation keeps**, whoever takes in its events. -/
theorem Handle.Begins.preserves {handle : Handle} {operation : String} {found : String → Prop}
    {context : OperationContext} {metadata : Entries String} {finish : α → Entries String × String}
    {body : Run σ (Except MemoryError α)} (begins : handle.Begins world emitter operation body)
    (keeps : world.KeepsResolved found kept) :
    Preserves kept
      (handle.track (world.collaborators emitter) context operation metadata finish body) := by
  obtain ⟨rest, built, -, rfl⟩ := begins
  exact preserves_track keeps.log (ensures_bind (keeps.preserves_reconcile handle operation)
    fun base => (built base).keeps keeps.sending_nothing)

theorem Handle.preserves_close (sends : (world.sending none).Keeps kept fun _ => kept)
    (handle : Handle) : Preserves kept (handle.close (world.collaborators emitter)) :=
  (handle.built_close : Built (world.sending none) emitter _).keeps sends

end ConversationMemory
