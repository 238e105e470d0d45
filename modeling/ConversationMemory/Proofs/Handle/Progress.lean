import ConversationMemory.Proofs.Handle.Course
import ConversationMemory.Proofs.Handle.Telemetry

/-!
# How far an operation gets

An operation may end in the middle: it is interrupted, dropped, or left by a world that breaks down.

* `Handle.ReconcileLeft`: the calls of a reconciliation that has been left.
* `Handle.Progress`: the calls that an operation has made when it ends, and the handle then.
* **`ensures_progress`**: an operation in any world ends so, however it ends.
* `Progress.statusWrites_le`, `Progress.requests_cases`, `Progress.baseUrl`: what it has done by then.
-/

namespace ConversationMemory

variable {σ α : Type}

theorem Reply.Ends.noted {reply : Reply σ α} {answered : α → σ → Prop} {left : Abort → σ → Prop}
    (h : reply.Ends answered left) (call : Option α → Call) (calls : List Call) :
    (reply.noted call calls).Ends (fun a y => answered a y.1 ∧ y.2 = calls ++ [call (some a)])
      (fun reason y => left reason y.1 ∧ y.2 = calls ++ [call none]) := by
  cases reply with
  | afterWait => exact ⟨⟨h.1, rfl⟩, fun reason caller => ⟨h.2 reason caller, rfl⟩⟩
  | never => exact fun reason whole => ⟨h reason whole, rfl⟩
  | atOnce | crash => exact ⟨h, rfl⟩

theorem Reply.ends_anywhere (reply : Reply σ α) :
    reply.Ends (fun _ _ => True) fun _ _ => True := by
  cases reply with
  | afterWait => exact ⟨trivial, fun _ _ => trivial⟩
  | never => exact fun _ _ => trivial
  | atOnce | crash => trivial

namespace Handle

open Run

variable {world : World σ} {emitter : Emitter} {handle : Handle}

/-! ## Calls that are noted down -/

/-- What has been called, and the handle after that. -/
abbrev Noted (calls : List Call) (state : HandleState) : Sight (σ × List Call) :=
  fun w k _ => w.2 = calls ∧ k = state

variable {calls : List Call} {state : HandleState}

theorem ensures_noted (reply : σ → Reply σ α) (call : Option α → Call) :
    Ensures (Noted calls state) (await fun w : σ × List Call => (reply w.1).noted call w.2)
      (fun a => Noted (calls ++ [call (some a)]) state)
      (fun _ => Noted (calls ++ [call none]) state) := by
  refine ensures_ends fun w k _ h => ?_
  obtain ⟨rfl, rfl⟩ := h
  exact ((reply w.1).ends_anywhere.noted call w.2).imp (fun _ _ made => ⟨made.2, rfl⟩)
    fun _ _ made => ⟨made.2, rfl⟩

theorem ensures_logged {entry : LogEntry} {broken : Abort → Sight (σ × List Call)} :
    Ensures (Noted calls state) ((world.watched.collaborators emitter).log entry)
      (fun _ => Noted calls state) broken :=
  ensures_update _ fun _ => id

theorem ensures_looked {broken : Abort → Sight (σ × List Call)} :
    Ensures (Noted calls state) (getThe HandleState : Run (σ × List Call) HandleState)
      (fun looked w k e => looked = state ∧ Noted calls state w k e) broken :=
  ensures_look.imp (fun _ _ _ => id) (fun _ _ _ _ h => ⟨h.1.trans h.2.2, h.2⟩) fun _ _ _ _ => id

/-! ## Reconciliations -/

/-- The calls of a reconciliation that has been left. -/
inductive ReconcileLeft (handle : Handle) (cached : String) : List Call → Prop
  | reading : ReconcileLeft handle cached [.get handle.name handle.namespaceName none]
  | resolving (record : MemoryRecord) : ReconcileLeft handle cached
      [.get handle.name handle.namespaceName (some (.ok record)),
        .resolve record.spec.address handle.namespaceName none]
  | writing (record : MemoryRecord) (resolved : String)
    (differs : normalize cached ≠ normalize resolved) :
    ReconcileLeft handle cached
      [.get handle.name handle.namespaceName (some (.ok record)),
        .resolve record.spec.address handle.namespaceName (some (.ok resolved)),
        .updateStatus (drifted record resolved) none]

/-- **A reconciliation comes to its result, or is left while it waits**; the handle remembers what has
been found, and nothing before that. -/
theorem ensures_reconciling (name : String) :
    Ensures (Noted calls state) (handle.reconcile (world.watched.collaborators emitter) name)
      (fun r w k _ => (∃ made, w.2 = calls ++ made ∧
          handle.ReconcileCalls name state.baseUrl made r) ∧
        k = { state with baseUrl := rememberedAfter state.baseUrl r })
      (fun _ w k _ => (∃ made, w.2 = calls ++ made ∧ handle.ReconcileLeft state.baseUrl made) ∧
        k = state) := by
  have remembers (next : String) (made : List Call)
      (reconciled : handle.ReconcileCalls name state.baseUrl made (.ok next)) :
      Ensures (Noted (calls ++ made) state)
        (do
          modifyThe HandleState fun state => { state with baseUrl := next }
          return .ok next : Run (σ × List Call) (Except MemoryError String))
        (fun r w k _ => (∃ made, w.2 = calls ++ made ∧
            handle.ReconcileCalls name state.baseUrl made r) ∧
          k = { state with baseUrl := rememberedAfter state.baseUrl r })
        (fun _ w k _ => (∃ made, w.2 = calls ++ made ∧ handle.ReconcileLeft state.baseUrl made) ∧
          k = state) := by
    refine ensures_bind (ensures_modify _ fun w k e h => ?_) fun _ => ensures_pure _ fun _ _ _ => id
    obtain ⟨hmade, rfl⟩ := h
    exact ⟨⟨made, hmade, reconciled⟩, rfl⟩
  unfold reconcile
  refine ensures_bind ((ensures_noted (world.get _ _) (.get _ _)).imp (fun _ _ _ => id)
    (fun _ _ _ _ => id) fun _ w k _ h => ⟨⟨_, h.1, .reading⟩, h.2⟩) fun read => ?_
  cases read with
  | error e => exact ensures_pure _ fun w k _ h => ⟨⟨_, h.1, .unread e⟩, h.2⟩
  | ok record =>
    refine ensures_bind ((ensures_noted (world.resolve _ _) (.resolve _ _)).imp (fun _ _ _ => id)
      (fun _ _ _ _ => id) fun _ w k _ h => ⟨⟨_, ?_, .resolving record⟩, h.2⟩) fun found => ?_
    · rw [h.1, List.append_assoc]
      rfl
    rw [List.append_assoc]
    cases found with
    | error e => exact ensures_pure _ fun w k _ h => ⟨⟨_, h.1, .unresolved record e⟩, h.2⟩
    | ok resolved =>
      refine ensures_bind ensures_looked fun looked => ensures_assume fun same => ?_
      subst same
      dsimp only
      split
      · rename_i differs
        refine ensures_bind ensures_logged fun _ => ensures_bind
          ((ensures_noted (world.updateStatus _) (.updateStatus _)).imp (fun _ _ _ => id)
            (fun _ _ _ _ => id) fun _ w k _ h => ⟨⟨_, ?_, .writing record resolved differs⟩, h.2⟩)
          fun answer => ?_
        · rw [h.1, List.append_assoc]
          rfl
        rw [List.append_assoc]
        have remembered := remembers _ _ (.drifted record resolved answer differs)
        cases answer with
        | ok _ => exact remembered
        | error e => exact ensures_bind ensures_logged fun _ => remembered
      · rename_i same
        exact remembers _ _ (.kept record resolved (not_not.1 same))

/-! ## Requests -/

/-- The state of a handle whose transport has been opened. -/
def opened (handle : Handle) (state : HandleState) : HandleState :=
  { state with transport := some (handle.openTransport state) }

theorem ensures_opening {broken : Abort → Sight (σ × List Call)} :
    Ensures (Noted calls state) (handle.transport : Run (σ × List Call) Transport)
      (fun transport w k e => transport = handle.openTransport state ∧
        Noted calls (handle.opened state) w k e) broken := by
  unfold Handle.transport
  refine ensures_bind ensures_looked fun looked => ensures_assume fun same => ?_
  subst same
  cases hopen : looked.transport with
  | some transport =>
    have already : handle.opened looked = looked := by
      rw [opened, openTransport, hopen, Option.getD_some, ← hopen]
    refine ensures_pure _ fun w k _ h => ⟨by simp [openTransport, hopen], h.1, ?_⟩
    rw [already, h.2]
  | none =>
    refine ensures_bind (ensures_modify _ fun w k e h => ?_) fun _ => ensures_pure _ fun _ _ _ => id
    obtain ⟨hmade, rfl⟩ := h
    exact ⟨by simp [openTransport, hopen], hmade, by simp [opened, openTransport, hopen]⟩

/-- The calls of an exchange: there is nothing that can be sent, or one request is. -/
def Exchanged (prepared : Except TransportError Request) (calls : List Call) : Prop :=
  match prepared with
  | .error _ => calls = []
  | .ok request => ∃ answer, calls = [.send request answer]

theorem ensures_exchanging {operation : String} {method : Method} {url : String}
    {header : String × String} {body : Option String} :
    let exchanged : Sight (σ × List Call) := fun w k _ =>
      (∃ sent, w.2 = calls ++ sent ∧ Exchanged (Request.prepare (handle.openTransport state) method
        url [header, ("user-agent", handle.settings.userAgent)] body) sent) ∧ k = handle.opened state
    Ensures (Noted calls state)
      (handle.exchange (world.watched.collaborators emitter) operation method url header body)
      (fun _ => exchanged) (fun _ => exchanged) := by
  intro exchanged
  unfold exchange
  refine ensures_bind ensures_opening fun transport => ensures_assume fun same => ?_
  subst same
  dsimp only
  cases hprepare : Request.prepare (handle.openTransport state) method url
      [header, ("user-agent", handle.settings.userAgent)] body with
  | error e =>
    refine ensures_pure _ fun w k _ h => ⟨⟨[], by rw [h.1, List.append_nil], ?_⟩, h.2⟩
    rw [hprepare]
    rfl
  | ok request =>
    have sent (answer : Option (Except TransportError Response)) (w : σ × List Call)
        (k : HandleState) (e : List OperationEvent)
        (h : Noted (calls ++ [.send request answer]) (handle.opened state) w k e) :
        exchanged w k e := by
      refine ⟨⟨_, h.1, ?_⟩, h.2⟩
      rw [hprepare]
      exact ⟨answer, rfl⟩
    refine ensures_bind ((ensures_noted (world.send request) (.send request)).imp
      (fun _ _ _ => id) (fun answer w k e => sent (some answer) w k e)
      fun _ w k e => sent none w k e) fun answer => ?_
    cases answer with
    | error e => exact ensures_pure _ fun _ _ _ => id
    | ok response =>
      dsimp only
      split <;> exact ensures_pure _ fun _ _ _ => id

/-! ## Operations -/

variable {operation : Operation}

/-- How far an operation has got when it ends: the calls that it has made, and its handle. -/
inductive Progress (handle : Handle) (operation : Operation) (state : HandleState) :
    List Call → HandleState → Prop
  | idle : Progress handle operation state [] state
  | left {made} (left : handle.ReconcileLeft state.baseUrl made) :
    Progress handle operation state made state
  | unreconciled {made e}
    (reconciled : handle.ReconcileCalls operation.name state.baseUrl made (.error e)) :
    Progress handle operation state made state
  | reconciled {made next sent}
    (reconciled : handle.ReconcileCalls operation.name state.baseUrl made (.ok next))
    (exchanged : Exchanged (handle.requestFor state operation next) sent) :
    Progress handle operation state (made ++ sent) (handle.opened { state with baseUrl := next })

theorem ReconcileCalls.statusWrites_le {name cached : String} {made : List Call}
    {r : Except MemoryError String} (h : handle.ReconcileCalls name cached made r) :
    statusWrites made ≤ 1 := by
  cases h <;> simp [statusWrites, Call.isStatusWrite]

theorem ReconcileLeft.sends_nothing {cached : String} {made : List Call}
    (h : handle.ReconcileLeft cached made) : statusWrites made ≤ 1 ∧ requests made = [] := by
  cases h <;> exact ⟨by simp [statusWrites, Call.isStatusWrite], rfl⟩

/-- The calls begin with the record that is read for the handle. -/
def Reads (handle : Handle) (record : MemoryRecord) (made : List Call) : Prop :=
  ∃ rest, made = .get handle.name handle.namespaceName (some (.ok record)) :: rest

theorem ReconcileCalls.written {name cached : String} {made : List Call}
    {r : Except MemoryError String} (h : handle.ReconcileCalls name cached made r)
    {written : MemoryRecord} {answer : Option (Except StoreError Unit)}
    (hmem : .updateStatus written answer ∈ made) :
    ∃ record resolved, handle.Reads record made ∧ written = Handle.drifted record resolved := by
  cases h with
  | unread | unresolved | kept => simp at hmem
  | drifted record resolved answer differs =>
    refine ⟨record, resolved, ⟨_, rfl⟩, ?_⟩
    simp at hmem
    exact hmem.1

theorem ReconcileLeft.written {cached : String} {made : List Call}
    (h : handle.ReconcileLeft cached made) {written : MemoryRecord}
    {answer : Option (Except StoreError Unit)} (hmem : .updateStatus written answer ∈ made) :
    ∃ record resolved, handle.Reads record made ∧ written = Handle.drifted record resolved := by
  cases h with
  | reading | resolving => simp at hmem
  | writing record resolved differs =>
    refine ⟨record, resolved, ⟨_, rfl⟩, ?_⟩
    simp at hmem
    exact hmem.1

theorem Exchanged.nothing_else {prepared : Except TransportError Request} {sent : List Call}
    (h : Exchanged prepared sent) : statusWrites sent = 0 ∧ resolvedAddresses sent = [] := by
  cases prepared with
  | error e =>
    obtain rfl := h
    exact ⟨rfl, rfl⟩
  | ok request =>
    obtain ⟨answer, rfl⟩ := h
    exact ⟨rfl, rfl⟩

theorem Exchanged.requests_cases {prepared : Except TransportError Request} {sent : List Call}
    (h : Exchanged prepared sent) :
    requests sent = [] ∨ ∃ request, requests sent = [request] ∧ prepared = .ok request := by
  cases prepared with
  | error e =>
    obtain rfl := h
    exact .inl rfl
  | ok request =>
    obtain ⟨answer, rfl⟩ := h
    exact .inr ⟨request, rfl, rfl⟩

namespace Progress

variable {made : List Call} {last : HandleState} (h : handle.Progress operation state made last)

include h

theorem statusWrites_le : statusWrites made ≤ 1 := by
  cases h with
  | idle => decide
  | left left => exact left.sends_nothing.1
  | unreconciled reconciled => exact reconciled.statusWrites_le
  | reconciled reconciled exchanged =>
    rw [statusWrites_append, exchanged.nothing_else.1]
    exact reconciled.statusWrites_le

theorem requests_cases : requests made = [] ∨ ∃ request, requests made = [request] ∧
    handle.requestFor state operation last.baseUrl = .ok request := by
  cases h with
  | idle => exact .inl rfl
  | left left => exact .inl left.sends_nothing.2
  | unreconciled reconciled => exact .inl reconciled.requests_eq
  | reconciled reconciled exchanged =>
    rw [requests_append, reconciled.requests_eq, List.nil_append]
    exact exchanged.requests_cases

theorem baseUrl : last.baseUrl = state.baseUrl ∨
    ∃ address, resolvedAddresses made = [address] ∧ last.baseUrl = normalize address := by
  cases h with
  | idle | left | unreconciled => exact .inl rfl
  | reconciled reconciled exchanged =>
    obtain ⟨address, hresolved, rfl⟩ := reconciled.resolved
    refine .inr ⟨address, ?_, rfl⟩
    rw [resolvedAddresses_append, hresolved, exchanged.nothing_else.2]
    rfl

theorem written {record' : MemoryRecord} {answer : Option (Except StoreError Unit)}
    (hmem : .updateStatus record' answer ∈ made) :
    ∃ record resolved, handle.Reads record made ∧ record' = drifted record resolved := by
  cases h with
  | idle => cases hmem
  | left left => exact left.written hmem
  | unreconciled reconciled => exact reconciled.written hmem
  | reconciled reconciled exchanged =>
    have early := (List.mem_append.1 hmem).resolve_right fun late => by
      have none := List.countP_eq_zero.1 exchanged.nothing_else.1 _ late
      exact none rfl
    obtain ⟨record, resolved, ⟨rest, begins⟩, hwritten⟩ := reconciled.written early
    exact ⟨record, resolved, ⟨_, by rw [begins, List.cons_append]⟩, hwritten⟩

theorem openTransport : handle.openTransport last = handle.openTransport state := by
  cases h <;> rfl

end Progress

/-- The calls and the handle are those of an operation that has got so far. -/
abbrev Ended (handle : Handle) (operation : Operation) (calls : List Call) (state : HandleState) :
    Sight (σ × List Call) :=
  fun w k _ => ∃ made, w.2 = calls ++ made ∧ handle.Progress operation state made k

/-- An operation has found its base address. -/
abbrev Located (handle : Handle) (operation : Operation) (calls : List Call) (state : HandleState)
    (next : String) : Sight (σ × List Call) :=
  fun w k e => ∃ made, handle.ReconcileCalls operation.name state.baseUrl made (.ok next) ∧
    Noted (calls ++ made) { state with baseUrl := next } w k e

theorem ensures_locating (operation : Operation) :
    Ensures (Noted calls state)
      (handle.reconcile (world.watched.collaborators emitter) operation.name)
      (fun base w k e => match base with
        | .ok next => handle.Located operation calls state next w k e
        | .error _ => handle.Ended operation calls state w k e)
      (fun _ => handle.Ended operation calls state) := by
  refine (ensures_reconciling operation.name).imp (fun _ _ _ => id) (fun base w k _ h => ?_)
    fun _ w k _ h => ?_
  · obtain ⟨⟨made, hmade, reconciled⟩, rfl⟩ := h
    cases base with
    | error e => exact ⟨made, hmade, .unreconciled reconciled⟩
    | ok next => exact ⟨made, reconciled, hmade, rfl⟩
  · obtain ⟨⟨made, hmade, left⟩, rfl⟩ := h
    exact ⟨made, hmade, .left left⟩

theorem ensures_sending (operation : Operation) (next : String) :
    Ensures (handle.Located operation calls state next)
      (handle.exchange (world.watched.collaborators emitter) operation.name operation.method
        (handle.messagesUrl next) operation.header operation.body)
      (fun _ => handle.Ended operation calls state) (fun _ => handle.Ended operation calls state) := by
  refine ensures_exists fun made => ensures_assume fun reconciled => ?_
  have ended (w : σ × List Call) (k : HandleState) (h : (∃ sent, w.2 = calls ++ made ++ sent ∧
      Exchanged (handle.requestFor { state with baseUrl := next } operation next) sent) ∧
      k = handle.opened { state with baseUrl := next }) :
      ∃ made, w.2 = calls ++ made ∧ handle.Progress operation state made k := by
    obtain ⟨⟨sent, hsent, exchanged⟩, rfl⟩ := h
    exact ⟨made ++ sent, by rw [hsent, List.append_assoc], .reconciled reconciled exchanged⟩
  exact ensures_exchanging.imp (fun _ _ _ => id) (fun _ w k _ => ended w k) fun _ w k _ => ended w k

theorem ensures_putting (messages : List Message) :
    Ensures (Noted calls state)
      (handle.putMessages (world.watched.collaborators emitter) messages)
      (fun _ => handle.Ended (.add messages) calls state)
      (fun _ => handle.Ended (.add messages) calls state) := by
  unfold putMessages
  refine ensures_bind (ensures_locating (.add messages)) fun base => ?_
  cases base with
  | error e => exact ensures_pure _ fun _ _ _ => id
  | ok next =>
    refine ensures_bind (ensures_update _ fun _ => id) fun _ =>
      ensures_bind (ensures_sending (.add messages) next) fun answer => ?_
    cases answer <;> exact ensures_pure _ fun _ _ _ => id

theorem ensures_fetching :
    Ensures (Noted calls state) (handle.fetchMessages (world.watched.collaborators emitter))
      (fun _ => handle.Ended .get calls state) (fun _ => handle.Ended .get calls state) := by
  unfold fetchMessages
  refine ensures_bind (ensures_locating .get) fun base => ?_
  cases base with
  | error e => exact ensures_pure _ fun _ _ _ => id
  | ok next =>
    refine ensures_bind (ensures_update _ fun _ => id) fun _ =>
      ensures_bind (ensures_sending .get next) fun answer => ?_
    cases answer with
    | error e => exact ensures_pure _ fun _ _ _ => id
    | ok response =>
      dsimp only
      split <;> exact ensures_pure _ fun _ _ _ => id

theorem ensures_perform {before kept : σ → HandleState → Prop} {left : Abort → σ → HandleState → Prop}
    {context : OperationContext} {operation : Operation}
    (puts : ∀ messages, operation = .add messages → Ensures (fun w k _ => before w k)
      (handle.putMessages (world.collaborators .recording) messages) (fun _ w k _ => kept w k)
      (fun reason w k _ => left reason w k))
    (fetches : operation = .get → Ensures (fun w k _ => before w k)
      (handle.fetchMessages (world.collaborators .recording)) (fun _ w k _ => kept w k)
      (fun reason w k _ => left reason w k))
    (idle : ∀ w k, before w k → kept w k)
    (enters : ∀ interrupt w k, before w k → left (.interrupted interrupt) w k) :
    Ensures (fun w k _ => before w k)
      (handle.perform (world.collaborators .recording) context operation)
      (fun _ w k _ => kept w k ∨ ∃ interrupt, left (.interrupted interrupt) w k)
      (fun reason w k _ => left reason w k) := by
  have either {α : Type} (r : Except MemoryError α) (w : σ) (k : HandleState)
      (h : kept w k ∨ Interrupted r ∧ ∃ interrupt, left (.interrupted interrupt) w k) :
      kept w k ∨ ∃ interrupt, left (.interrupted interrupt) w k := h.imp id And.right
  cases operation with
  | get =>
    exact ensures_map ((handle.ensures_track_body handle.built_fetchMessages.silent (fetches rfl)
      enters).imp (fun _ _ _ => id) (fun r w k _ => either r w k) fun _ _ _ _ => id)
  | add messages =>
    refine ensures_map ?_
    unfold addMessages
    split
    · exact ensures_pure _ fun w k _ h => .inl (idle w k h)
    · exact (handle.ensures_track_body (handle.built_putMessages messages).silent
        (puts messages rfl) enters).imp (fun _ _ _ => id) (fun r w k _ => either r w k)
        fun _ _ _ _ => id

theorem ensures_kept {kept : σ → Prop} {left : Abort → σ → Prop} (keeps : world.Keeps kept left)
    (enters : ∀ interrupt w, kept w → left (.interrupted interrupt) w) (context : OperationContext)
    (operation : Operation) :
    Ensures (fun w _ _ => kept w)
      (handle.perform (world.collaborators .recording) context operation)
      (fun _ w _ _ => kept w ∨ ∃ interrupt, left (.interrupted interrupt) w)
      (fun reason w _ _ => left reason w) :=
  ensures_perform (fun messages _ => (handle.built_putMessages messages).keeps keeps)
    (fun _ => handle.built_fetchMessages.keeps keeps) (fun _ _ => id) fun interrupt w _ =>
      enters interrupt w

/-- **However an operation ends, it has got so far.** -/
theorem ensures_progress (context : OperationContext) (operation : Operation) :
    Ensures (Noted calls state)
      (handle.perform (world.watched.collaborators .recording) context operation)
      (fun _ => handle.Ended operation calls state)
      (fun _ => handle.Ended operation calls state) := by
  have idle (w : σ × List Call) (k : HandleState) (h : w.2 = calls ∧ k = state) :
      ∃ made, w.2 = calls ++ made ∧ handle.Progress operation state made k := by
    obtain ⟨hmade, rfl⟩ := h
    exact ⟨[], by rw [hmade, List.append_nil], .idle⟩
  refine (ensures_perform (fun messages adds => ?_) (fun gets => ?_) idle fun _ => idle).imp
    (fun _ _ _ => id) (fun _ w k _ h => h.elim id fun ⟨_, left⟩ => left) fun _ _ _ _ => id
  · subst adds
    exact ensures_putting messages
  · subst gets
    exact ensures_fetching

end Handle

end ConversationMemory
