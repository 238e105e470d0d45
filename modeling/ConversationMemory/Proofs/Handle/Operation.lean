import ConversationMemory.Proofs.Handle.Reconcile

/-!
# What an operation does

* `Operation`: adding messages, or getting the history; `Handle.perform` runs either.
* `Handle.requestFor`, `Handle.resultOf`: the request of an operation, and what the answer of the
  service makes of it.
* `Handle.Performed`: the three ways in which the body of an operation can go.
* **`reaches_perform`**: an operation that nobody has interrupted goes in one of these ways.
* `settles_perform`: in a world that always answers, an operation comes to its end.
-/

namespace ConversationMemory

/-- What a handle can be asked for. -/
inductive Operation
  | add (messages : List Message)
  | get

/-- What comes of an operation that goes well. -/
inductive Answer
  | added
  | history (messages : List Message)

namespace Operation

/-- The name of the operation in errors and events. -/
def name : Operation → String
  | add _ => Handle.addOperation
  | get => Handle.getOperation

/-- The method of the request. -/
def method : Operation → Method
  | add _ => .put
  | get => .get

/-- The header that says how messages are written. -/
def header : Operation → String × String
  | add _ => ("content-type", Handle.mediaType)
  | get => ("accept", Handle.mediaType)

/-- The body of the request. -/
def body : Operation → Option String
  | add messages => some (Handle.addBody messages).compact
  | get => none

/-- What every event of the operation tells. -/
def metadata (handle : Handle) : Operation → Entries String
  | add messages => handle.baseMetadata.insert "messages" (toString messages.length)
  | get => handle.baseMetadata

/-- The tracker of the operation. -/
def tracker (handle : Handle) (operation : Operation) : Tracker :=
  ⟨operation.name, handle.name, operation.metadata handle⟩

/-- Whether there is anything to be done. -/
def IsNonEmpty : Operation → Prop
  | add messages => messages ≠ []
  | get => True

end Operation

/-- The operation was stopped before it came to a result of its own. -/
def Interrupted {α : Type} (r : Except MemoryError α) : Prop :=
  ∃ operation target reason, r = .error (.cancelled operation target reason)

namespace Handle

section Generic

variable {m : Type → Type} [Monad m] [MonadStateOf HandleState m]

/-- Runs an operation. -/
def perform (handle : Handle) (c : Collaborators m) (context : OperationContext) :
    Operation → m (Except MemoryError Answer)
  | .add messages => (·.map fun _ => .added) <$> handle.addMessages c context messages
  | .get => (·.map .history) <$> handle.getMessages c context

end Generic

/-- The transport that the next request takes. -/
def openTransport (handle : Handle) (state : HandleState) : Transport :=
  state.transport.getD (handle.shared.getD { timeout := handle.settings.requestTimeout })

/-- The request of an operation to a base address. -/
def requestFor (handle : Handle) (state : HandleState) (operation : Operation) (baseUrl : String) :
    Except TransportError Request :=
  Request.prepare (handle.openTransport state) operation.method (handle.messagesUrl baseUrl)
    [operation.header, ("user-agent", handle.settings.userAgent)] operation.body

/-- The answer of the service, if it is a success. -/
def received (handle : Handle) (operation : String) :
    Except TransportError Response → Except MemoryError Response
  | .error e => .error (.transport operation handle.target e)
  | .ok response =>
    if response.isSuccess then .ok response
    else .error (.backend operation handle.target response.status)

/-- The history in an answer of the service. -/
def historyOf (handle : Handle) (response : Response) : Except MemoryError (List Message) :=
  match response.body with
  | .lost causes => .error (.transport getOperation handle.target { stage := .receiving, causes })
  | .whole bytes => handle.decodeHistory bytes

/-- What the answer of the service makes of an operation. -/
def resultOf (handle : Handle) (operation : Operation) (answer : Except TransportError Response) :
    Except MemoryError Answer :=
  match handle.received operation.name answer, operation with
  | .error e, _ => .error e
  | .ok _, .add _ => .ok .added
  | .ok response, .get => (handle.historyOf response).map .history

variable {σ : Type} {world : World σ} {emitter : Emitter} {handle : Handle} {scope : Scope}
  {s t : Running σ}

/-! ## Exchanges -/

open Run in
theorem reaches_transport {transport : Transport}
    (h : (handle.transport : Run σ Transport).Reaches scope s transport t) :
    transport = handle.openTransport s.handle ∧
      t = { s with handle := { s.handle with transport := some transport } } := by
  unfold Handle.transport at h
  obtain ⟨state, u, hstate, h⟩ := reaches_bind.1 h
  obtain ⟨rfl, rfl⟩ := reaches_get.1 hstate
  cases hopen : u.handle.transport with
  | some opened =>
    rw [hopen] at h
    obtain ⟨rfl, rfl⟩ := reaches_pure.1 h
    refine ⟨by simp [openTransport, hopen], ?_⟩
    rw [← hopen]
  | none =>
    rw [hopen] at h
    obtain ⟨_, v, hset, h⟩ := reaches_bind.1 h
    obtain rfl := reaches_modify.1 hset
    obtain ⟨rfl, rfl⟩ := reaches_pure.1 h
    exact ⟨by simp [openTransport, hopen], rfl⟩

open Run in
theorem reaches_exchange {operation : String} {method : Method} {url : String}
    {header : String × String} {body : Option String} {r : Except MemoryError Response}
    (h : (handle.exchange (world.collaborators emitter) operation method url header body).Reaches
      scope s r t) :
    (match Request.prepare (handle.openTransport s.handle) method url
        [header, ("user-agent", handle.settings.userAgent)] body with
      | .error e => r = .error (.transport operation handle.target e) ∧ t.world = s.world
      | .ok request => ∃ answer, (world.send request s.world).Answers answer t.world ∧
          r = handle.received operation answer) ∧
      t.handle.baseUrl = s.handle.baseUrl := by
  unfold exchange at h
  obtain ⟨transport, u, hopen, h⟩ := reaches_bind.1 h
  obtain ⟨rfl, rfl⟩ := reaches_transport hopen
  dsimp only at h
  cases hprepare : Request.prepare (handle.openTransport s.handle) method url
      [header, ("user-agent", handle.settings.userAgent)] body with
  | error e =>
    rw [hprepare] at h
    obtain ⟨rfl, rfl⟩ := reaches_pure.1 h
    exact ⟨⟨rfl, rfl⟩, rfl⟩
  | ok request =>
    rw [hprepare] at h
    obtain ⟨answer, v, hsend, h⟩ := reaches_bind.1 h
    obtain ⟨hanswer, waited⟩ := reaches_await hsend
    have base : v.handle.baseUrl = s.handle.baseUrl := by rw [waited.handle]
    cases answer with
    | error e =>
      obtain ⟨rfl, rfl⟩ := reaches_pure.1 h
      exact ⟨⟨_, hanswer, rfl⟩, base⟩
    | ok response =>
      dsimp only at h
      have ended : r = handle.received operation (.ok response) ∧ t = v := by
        by_cases success : response.isSuccess
        · simp only [success, if_true] at h
          simpa [received, success] using reaches_pure.1 h
        · simp only [success] at h
          simpa [received, success] using reaches_pure.1 h
      obtain ⟨rfl, rfl⟩ := ended
      exact ⟨⟨_, hanswer, rfl⟩, base⟩

/-! ## The body of an operation -/

/-- The body of an operation goes from one world to another, and leaves a base address behind: there
is nothing to send to, nothing that can be sent, or an answer to what was sent. -/
inductive Performed (world : World σ) (handle : Handle) (operation : Operation) (state : HandleState)
    (x : σ) : Except MemoryError Answer → σ → String → Prop
  | unreconciled {e y}
    (reconciled : Reconciled world handle operation.name state.baseUrl x (.error e) y) :
    Performed world handle operation state x (.error e) y state.baseUrl
  | unsent {next entry e y}
    (reconciled : Reconciled world handle operation.name state.baseUrl x (.ok next) y)
    (refused : handle.requestFor state operation next = .error e) :
    Performed world handle operation state x
      (.error (.transport operation.name handle.target e)) (world.log entry y) next
  | sent {next entry request answer y z}
    (reconciled : Reconciled world handle operation.name state.baseUrl x (.ok next) y)
    (prepared : handle.requestFor state operation next = .ok request)
    (answered : (world.send request (world.log entry y)).Answers answer z) :
    Performed world handle operation state x (handle.resultOf operation answer) z next

theorem performed_of_exchange {operation : Operation} {state : HandleState} {x y z : σ}
    {next : String} {entry : LogEntry} {r : Except MemoryError Response}
    {result : Except MemoryError Answer}
    (reconciled : Reconciled world handle operation.name state.baseUrl x (.ok next) y)
    (exchanged : match handle.requestFor state operation next with
      | .error e => r = .error (.transport operation.name handle.target e) ∧ z = world.log entry y
      | .ok request => ∃ answer, (world.send request (world.log entry y)).Answers answer z ∧
          r = handle.received operation.name answer)
    (refused : ∀ e, r = .error e → result = .error e)
    (accepted : ∀ response, response.isSuccess → r = .ok response →
      result = handle.resultOf operation (.ok response)) :
    Performed world handle operation state x result z next := by
  cases hprepare : handle.requestFor state operation next with
  | error e =>
    rw [hprepare] at exchanged
    obtain ⟨hr, rfl⟩ := exchanged
    rw [refused _ hr]
    exact .unsent reconciled hprepare
  | ok request =>
    rw [hprepare] at exchanged
    obtain ⟨answer, answered, hr⟩ := exchanged
    have hresult : result = handle.resultOf operation answer := by
      cases answer with
      | error e =>
        rw [refused _ hr]
        rfl
      | ok response =>
        by_cases success : response.isSuccess
        · exact accepted _ success (by rw [hr, received, if_pos success])
        · rw [refused _ (by rw [hr, received, if_neg success])]
          simp [resultOf, received, success]
    rw [hresult]
    exact .sent reconciled hprepare answered

theorem openTransport_congr {state other : HandleState} (h : state.transport = other.transport) :
    handle.openTransport state = handle.openTransport other := by
  rw [openTransport, openTransport, h]

open Run in
theorem reaches_putMessages {messages : List Message} {r : Except MemoryError Unit}
    (h : (handle.putMessages (world.collaborators emitter) messages).Reaches scope s r t) :
    Performed world handle (.add messages) s.handle s.world (r.map fun _ => .added) t.world
      t.handle.baseUrl := by
  unfold putMessages at h
  obtain ⟨base, u, hreconcile, h⟩ := reaches_bind.1 h
  obtain ⟨reconciled, hhandle, -⟩ := reconcile_reaches hreconcile
  cases base with
  | error e =>
    obtain ⟨rfl, rfl⟩ := reaches_pure.1 h
    rw [hhandle]
    exact .unreconciled reconciled
  | ok next =>
    obtain ⟨_, v, hlog, h⟩ := reaches_bind.1 h
    obtain rfl := reaches_update.1 hlog
    obtain ⟨answer, w, hexchange, h⟩ := reaches_bind.1 h
    obtain ⟨exchanged, hbase⟩ := reaches_exchange hexchange
    rw [openTransport_congr (show u.handle.transport = s.handle.transport by rw [hhandle])]
      at exchanged
    have ended : r = answer.map (fun _ => ()) ∧ t = w := by
      cases answer with
      | error e => exact reaches_pure.1 h
      | ok response => exact reaches_pure.1 h
    obtain ⟨rfl, rfl⟩ := ended
    rw [hbase, hhandle]
    refine performed_of_exchange reconciled exchanged ?_ ?_
    · rintro e rfl
      rfl
    · rintro response success rfl
      simp [resultOf, received, success, Except.map]

open Run in
theorem reaches_fetchMessages {r : Except MemoryError (List Message)}
    (h : (handle.fetchMessages (world.collaborators emitter)).Reaches scope s r t) :
    Performed world handle .get s.handle s.world (r.map .history) t.world t.handle.baseUrl := by
  unfold fetchMessages at h
  obtain ⟨base, u, hreconcile, h⟩ := reaches_bind.1 h
  obtain ⟨reconciled, hhandle, -⟩ := reconcile_reaches hreconcile
  cases base with
  | error e =>
    obtain ⟨rfl, rfl⟩ := reaches_pure.1 h
    rw [hhandle]
    exact .unreconciled reconciled
  | ok next =>
    obtain ⟨_, v, hlog, h⟩ := reaches_bind.1 h
    obtain rfl := reaches_update.1 hlog
    obtain ⟨answer, w, hexchange, h⟩ := reaches_bind.1 h
    obtain ⟨exchanged, hbase⟩ := reaches_exchange hexchange
    rw [openTransport_congr (show u.handle.transport = s.handle.transport by rw [hhandle])]
      at exchanged
    have ended : r = answer.bind handle.historyOf ∧ t = w := by
      cases answer with
      | error e => exact reaches_pure.1 h
      | ok response =>
        simp only [Except.bind, historyOf]
        cases hbody : response.body with
        | whole bytes =>
          simp only [hbody] at h
          exact reaches_pure.1 h
        | lost causes =>
          simp only [hbody] at h
          exact reaches_pure.1 h
    obtain ⟨rfl, rfl⟩ := ended
    rw [hbase, hhandle]
    refine performed_of_exchange reconciled exchanged ?_ ?_
    · rintro e rfl
      rfl
    · rintro response success rfl
      simp [resultOf, received, success, Except.bind]

/-! ## An operation between its events -/

/-- The world after an event. -/
def afterEvent (world : World σ) (emitter : Emitter) (event : OperationEvent) (x : σ) : σ :=
  match emitter with
  | .recording => x
  | .logging => world.log event.toLog x

open Run in
theorem reaches_emit {event : OperationEvent} {u : Unit}
    (h : ((world.collaborators emitter).emit event).Reaches scope s u t) :
    t.world = afterEvent world emitter event s.world ∧ t.handle = s.handle := by
  have := reaches_update.1 h
  subst this
  cases emitter with
  | recording => exact ⟨rfl, rfl⟩
  | logging => exact ⟨rfl, rfl⟩

open Run in
/-- An operation that comes to a result was interrupted, or its body has come to this result between
two events. -/
theorem reaches_track {α : Type} {context : OperationContext} {operation : String}
    {metadata : Entries String} {finish : α → Entries String × String}
    {body : Run σ (Except MemoryError α)} {r : Except MemoryError α}
    (h : (handle.track (world.collaborators emitter) context operation metadata finish body).Reaches
      scope s r t) :
    Interrupted r ∨ ∃ (last : OperationEvent) (inner : Scope) (u v : Running σ),
      body.Reaches inner u r v ∧
      u.world = afterEvent world emitter (Tracker.started ⟨operation, handle.name, metadata⟩)
        s.world ∧
      u.handle = s.handle ∧
      t.world = afterEvent world emitter last v.world ∧ t.handle = v.handle := by
  unfold track at h
  obtain ⟨_, u, hstart, h⟩ := reaches_bind.1 h
  obtain ⟨hworld, hhandle⟩ := reaches_emit hstart
  obtain ⟨outcome, v, hwithin, h⟩ := reaches_bind.1 h
  obtain ⟨elapsed, w, helapsed, rest⟩ := reaches_bind.1 h
  obtain rfl : w = v := (congrArg Prod.snd helapsed).symm
  -- what is left is one event and the result
  have ended {event : OperationEvent} {q : Except MemoryError α}
      (h : (do (world.collaborators emitter).emit event; return q :
        Run σ (Except MemoryError α)).Reaches scope w r t) :
      r = q ∧ t.world = afterEvent world emitter event w.world ∧ t.handle = w.handle := by
    obtain ⟨_, x, hend, h⟩ := reaches_bind.1 h
    obtain ⟨rfl, rfl⟩ := reaches_pure.1 h
    exact ⟨rfl, reaches_emit hend⟩
  cases outcome with
  | ok result =>
    have inner := reaches_within hwithin
    cases result with
    | ok a =>
      obtain ⟨rfl, hlast, hleft⟩ := ended rest
      exact .inr ⟨_, _, _, _, inner, hworld, hhandle, hlast, hleft⟩
    | error e =>
      obtain ⟨rfl, hlast, hleft⟩ := ended rest
      exact .inr ⟨_, _, _, _, inner, hworld, hhandle, hlast, hleft⟩
  | error reason =>
    cases reason with
    | interrupted interrupt =>
      obtain ⟨rfl, -, -⟩ := ended rest
      exact .inl ⟨_, _, _, rfl⟩
    | dropped | crashed | stuck =>
      obtain ⟨_, x, -, leaves⟩ := reaches_bind.1 rest
      exact (not_reaches_abort leaves).elim

open Run in
/-- **An operation that comes to a result was interrupted, or has gone in one of three ways between
two events.** -/
theorem reaches_perform {context : OperationContext} {operation : Operation}
    (nonEmpty : operation.IsNonEmpty) {r : Except MemoryError Answer}
    (h : (handle.perform (world.collaborators emitter) context operation).Reaches scope s r t) :
    Interrupted r ∨ ∃ (last : OperationEvent) (y : σ),
      Performed world handle operation s.handle
        (afterEvent world emitter (operation.tracker handle).started s.world) r y
        t.handle.baseUrl ∧
      t.world = afterEvent world emitter last y := by
  cases operation with
  | add messages =>
    obtain ⟨q, hq, rfl⟩ := reaches_map.1 h
    rw [addMessages, if_neg (by simpa [Operation.IsNonEmpty] using nonEmpty)] at hq
    rcases reaches_track hq with ⟨operation, target, reason, rfl⟩ | ⟨last, inner, u, v, hq⟩
    · exact .inl ⟨_, _, _, rfl⟩
    · obtain ⟨hbody, hworld, hhandle, hlast, hleft⟩ := hq
      refine .inr ⟨last, v.world, ?_, hlast⟩
      simp only [Operation.tracker, Operation.name, Operation.metadata]
      rw [← hworld, ← hhandle, hleft]
      exact reaches_putMessages hbody
  | get =>
    obtain ⟨q, hq, rfl⟩ := reaches_map.1 h
    rcases reaches_track hq with ⟨operation, target, reason, rfl⟩ | ⟨last, inner, u, v, hq⟩
    · exact .inl ⟨_, _, _, rfl⟩
    · obtain ⟨hbody, hworld, hhandle, hlast, hleft⟩ := hq
      refine .inr ⟨last, v.world, ?_, hlast⟩
      simp only [Operation.tracker, Operation.name, Operation.metadata]
      rw [← hworld, ← hhandle, hleft]
      exact reaches_fetchMessages hbody

/-! ## Operations that nothing stops -/

open Run in
theorem settles_exchange {fresh written : σ → Prop} (serves : world.Serves fresh written)
    {operation : String} {method : Method} {url : String} {header : String × String}
    {body : Option String} :
    Settles (fun x => fresh x ∨ written x)
      (handle.exchange (world.collaborators emitter) operation method url header body)
      (fun _ => True) := by
  unfold exchange
  have transport : Settles (fun x => fresh x ∨ written x) (handle.transport : Run σ Transport)
      (fun x => fresh x ∨ written x) := by
    unfold Handle.transport
    refine settles_bind settles_get fun state => ?_
    split
    · exact settles_pure _ fun _ => id
    · exact settles_bind (settles_modify _) fun _ => settles_pure _ fun _ => id
  refine settles_bind transport fun transport => ?_
  dsimp only
  split
  · exact settles_pure _ fun _ _ => trivial
  · have sends (request : Request) : Settles (fun x => fresh x ∨ written x)
        (await (world.send request)) (fun _ => True) := by
      refine settles_await fun x h => ?_
      obtain ⟨a, y, answered⟩ := serves.send request x h
      exact ⟨a, y, answered, trivial⟩
    refine settles_bind (sends _) fun answer => ?_
    split
    · exact settles_pure _ fun _ => id
    · split <;> exact settles_pure _ fun _ => id

open Run in
theorem settles_putMessages {fresh written : σ → Prop} (serves : world.Serves fresh written)
    (emitter : Emitter) (handle : Handle) (messages : List Message) :
    Settles fresh (handle.putMessages (world.collaborators emitter) messages) (fun _ => True) := by
  unfold putMessages
  refine settles_bind (settles_reconcile serves) fun base => ?_
  split
  · exact settles_pure _ fun _ _ => trivial
  · refine settles_bind (settles_update _ fun s => serves.log _) fun _ =>
      settles_bind (settles_exchange serves) fun answer => ?_
    split <;> exact settles_pure _ fun _ => id

open Run in
theorem settles_fetchMessages {fresh written : σ → Prop} (serves : world.Serves fresh written)
    (emitter : Emitter) (handle : Handle) :
    Settles fresh (handle.fetchMessages (world.collaborators emitter)) (fun _ => True) := by
  unfold fetchMessages
  refine settles_bind (settles_reconcile serves) fun base => ?_
  split
  · exact settles_pure _ fun _ _ => trivial
  · refine settles_bind (settles_update _ fun s => serves.log _) fun _ =>
      settles_bind (settles_exchange serves) fun answer => ?_
    split
    · exact settles_pure _ fun _ => id
    · split <;> exact settles_pure _ fun _ => id

/-- The scope in which the body of an operation runs. -/
def innerScope (handle : Handle) (scope : Scope) (now : Nat) : Scope :=
  { scope with context := scope.context.orTimeout now handle.settings.operationTimeout }

open Run in
theorem track_of_settles {fresh written : σ → Prop} (serves : world.Serves fresh written)
    (emitter : Emitter) {α : Type} (operation : String) (metadata : Entries String)
    (finish : α → Entries String × String) {body : Run σ (Except MemoryError α)}
    (hs : fresh s.world) (quiet : (handle.innerScope scope s.now).IsQuiet)
    (settles : Settles fresh body (fun _ => True)) :
    ∃ r u v t, body.Reaches (handle.innerScope scope s.now) u r v ∧
      (handle.track (world.collaborators emitter) scope.context operation metadata finish
        body).Reaches scope s r t := by
  have emits (event : OperationEvent) (x : Running σ) :
      ∃ y, ((world.collaborators emitter).emit event).Reaches scope x () y ∧ y.now = x.now ∧
        y.world = afterEvent world emitter event x.world := by
    refine ⟨_, rfl, ?_⟩
    cases emitter <;> exact ⟨rfl, rfl⟩
  obtain ⟨u, hstart, hnow, hworld⟩ :=
    emits ((⟨operation, handle.name, metadata⟩ : Tracker).started) s
  have hu : fresh u.world := by
    rw [hworld]
    cases emitter with
    | recording => exact hs
    | logging => exact serves.log_fresh _ _ hs
  obtain ⟨r, v, hbody, -⟩ := settles _ { u with started := u.now, waits := 0 } quiet hu
  have hwithin : ((world.collaborators emitter).within scope.context
      handle.settings.operationTimeout body).Reaches scope u (.ok r) v := by
    have silent := OperationContext.interruptAt_eq_none quiet.stopsAt u.now
    simp only [innerScope, ← hnow] at silent hbody
    simp only [World.collaborators, Reaches, within, silent]
    rw [show body _ _ = (.ok r, v) from hbody]
  unfold track
  cases r with
  | ok a =>
    exact ⟨.ok a, _, v, _, hbody, reaches_bind.2 ⟨_, u, hstart, reaches_bind.2 ⟨_, v, hwithin,
      reaches_bind.2 ⟨_, v, rfl, reaches_bind.2 ⟨_, _, rfl, rfl⟩⟩⟩⟩⟩
  | error e =>
    exact ⟨.error e, _, v, _, hbody, reaches_bind.2 ⟨_, u, hstart, reaches_bind.2 ⟨_, v, hwithin,
      reaches_bind.2 ⟨_, v, rfl, reaches_bind.2 ⟨_, _, rfl, rfl⟩⟩⟩⟩⟩

theorem not_interrupted_decodeHistory (bytes : List UInt8) :
    ¬ Interrupted (handle.decodeHistory bytes) := by
  rintro ⟨operation, target, reason, h⟩
  unfold decodeHistory at h
  split at h
  · cases h
  · split at h <;> cases h

theorem not_interrupted_resultOf (operation : Operation)
    (answer : Except TransportError Response) :
    ¬ Interrupted (handle.resultOf operation answer) := by
  rintro ⟨name, target, reason, h⟩
  cases answer with
  | error e => cases h
  | ok response =>
    by_cases success : response.isSuccess
    · cases operation with
      | add messages => simp [resultOf, received, success] at h
      | get =>
        simp only [resultOf, received, success, if_true, historyOf] at h
        split at h
        · cases h
        · rename_i bytes _
          cases hdecode : handle.decodeHistory bytes with
          | ok messages =>
            rw [hdecode] at h
            cases h
          | error e =>
            rw [hdecode] at h
            cases h
            exact not_interrupted_decodeHistory bytes ⟨_, _, _, hdecode⟩
    · simp [resultOf, received, success] at h

theorem Performed.not_interrupted {operation : Operation} {state : HandleState} {x y : σ}
    {r : Except MemoryError Answer} {base : String}
    (h : Performed world handle operation state x r y base) : ¬ Interrupted r := by
  cases h with
  | unreconciled reconciled =>
    rintro ⟨_, _, _, h⟩
    cases h
    cases reconciled
  | unsent reconciled refused =>
    rintro ⟨_, _, _, h⟩
    cases h
  | sent reconciled prepared answered => exact not_interrupted_resultOf operation _

open Run in
/-- **In a world that always answers, an operation that nothing stops comes to a result of its own.**
-/
theorem settles_perform {fresh written : σ → Prop} (serves : world.Serves fresh written)
    {operation : Operation} (nonEmpty : operation.IsNonEmpty) (hs : fresh s.world)
    (quiet : (handle.innerScope scope s.now).IsQuiet) :
    ∃ r t, (handle.perform (world.collaborators emitter) scope.context operation).Reaches scope s r t ∧
      ¬ Interrupted r := by
  cases operation with
  | add messages =>
    obtain ⟨r, u, v, t, hbody, htrack⟩ :=
      track_of_settles serves emitter addOperation
        (handle.baseMetadata.insert "messages" (toString messages.length))
        (fun _ => ([], "messages added")) hs quiet (settles_putMessages serves emitter handle messages)
    have own := (reaches_putMessages hbody).not_interrupted
    refine ⟨_, t, reaches_map.2 ⟨r, ?_, rfl⟩, own⟩
    rw [addMessages, if_neg (by simpa [Operation.IsNonEmpty] using nonEmpty)]
    exact htrack
  | get =>
    obtain ⟨r, u, v, t, hbody, htrack⟩ :=
      track_of_settles serves emitter getOperation handle.baseMetadata
        (fun messages => ([("messages", toString messages.length)], "retrieved")) hs quiet
        (settles_fetchMessages serves emitter handle)
    have own := (reaches_fetchMessages hbody).not_interrupted
    exact ⟨_, t, reaches_map.2 ⟨r, htrack, rfl⟩, own⟩

end Handle

end ConversationMemory
