import ConversationMemory.Proofs.Handle.Telemetry
import ConversationMemory.Proofs.Http
import ConversationMemory.Proofs.Message

/-!
# A service that keeps histories

* `Backend`: a service that keeps one list of values for each path; `Backend.take`: how it takes in a
  request. `Backend.Hears`: at most one request has come in.
* `World.Delivers`: a world in which a request gets to the service once or not at all.
* `Handle.IsOrdinary`, `historyPath`: handles with the standard path, and where their histories are.
* **`ensures_putMessages`**, **`ensures_fetchMessages`**: what an operation does to the service, however
  it ends, and what a history that was asked for is decoded from.
-/

namespace ConversationMemory

/-- A service that keeps one list of values for each path. -/
structure Backend where
  histories : List Char → List Json := fun _ => []
  /-- How many requests have come in. -/
  received : Nat := 0

namespace Backend

/-- The values in the array `messages` of a body that is put. -/
def offered : Method → Option String → List Json
  | .put, some text =>
    match (Json.parse text).toOption.bind (·.field? "messages") with
    | some (.array values) => values
    | _ => []
  | _, _ => []

/-- One more request has come in, with values for the end of a list. -/
def append (backend : Backend) (path : List Char) (values : List Json) : Backend where
  histories other :=
    if other = path then backend.histories other ++ values else backend.histories other
  received := backend.received + 1

/-- The service takes in a request. -/
def take (backend : Backend) (request : Request) : Backend :=
  backend.append request.url.pathChars (offered request.method request.body)

/-- What is shown of a path. -/
def shown (backend : Backend) (path : List Char) : Json :=
  .object [("messages", .array (backend.histories path))]

/-- The answer shows the list of a path, written in some way. -/
def Shows (backend : Backend) (path : List Char) (response : Response) : Prop :=
  ∃ text, Json.Spells (backend.shown path) text ∧ response = ⟨200, .whole (Utf8.encode text)⟩

/-- At most one request has come in since, with values for the end of a list. If one has, a fact
holds. -/
def Hears (backend : Backend) (path : List Char) (values : List Json) (fact : Prop)
    (later : Backend) : Prop :=
  later = backend ∨ later = backend.append path values ∧ fact

theorem Hears.imp {backend later : Backend} {path : List Char} {values : List Json}
    {fact fact' : Prop} (h : backend.Hears path values fact later) (himp : fact → fact') :
    backend.Hears path values fact' later :=
  Or.imp_right (And.imp_right himp) h

end Backend

/-- An address of a scheme and an authority, with a slash behind it or without. -/
def IsService (address : String) : Prop :=
  ∃ text, Url.IsAuthority text ∧
    (address.toList = Url.httpFront ++ text ∨ address.toList = Url.httpFront ++ text ++ ['/'])

variable {σ : Type}

/-- A world with a service at the addresses that it resolves. A request gets to the service once or
not at all, whether or not anybody waits for the answer; the answer to a `GET` that got there shows
the list. Everything else about the world is left open. -/
structure World.Delivers (world : World σ) (backend : σ → Backend) : Prop where
  get : ∀ name namespaceName x, (world.get name namespaceName x).Leads
    (fun _ y => backend y = backend x) fun _ y => backend y = backend x
  updateStatus : ∀ record x, (world.updateStatus record x).Leads
    (fun _ y => backend y = backend x) fun _ y => backend y = backend x
  resolve : ∀ spec namespaceName x, (world.resolve spec namespaceName x).Leads
    (fun found y => (∀ address, found = .ok address → IsService address) ∧ backend y = backend x)
    fun _ y => backend y = backend x
  log : ∀ entry x, backend (world.log entry x) = backend x
  send : ∀ request x, (world.send request x).Leads
    (fun answer y => backend y = backend x ∨ backend y = (backend x).take request ∧
      (request.method = .get →
        ∃ response, (backend x).Shows request.url.pathChars response ∧ answer = .ok response))
    fun reason y => backend y = backend x ∨ backend y = (backend x).take request ∧
      (request.method = .get → reason.ByCaller)

/-! ## Paths of histories -/

/-- The path of the history of a session. -/
def historyPath (session : String) : List Char :=
  Url.slashed ["messages".toList, Percent.encode Percent.component session.toList]

/-- The sessions that have a path of their own. -/
structure IsSession (session : String) : Prop where
  notHere : session ≠ "."
  notAbove : session ≠ ".."

theorem historyPath_injective : Function.Injective historyPath := by
  intro a b h
  simp only [historyPath, Url.slashed, List.flatMap_cons, List.flatMap_nil, List.append_nil,
    List.append_cancel_left_eq, List.cons.injEq, true_and] at h
  exact String.toList_inj.1 (Percent.encode_injective (by decide) h)

theorem IsSession.isSettled {session : String} (h : IsSession session) :
    Url.IsSettled (Percent.encode Percent.component session.toList) := by
  refine Percent.isSettled_encode (fun heq => h.notHere ?_) fun heq => h.notAbove ?_
  · exact String.toList_inj.1 heq
  · exact String.toList_inj.1 heq

namespace Handle

/-- A handle of a session with a path of its own, with the standard path of messages. -/
structure IsOrdinary (handle : Handle) : Prop where
  path : handle.settings.messagesPath = Settings.standard.memory.messagesPath
  session : IsSession handle.sessionId

/-- The base address of a service. -/
def IsBase (base : String) : Prop :=
  ∃ text, Url.IsAuthority text ∧ base.toList = Url.httpFront ++ text

theorem isBase_normalize {address : String} (h : IsService address) :
    IsBase (normalize address) := by
  obtain ⟨text, authority, plain | slashed⟩ := h
  · refine ⟨text, authority, ?_⟩
    have last : address.toList.getLast? ≠ some '/' := by
      rw [plain, List.getLast?_append_of_ne_nil _ authority.nonEmpty]
      intro heq
      have ends := authority.goesOn '/' (List.mem_of_getLast? heq)
      revert ends
      decide
    rw [normalize, if_neg last, plain]
  · exact ⟨text, authority, by simp [normalize, slashed]⟩

variable {handle : Handle}

theorem IsOrdinary.asks (ordinary : handle.IsOrdinary) {base : String} (served : IsBase base)
    {transport : Transport} {method : Method} {headers : Headers} {body : Option String}
    {request : Request}
    (h : Request.prepare transport method (handle.messagesUrl base) headers body = .ok request) :
    request.url.pathChars = historyPath handle.sessionId := by
  obtain ⟨text, authority, hbase⟩ := served
  have messages : Url.IsSettled "messages".toList := by
    refine ⟨List.all_eq_true.1 ?_, ?_, ?_⟩ <;> decide +kernel
  refine Request.pathChars_of_prepare authority (by decide) ?_ ?_ h
  · intro part hpart
    simp only [List.mem_cons, List.not_mem_nil, or_false] at hpart
    rcases hpart with rfl | rfl
    · exact messages
    · exact ordinary.session.isSettled
  · have path : "/messages".toList = '/' :: "messages".toList := by decide
    simp [messagesUrl, ordinary.path, Settings.standard, hbase, Url.slashed, path]

/-! ## What an operation does to the service -/

open Run

section

/-- The service is in a state. -/
def At (backend : σ → Backend) (b : Backend) : Sight σ := fun w _ _ => backend w = b

theorem ensures_aside {α : Type} {backend : σ → Backend} {call : σ → Reply σ α} (b : Backend)
    (h : ∀ x, (call x).Leads (fun _ y => backend y = backend x) fun _ y => backend y = backend x) :
    Ensures (At backend b) (await call) (fun _ => At backend b) fun _ => At backend b :=
  ensures_await fun w _ _ here =>
    (h w).imp (fun _ _ same => same.trans here) fun _ _ same => same.trans here

variable {world : World σ} {emitter : Emitter} {backend : σ → Backend}
  (delivers : world.Delivers backend) (b : Backend)

include delivers

theorem ensures_log (entry : LogEntry) {broken : Abort → Sight σ} :
    Ensures (At backend b) ((world.collaborators emitter).log entry) (fun _ => At backend b) broken :=
  ensures_update _ fun s h => (delivers.log entry s.world).trans h

theorem ensures_reconcile (operation : String) :
    Ensures (At backend b) (handle.reconcile (world.collaborators emitter) operation)
      (fun r w _ _ => (∀ base, r = .ok base → IsBase base) ∧ backend w = b) fun _ => At backend b := by
  have remembers {resolved : String} (service : IsService resolved) :
      Ensures (At backend b) (do
        modifyThe HandleState fun state => { state with baseUrl := normalize resolved }
        return .ok (normalize resolved) : Run σ (Except MemoryError String))
        (fun r w _ _ => (∀ base, r = .ok base → IsBase base) ∧ backend w = b)
        fun _ => At backend b :=
    ensures_bind (ensures_modify _ fun _ _ _ h => h) fun _ => ensures_pure _ fun _ _ _ h => by
      refine ⟨?_, h⟩
      rintro base ⟨⟩
      exact isBase_normalize service
  unfold reconcile
  refine ensures_bind (ensures_aside b (delivers.get _ _)) fun read => ?_
  cases read with
  | error e => exact ensures_pure _ fun _ _ _ h => ⟨nofun, h⟩
  | ok record =>
    have resolves : Ensures (At backend b)
        ((world.collaborators emitter).resolve record.spec.address handle.namespaceName)
        (fun found w _ _ => (∀ address, found = .ok address → IsService address) ∧ backend w = b)
        fun _ => At backend b :=
      ensures_await fun w _ _ h => (delivers.resolve _ _ w).imp
        (fun _ _ hy => ⟨hy.1, hy.2.trans h⟩) fun _ _ hy => hy.trans h
    refine ensures_bind resolves fun found => ?_
    cases found with
    | error e => exact ensures_pure _ fun _ _ _ h => ⟨nofun, h.2⟩
    | ok resolved =>
      refine ensures_assume fun service => ?_
      have remembered := remembers (service resolved rfl)
      refine ensures_bind ensures_get fun state => ?_
      dsimp only
      split
      · refine ensures_bind (ensures_log delivers b _) fun _ =>
          ensures_bind (ensures_aside b (delivers.updateStatus _)) fun answer => ?_
        cases answer with
        | ok _ => exact remembered
        | error e => exact ensures_bind (ensures_log delivers b _) fun _ => remembered
      · exact remembered

/-- **An exchange gets to the service once or not at all.** If a `GET` gets there, it shows the list. -/
theorem ensures_exchange {path : List Char} {operation : String} {method : Method} {url : String}
    {header : String × String} {body : Option String}
    (asks : ∀ transport request, Request.prepare transport method url
      [header, ("user-agent", handle.settings.userAgent)] body = .ok request →
      request.url.pathChars = path) :
    Ensures (At backend b)
      (handle.exchange (world.collaborators emitter) operation method url header body)
      (fun r w _ _ => b.Hears path (Backend.offered method body)
        (method = .get → ∃ response, b.Shows path response ∧ r = .ok response) (backend w))
      fun reason w _ _ => b.Hears path (Backend.offered method body)
        (method = .get → reason.ByCaller) (backend w) := by
  have transports {broken : Abort → Sight σ} : Ensures (At backend b)
      (handle.transport : Run σ Transport) (fun _ => At backend b) broken := by
    unfold Handle.transport
    refine ensures_bind ensures_get fun state => ?_
    split
    · exact ensures_pure _ fun _ _ _ => id
    · exact ensures_bind (ensures_modify _ fun _ _ _ h => h) fun _ => ensures_pure _ fun _ _ _ => id
  unfold exchange
  refine ensures_bind transports fun transport => ?_
  dsimp only
  split
  · exact ensures_pure _ fun _ _ _ => .inl
  · rename_i request prepared
    obtain ⟨hmethod, hbody, -⟩ := Request.of_prepare prepared
    have taken : b.take request = b.append path (Backend.offered method body) := by
      rw [Backend.take, asks _ _ prepared, hmethod, hbody]
    have sends : Ensures (At backend b) ((world.collaborators emitter).send request)
        (fun answer w _ _ => b.Hears path (Backend.offered method body)
          (method = .get → ∃ response, b.Shows path response ∧ answer = .ok response) (backend w))
        fun reason w _ _ => b.Hears path (Backend.offered method body)
          (method = .get → reason.ByCaller) (backend w) := by
      refine ensures_await fun w _ _ h => ?_
      have sent := delivers.send request w
      rw [show backend w = b from h, taken, hmethod, asks _ _ prepared] at sent
      exact sent
    refine ensures_bind sends fun answer => ?_
    -- the answer to a `GET` that got there is a success, so it is the result
    cases answer with
    | error e =>
      refine ensures_pure _ fun _ _ _ heard => heard.imp fun shows' get => ?_
      obtain ⟨response, -, heq⟩ := shows' get
      cases heq
    | ok response =>
      dsimp only
      split
      · refine ensures_pure _ fun _ _ _ heard => heard.imp fun shows' get => ?_
        obtain ⟨shown, shows', heq⟩ := shows' get
        exact ⟨shown, shows', by rw [Except.ok.inj heq]⟩
      · rename_i refused
        refine ensures_pure _ fun _ _ _ heard => heard.imp fun shows' get => ?_
        obtain ⟨shown, ⟨text, -, rfl⟩, heq⟩ := shows' get
        cases heq
        exact (refused rfl).elim

theorem ensures_close : Ensures (At backend b) (handle.close (world.collaborators emitter))
    (fun _ => At backend b) fun _ => At backend b := by
  unfold close
  refine ensures_bind ensures_get fun state => ?_
  split
  · exact ensures_bind (ensures_modify _ fun _ _ _ h => h) fun _ => ensures_log delivers b _
  · exact ensures_pure _ fun _ _ _ => id

variable (ordinary : handle.IsOrdinary)

include ordinary

/-- **Adding puts messages at the end of the history of the session, or changes nothing**, however it
ends. -/
theorem ensures_putMessages (messages : List Message) :
    let heard (w : σ) := b.Hears (historyPath handle.sessionId)
      (Backend.offered .put (some (addBody messages).compact)) True (backend w)
    Ensures (At backend b) (handle.putMessages (world.collaborators emitter) messages)
      (fun _ w _ _ => heard w) fun _ w _ _ => heard w := by
  intro heard
  unfold putMessages
  refine ensures_bind ((ensures_reconcile delivers b _).imp (fun _ _ _ => id) (fun _ _ _ _ => id)
    fun _ _ _ _ => .inl) fun base => ?_
  cases base with
  | error e => exact ensures_pure _ fun _ _ _ h => .inl h.2
  | ok base =>
    refine ensures_assume fun served => ?_
    refine ensures_bind (ensures_log delivers b _) fun _ => ?_
    refine ensures_bind ((ensures_exchange delivers b fun _ _ =>
      ordinary.asks (served base rfl)).imp (fun _ _ _ => id)
      (fun _ _ _ _ heard => heard.imp fun _ => trivial)
      fun _ _ _ _ heard => heard.imp fun _ => trivial) fun answer => ?_
    cases answer <;> exact ensures_pure _ fun _ _ _ => id

/-- **Getting decodes what the service shows, unless nothing gets there or the caller stops it.** -/
theorem ensures_fetchMessages :
    Ensures (At backend b) (handle.fetchMessages (world.collaborators emitter))
      (fun r w _ _ => b.Hears (historyPath handle.sessionId) []
        (∃ text, Json.Spells (b.shown (historyPath handle.sessionId)) text ∧
          r = handle.decodeHistory (Utf8.encode text)) (backend w))
      fun reason w _ _ =>
        b.Hears (historyPath handle.sessionId) [] reason.ByCaller (backend w) := by
  unfold fetchMessages
  refine ensures_bind ((ensures_reconcile delivers b _).imp (fun _ _ _ => id) (fun _ _ _ _ => id)
    fun _ _ _ _ => .inl) fun base => ?_
  cases base with
  | error e => exact ensures_pure _ fun _ _ _ h => .inl h.2
  | ok base =>
    refine ensures_assume fun served => ?_
    refine ensures_bind (ensures_log delivers b _) fun _ => ?_
    refine ensures_bind ((ensures_exchange delivers b fun _ _ =>
      ordinary.asks (served base rfl)).imp (fun _ _ _ => id)
      (fun _ _ _ _ heard => heard.imp fun get => get rfl)
      fun _ _ _ _ heard => heard.imp fun get => get rfl) fun answer => ?_
    cases answer with
    | error e =>
      refine ensures_pure _ fun _ _ _ heard => heard.imp ?_
      rintro ⟨response, -, ⟨⟩⟩
    | ok response =>
      dsimp only
      split
      · rename_i causes lost
        refine ensures_pure _ fun _ _ _ heard => heard.imp ?_
        rintro ⟨_, ⟨text, -, rfl⟩, ⟨⟩⟩
        cases lost
      · rename_i bytes whole
        refine ensures_pure _ fun _ _ _ heard => heard.imp ?_
        rintro ⟨_, ⟨text, spells, rfl⟩, ⟨⟩⟩
        cases whole
        exact ⟨text, spells, rfl⟩

/-- **Adding adds these messages to the history of the session, or changes nothing.** -/
theorem ensures_perform_add (context : OperationContext) {messages : List Message}
    (carried : ∀ message ∈ messages, message.IsCarried) :
    let heard (w : σ) :=
      b.Hears (historyPath handle.sessionId) (messages.map Message.stored) True (backend w)
    Ensures (At backend b) (handle.perform (world.collaborators .recording) context (.add messages))
      (fun _ w _ _ => heard w) fun _ w _ _ => heard w := by
  intro heard
  have offered : Backend.offered .put (some (addBody messages).compact) =
      messages.map Message.stored := by
    simp [Backend.offered, Message.parse_addBody carried, Except.toOption, Json.field?,
      Entries.get?_cons]
  refine ensures_map ?_
  by_cases empty : messages = []
  · subst empty
    exact ensures_pure _ fun _ _ _ => .inl
  · rw [addMessages, if_neg (by simpa using empty)]
    have body : Ensures (At backend b) (handle.putMessages (world.collaborators .recording) messages)
        _ _ := ensures_putMessages delivers b ordinary messages
    rw [offered] at body
    refine (handle.ensures_track_body (handle.built_putMessages messages).silent body
      fun _ _ _ => .inl).imp (fun _ _ _ => id) (fun _ w _ _ h => ?_) fun _ _ _ _ => id
    rcases h with ended | ⟨-, -, stopped⟩
    · exact ended
    · exact stopped

/-- **Getting gives the messages that the service holds for the session**, unless nothing gets there
or the caller stops it. -/
theorem ensures_perform_get (context : OperationContext) {messages : List Message}
    (carried : ∀ message ∈ messages, message.IsCarried)
    (held : b.histories (historyPath handle.sessionId) = messages.map Message.stored) :
    Ensures (At backend b) (handle.perform (world.collaborators .recording) context .get)
      (fun r w _ _ => b.Hears (historyPath handle.sessionId) []
        (r = .ok (.history messages) ∨ Interrupted r) (backend w))
      fun reason w _ _ =>
        b.Hears (historyPath handle.sessionId) [] reason.ByCaller (backend w) := by
  have body : Ensures (At backend b) (handle.fetchMessages (world.collaborators .recording)) _ _ :=
    ensures_fetchMessages delivers b ordinary
  refine ensures_map ((handle.ensures_track_body handle.built_fetchMessages.silent body
    fun _ _ _ => .inl).imp (fun _ _ _ => id) (fun r w _ _ h => ?_) fun _ _ _ _ => id)
  rcases h with heard | ⟨⟨operation, target, reason, rfl⟩, _, heard⟩
  · refine heard.imp ?_
    rintro ⟨text, spells, rfl⟩
    rw [Backend.shown, held] at spells
    rw [Message.decodeHistory_stored carried handle spells]
    exact .inl rfl
  · exact heard.imp fun _ => .inr ⟨_, _, _, rfl⟩

end

end Handle

end ConversationMemory
