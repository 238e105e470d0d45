import ConversationMemory.Handle
import ConversationMemory.Json.Printer

/-!
# Adding and getting messages

* `Handle.reconcile`: reads the record, resolves its address, remembers it, and writes it back when
  it has changed. A failed write changes nothing for the caller.
* `Handle.messagesUrl`: the address of the history of the session.
* `Handle.addMessages`, `Handle.getMessages`, `Handle.close`: the operations, each with its
  telemetry.
* `decodeHistory`: all messages of an answer, or the first one that is none.
-/

namespace ConversationMemory

namespace Handle

variable {m : Type → Type} [Monad m] [MonadStateOf HandleState m]

/-! ## The address of the service -/

/-- The record with an address that was found to have changed. -/
def drifted (record : MemoryRecord) (resolved : String) : MemoryRecord :=
  { record with
    status :=
      { lastResolvedAddress := some resolved
        message := some s!"Address dynamically resolved to: {resolved}" } }

/-- The entry about an address that has changed. -/
def driftEntry (handle : Handle) (current next : String) : LogEntry :=
  ⟨.info, s!"[HttpMemory] Address of '{handle.target}' changed from {current} to {next}", []⟩

/-- The entry about an address that could not be written back. -/
def driftLostEntry (handle : Handle) (resolved : String) (e : StoreError) : LogEntry :=
  ⟨.error, s!"[HttpMemory] Failed to update memory status with new address: {e.message}",
    [("memory", .text handle.name), ("namespace", .text handle.namespaceName),
      ("new_address", .text resolved)]⟩

/-- The base address for an operation, resolved afresh and remembered. Nothing is remembered when
the record cannot be read or its address not be resolved. -/
def reconcile (handle : Handle) (c : Collaborators m) (operation : String) :
    m (Except MemoryError String) := do
  match ← c.get handle.name handle.namespaceName with
  | .error e => return .error (.configuration operation handle.target e)
  | .ok record =>
    match ← c.resolve record.spec.address handle.namespaceName with
    | .error e => return .error (.resolution operation handle.target e)
    | .ok resolved =>
      let next := normalize resolved
      let current := normalize (← getThe HandleState).baseUrl
      if current ≠ next then
        c.log (handle.driftEntry current next)
        match ← c.updateStatus (drifted record resolved) with
        | .ok () => pure ()
        | .error e => c.log (handle.driftLostEntry resolved e)
      modifyThe HandleState fun state => { state with baseUrl := next }
      return .ok next

/-- The address of the history of the session. -/
def messagesUrl (handle : Handle) (baseUrl : String) : String :=
  baseUrl ++ handle.settings.messagesPath ++ "/" ++
    String.ofList (Percent.encode Percent.component handle.sessionId.toList)

/-! ## Requests -/

/-- The transport: the open one, or else the one that the caller gave, or a new one. -/
def transport (handle : Handle) : m Transport := do
  match (← getThe HandleState).transport with
  | some transport => return transport
  | none =>
    let transport := handle.shared.getD { timeout := handle.settings.requestTimeout }
    modifyThe HandleState fun state => { state with transport := some transport }
    return transport

/-- Sends a request to the history of the session, and gives the answer if it is a success. -/
def exchange (handle : Handle) (c : Collaborators m) (operation : String) (method : Method)
    (url : String)
    (header : String × String) (body : Option String) : m (Except MemoryError Response) := do
  let transport ← handle.transport
  let headers := [header, ("user-agent", handle.settings.userAgent)]
  match Request.prepare transport method url headers body with
  | .error e => return .error (.transport operation handle.target e)
  | .ok request =>
    match ← c.send request with
    | .error e => return .error (.transport operation handle.target e)
    | .ok response =>
      if response.isSuccess then return .ok response
      else return .error (.backend operation handle.target response.status)

/-- How messages are written and read. -/
def mediaType : String := "application/json"

/-- The name of adding in errors and events. -/
def addOperation : String := "MemoryAddMessages"

/-- The name of getting in errors and events. -/
def getOperation : String := "MemoryGetMessages"

/-- The body of a request that adds messages. -/
def addBody (messages : List Message) : Json :=
  .object [("messages", .array (messages.map Message.toJson))]

/-- Appends messages to the history. -/
def putMessages (handle : Handle) (c : Collaborators m) (messages : List Message) :
    m (Except MemoryError Unit) := do
  match ← handle.reconcile c addOperation with
  | .error e => return .error e
  | .ok baseUrl =>
    let url := handle.messagesUrl baseUrl
    c.log ⟨.debug, s!"[HttpMemory] PUT {url} ({messages.length} messages)", []⟩
    let body := (addBody messages).compact
    match ← handle.exchange c addOperation .put url ("content-type", mediaType) (some body) with
    | .error e => return .error e
    | .ok _ => return .ok ()

/-! ## Answers -/

open Json.Decoder in
/-- Reads the list of raw messages of an answer; without one there are none. -/
def rawHistory : Json.Decoder (List Json) :=
  record "MessagesResponse" [defaulted "messages" value.list fun raw _ => raw] []

/-- The messages of raw values, or the index of the first one that is none. -/
def messagesFrom (index : Nat) : List Json → Except (Nat × Message.Refusal) (List Message)
  | [] => .ok []
  | raw :: rest =>
    match Message.ofValue raw with
    | .error refusal => .error (index, refusal)
    | .ok message =>
      match messagesFrom (index + 1) rest with
      | .error e => .error e
      | .ok messages => .ok (message :: messages)

/-- All messages in the body of an answer. -/
def decodeHistory (handle : Handle) (bytes : List UInt8) : Except MemoryError (List Message) :=
  match rawHistory.decodeBytes bytes with
  | .error fault => .error (.decode getOperation handle.target none fault.message)
  | .ok raw =>
    match messagesFrom 0 raw with
    | .error (index, refusal) =>
      .error (.decode getOperation handle.target (some index) refusal.message)
    | .ok messages => .ok messages

/-- Fetches the history. -/
def fetchMessages (handle : Handle) (c : Collaborators m) :
    m (Except MemoryError (List Message)) := do
  match ← handle.reconcile c getOperation with
  | .error e => return .error e
  | .ok baseUrl =>
    let url := handle.messagesUrl baseUrl
    c.log ⟨.debug, s!"[HttpMemory] GET {url}", []⟩
    match ← handle.exchange c getOperation .get url ("accept", mediaType) none with
    | .error e => return .error e
    | .ok response =>
      match response.body with
      | .lost causes =>
        return .error (.transport getOperation handle.target { stage := .receiving, causes })
      | .whole bytes => return handle.decodeHistory bytes

/-! ## Operations -/

/-- Runs the body of an operation in its scope, between the event that it has started and the one
event that ends it. `finish` names what the end adds to the metadata, and the message of the end. -/
def track {α : Type} (handle : Handle) (c : Collaborators m) (context : OperationContext)
    (operation : String) (metadata : Entries String) (finish : α → Entries String × String)
    (body : m (Except MemoryError α)) : m (Except MemoryError α) := do
  let tracker : Tracker := ⟨operation, handle.name, metadata⟩
  c.emit tracker.started
  let outcome ← c.within context handle.settings.operationTimeout body
  let elapsed ← c.elapsed
  let fail (e : MemoryError) : m (Except MemoryError α) := do
    c.emit (tracker.failed e.message elapsed)
    return .error e
  match outcome with
  | .ok (.ok a) =>
    let (added, message) := finish a
    let tracker := added.foldl (fun tracker (key, value) => tracker.setMetadata key value) tracker
    c.emit (tracker.completed message elapsed)
    return .ok a
  | .ok (.error e) => fail e
  | .error (.interrupted interrupt) => fail (.cancelled operation handle.target interrupt.message)
  | .error abort =>
    c.emit (tracker.dropped elapsed)
    c.leave abort

/-- What every event of the handle tells. -/
def baseMetadata (handle : Handle) : Entries String :=
  .ofList [("namespace", handle.namespaceName), ("sessionId", handle.sessionId)]

/-- Appends messages to the history of the session, in order. Without messages nothing happens at
all. -/
def addMessages (handle : Handle) (c : Collaborators m) (context : OperationContext)
    (messages : List Message) : m (Except MemoryError Unit) :=
  if messages.isEmpty then return .ok ()
  else
    handle.track c context addOperation
      (handle.baseMetadata.insert "messages" (toString messages.length))
      (fun _ => ([], "messages added")) (handle.putMessages c messages)

/-- Fetches the whole history of the session: every message, or none. -/
def getMessages (handle : Handle) (c : Collaborators m) (context : OperationContext) :
    m (Except MemoryError (List Message)) :=
  handle.track c context getOperation handle.baseMetadata
    (fun messages => ([("messages", toString messages.length)], "retrieved"))
    (handle.fetchMessages c)

/-- Closes the transport; the next operation opens one again. -/
def close (handle : Handle) (c : Collaborators m) : m Unit := do
  if (← getThe HandleState).transport.isSome then
    modifyThe HandleState fun state => { state with transport := none }
    c.log ⟨.debug, s!"[HttpMemory] Closed transport for '{handle.target}'", []⟩

end Handle

end ConversationMemory
