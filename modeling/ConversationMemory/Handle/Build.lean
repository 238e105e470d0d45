import ConversationMemory.Handle

/-!
# Building handles

* `HandleSpec`: what a handle is built from.
* `HandleSpec.check`: the name and the namespace must be given; nothing is read before that is
  clear.
* `HandleSpec.ofRecord`: the handle for the record, if it has been resolved and there is a session.
* `HandleSpec.build`: both, with the one look at the record between them.
-/

namespace ConversationMemory

/-- What a handle is built from. -/
structure HandleSpec where
  name : String := ""
  namespaceName : String := ""
  sessionId : Option String := none
  settings : Option MemoryConfig := none
  shared : Option Transport := none

namespace HandleSpec

/-- The name of the construction in errors. -/
def operation : String := "NewHTTPMemory"

/-- Namespace and name, by which errors name the memory. -/
def target (spec : HandleSpec) : String := spec.namespaceName ++ "/" ++ spec.name

/-- Refuses a missing locator, name or namespace, in this order. -/
def check (spec : HandleSpec) (hasLocator : Bool) : Except MemoryError Unit :=
  if !hasLocator then .error (.invalidArgument "a resource locator is required")
  else if spec.name.isEmpty then .error (.invalidArgument "memory name must not be empty")
  else if spec.namespaceName.isEmpty then .error (.invalidArgument "namespace must not be empty")
  else .ok ()

/-- The session: the one that was asked for, or else the identity of the record. -/
def sessionFor (spec : HandleSpec) (record : MemoryRecord) : Option String :=
  (nonEmpty? spec.sessionId).or (nonEmpty? (some record.metadata.uid))

/-- The handle for a record, in its first state. -/
def ofRecord (spec : HandleSpec) (record : MemoryRecord) :
    Except MemoryError (Handle × HandleState) :=
  match nonEmpty? record.status.lastResolvedAddress with
  | none => .error (.notReady spec.target)
  | some address =>
    match spec.sessionFor record with
    | none =>
      .error (.invalidArgument s!"memory {spec.target} has no uid and no session id was given")
    | some sessionId =>
      let handle : Handle :=
        { name := spec.name, namespaceName := spec.namespaceName, sessionId,
          settings := spec.settings.getD Settings.standard.memory, shared := spec.shared }
      .ok (handle, ⟨normalize address, spec.shared⟩)

/-- The entry about a handle that was built. -/
def buildEntry (handle : Handle) (state : HandleState) : LogEntry :=
  let shown := s!"'{handle.target}' (session '{handle.sessionId}') at {state.baseUrl}"
  ⟨.debug, "[HttpMemory] Created client for " ++ shown, []⟩

/-- Builds a handle; the record is read once, and only when the arguments allow it. -/
def build {m : Type → Type} [Monad m] (c : Collaborators m) (hasLocator : Bool)
    (spec : HandleSpec) :
    m (Except MemoryError (Handle × HandleState)) := do
  match spec.check hasLocator with
  | .error e => return .error e
  | .ok () =>
    match ← c.get spec.name spec.namespaceName with
    | .error e => return .error (.configuration operation spec.target e)
    | .ok record =>
      match spec.ofRecord record with
      | .error e => return .error e
      | .ok (handle, state) =>
        c.log (buildEntry handle state)
        return .ok (handle, state)

end HandleSpec

end ConversationMemory
