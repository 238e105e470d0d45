import ConversationMemory.Handle

/-!
# Execution in a world of one's own choice

Operations run step by step in a world whose answers, delays and breakdowns are given as functions.

* `World`: how everything outside of a handle behaves. `Reply`: one answer, at once, after a wait,
  or never.
* `Run`: a computation that may be stopped while it waits: `Run.await` looks at the scope before
  each wait ends.
* `World.collaborators`: the world as what the operations of a handle call upon.
-/

namespace ConversationMemory

/-- How a call to the world goes. While the caller waits it may leave; `left` is the world it leaves
behind. -/
inductive Reply (σ α : Type)
  | atOnce (answer : α) (world : σ)
  | afterWait (milliseconds : Nat) (answer : α) (world left : σ)
  | never (left : σ)
  | crash (world : σ)

/-- A call that ends at once. -/
def Reply.ofEnding {σ ε α : Type} (ending : Ending ε α) (world : σ) : Reply σ (Except ε α) :=
  match ending with
  | .done a => .atOnce (.ok a) world
  | .failed e => .atOnce (.error e) world
  | .crashed => .crash world

/-- How everything outside of a handle behaves, over states `σ`. -/
structure World (σ : Type) where
  get : String → String → σ → Reply σ (Except StoreError MemoryRecord)
  updateStatus : MemoryRecord → σ → Reply σ (Except StoreError Unit)
  resolve : AddressSpec → String → σ → Reply σ (Except ResolveError String)
  send : Request → σ → Reply σ (Except TransportError Response)
  /-- Writes to the log. -/
  log : LogEntry → σ → σ

/-- Where events go. -/
inductive Emitter
  | recording
  | logging
  deriving DecidableEq, Repr

/-- The state of a running operation. -/
structure Running (σ : Type) where
  world : σ
  handle : HandleState
  /-- The time in milliseconds. -/
  now : Nat
  started : Nat := 0
  /-- How often the operation has waited. -/
  waits : Nat := 0
  events : List OperationEvent := []

/-- What may stop a running operation. -/
structure Scope where
  context : OperationContext := {}
  /-- The wait during which the caller loses interest. -/
  dropAt : Option Nat := none

/-- A computation in a world. -/
def Run (σ α : Type) : Type := Scope → Running σ → Except Abort α × Running σ

namespace Run

variable {σ α β : Type}

instance : Monad (Run σ) where
  pure a := fun _ s => (.ok a, s)
  bind x f := fun scope s =>
    match x scope s with
    | (.ok a, s) => f a scope s
    | (.error abort, s) => (.error abort, s)

instance : MonadStateOf HandleState (Run σ) where
  get := fun _ s => (.ok s.handle, s)
  set handle := fun _ s => (.ok (), { s with handle })
  modifyGet f := fun _ s =>
    let (a, handle) := f s.handle
    (.ok a, { s with handle })

/-- Changes the state of the run. -/
def update (f : Running σ → Running σ) : Run σ Unit := fun _ s => (.ok (), f s)

/-- Ends the run. -/
def abort (reason : Abort) : Run σ α := fun _ s => (.error reason, s)

/-- Waits until a time, or for ever. The caller may lose interest, or the scope may stop the
operation before that; otherwise the wait goes on to `next`. -/
def waitUntil (time : Option Nat) (left : σ) (next : Running σ → Except Abort α × Running σ) :
    Scope → Running σ → Except Abort α × Running σ := fun scope s =>
  let waited := { s with waits := s.waits + 1 }
  if scope.dropAt = some s.waits then (.error .dropped, { waited with world := left })
  else
    match scope.context.stopsAt, time with
    | some stop, some time =>
      if stop ≤ time then stopAt scope waited stop else next { waited with now := time }
    | some stop, none => stopAt scope waited stop
    | none, some time => next { waited with now := time }
    | none, none => (.error .stuck, { waited with world := left })
where
  /-- Stops the operation at a time. -/
  stopAt (scope : Scope) (s : Running σ) (time : Nat) : Except Abort α × Running σ :=
    let s := { s with world := left, now := max s.now time }
    match scope.context.interruptAt time with
    | some interrupt => (.error (.interrupted interrupt), s)
    | none => (.error .stuck, s)

/-- Calls the world and waits for its answer. -/
def await (call : σ → Reply σ α) : Run σ α := fun scope s =>
  match call s.world with
  | .atOnce answer world => (.ok answer, { s with world })
  | .afterWait milliseconds answer world left =>
    waitUntil (some (s.now + milliseconds)) left (fun s => (.ok answer, { s with world })) scope s
  | .never left => waitUntil none left (fun s => (.error .stuck, s)) scope s
  | .crash world => (.error .crashed, { s with world })

/-- Runs a computation in a scope that it looks at before anything else. -/
def within (context : OperationContext) (timeout : Option Nat) (body : Run σ α) :
    Run σ (Except Abort α) := fun scope s =>
  let context := context.orTimeout s.now timeout
  let s := { s with started := s.now, waits := 0 }
  match context.interruptAt s.now with
  | some interrupt => (.ok (.error (.interrupted interrupt)), s)
  | none =>
    let (result, s) := body { scope with context } s
    (.ok result, s)

end Run

/-- The world as what the operations of a handle call upon. -/
def World.collaborators {σ : Type} (world : World σ) (emitter : Emitter) :
    Collaborators (Run σ) where
  get name namespaceName := .await (world.get name namespaceName)
  updateStatus record := .await (world.updateStatus record)
  resolve spec namespaceName := .await (world.resolve spec namespaceName)
  send request := .await (world.send request)
  emit event := .update fun s =>
    match emitter with
    | .recording => { s with events := s.events ++ [event] }
    | .logging => { s with world := world.log event.toLog s.world }
  log entry := .update fun s => { s with world := world.log entry s.world }
  within context timeout body := .within context timeout body
  elapsed := fun _ s => (.ok ⟨(s.now - s.started) / 1000, (s.now - s.started) % 1000 * 1000000⟩, s)
  leave reason := .abort reason

end ConversationMemory
