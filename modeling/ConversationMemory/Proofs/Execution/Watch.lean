import ConversationMemory.Proofs.Execution.Reach
import ConversationMemory.Execution.Site

/-!
# Watching the calls to a world

* `Call`: one call to the world with its answer, if the caller has got one.
* `World.watched`: the world together with the list of all calls that have been made to it; watching
  changes no answer (`answers_noted`).
* `statusWrites`, `requests`, `resolvedAddresses`: what a list of calls has written back, sent and
  been told.
* `World.beside`: a world whose network is a part of its own.
-/

namespace ConversationMemory

variable {σ ν α : Type}

/-- A call to the world. There is no answer when the caller has left or the world has broken down.
-/
inductive Call
  | get (name namespaceName : String) (answer : Option (Except StoreError MemoryRecord))
  | resolve (spec : AddressSpec) (namespaceName : String)
      (answer : Option (Except ResolveError String))
  | updateStatus (record : MemoryRecord) (answer : Option (Except StoreError Unit))
  | send (request : Request) (answer : Option (Except TransportError Response))

namespace Call

/-- Whether the call writes a status back. -/
def isStatusWrite : Call → Bool
  | updateStatus .. => true
  | _ => false

/-- The request that is sent. -/
def request? : Call → Option Request
  | send request _ => some request
  | _ => none

/-- The address that a specification was resolved to. -/
def resolved? : Call → Option String
  | resolve _ _ (some (.ok address)) => some address
  | _ => none

end Call

/-- The number of calls that write a status back. -/
def statusWrites (calls : List Call) : Nat := calls.countP Call.isStatusWrite

/-- The requests that are sent, in order. -/
def requests (calls : List Call) : List Request := calls.filterMap Call.request?

/-- The addresses that specifications were resolved to, in order. -/
def resolvedAddresses (calls : List Call) : List String := calls.filterMap Call.resolved?

theorem statusWrites_append (calls more : List Call) :
    statusWrites (calls ++ more) = statusWrites calls + statusWrites more :=
  List.countP_append

theorem requests_append (calls more : List Call) :
    requests (calls ++ more) = requests calls ++ requests more :=
  List.filterMap_append

theorem resolvedAddresses_append (calls more : List Call) :
    resolvedAddresses (calls ++ more) = resolvedAddresses calls ++ resolvedAddresses more :=
  List.filterMap_append

/-! ## The watched world -/

/-- A reply with the call noted down. -/
def Reply.noted (call : Option α → Call) (calls : List Call) : Reply σ α → Reply (σ × List Call) α
  | atOnce answer world => atOnce answer (world, calls ++ [call (some answer)])
  | afterWait milliseconds answer world left =>
    afterWait milliseconds answer (world, calls ++ [call (some answer)]) (left, calls ++ [call none])
  | never left => never (left, calls ++ [call none])
  | crash world => crash (world, calls ++ [call none])

/-- The world with a list of the calls that have been made to it. -/
def World.watched (world : World σ) : World (σ × List Call) where
  get name namespaceName x :=
    (world.get name namespaceName x.1).noted (.get name namespaceName) x.2
  updateStatus record x := (world.updateStatus record x.1).noted (.updateStatus record) x.2
  resolve spec namespaceName x :=
    (world.resolve spec namespaceName x.1).noted (.resolve spec namespaceName) x.2
  send request x := (world.send request x.1).noted (.send request) x.2
  log entry x := (world.log entry x.1, x.2)

theorem Reply.answers_noted {reply : Reply σ α} {call : Option α → Call} {calls : List Call} {a : α}
    {y : σ × List Call} :
    (reply.noted call calls).Answers a y ↔
      reply.Answers a y.1 ∧ y.2 = calls ++ [call (some a)] := by
  obtain ⟨world, after⟩ := y
  cases reply <;> simp only [noted, Answers, Prod.mk.injEq, false_and]
  all_goals
    constructor
    · rintro ⟨rfl, rfl, rfl⟩
      exact ⟨⟨rfl, rfl⟩, rfl⟩
    · rintro ⟨⟨rfl, rfl⟩, rfl⟩
      exact ⟨rfl, rfl, rfl⟩

theorem World.Serves.watched {world : World σ} {fresh written : σ → Prop}
    (serves : world.Serves fresh written) :
    world.watched.Serves (fun x => fresh x.1) (fun x => written x.1) where
  get name namespaceName x hx :=
    let ⟨a, y, answered, hy⟩ := serves.get name namespaceName x.1 hx
    ⟨a, (y, _), Reply.answers_noted.2 ⟨answered, rfl⟩, hy⟩
  resolve spec namespaceName x hx :=
    let ⟨a, y, answered, hy⟩ := serves.resolve spec namespaceName x.1 hx
    ⟨a, (y, _), Reply.answers_noted.2 ⟨answered, rfl⟩, hy⟩
  updateStatus record x hx :=
    let ⟨a, y, answered, hy⟩ := serves.updateStatus record x.1 hx
    ⟨a, (y, _), Reply.answers_noted.2 ⟨answered, rfl⟩, hy⟩
  send request x hx :=
    let ⟨a, y, answered⟩ := serves.send request x.1 hx
    ⟨a, (y, _), Reply.answers_noted.2 ⟨answered, rfl⟩⟩
  log_fresh entry x hx := serves.log_fresh entry x.1 hx
  log_written entry x hx := serves.log_written entry x.1 hx

/-! ## A network of its own -/

/-- The world with another network, which is a part of its own: what is asked of the one part
changes nothing about the other. -/
def World.beside (world : World σ) (network : Network ν) : World (σ × ν) where
  get name namespaceName x := (world.get name namespaceName x.1).within (·, x.2)
  updateStatus record x := (world.updateStatus record x.1).within (·, x.2)
  resolve spec namespaceName x := (world.resolve spec namespaceName x.1).within (·, x.2)
  send request x := (network request x.2).within (x.1, ·)
  log entry x := (world.log entry x.1, x.2)

theorem Reply.answers_within {τ : Type} {reply : Reply σ α} {put : σ → τ} {a : α} {y : τ} :
    (reply.within put).Answers a y ↔ ∃ x, reply.Answers a x ∧ put x = y := by
  cases reply <;> simp only [within, Answers, false_and, exists_false]
  all_goals
    constructor
    · rintro ⟨rfl, rfl⟩
      exact ⟨_, ⟨rfl, rfl⟩, rfl⟩
    · rintro ⟨x, ⟨rfl, rfl⟩, rfl⟩
      exact ⟨rfl, rfl⟩

theorem Reply.network_of_answers {reply : Reply σ α} {n : ν} {call : Option α → Call}
    {calls : List Call} {a : α} {y : (σ × ν) × List Call}
    (h : ((reply.within (·, n)).noted call calls).Answers a y) : y.1.2 = n := by
  obtain ⟨answered, -⟩ := answers_noted.1 h
  obtain ⟨x, -, hx⟩ := answers_within.1 answered
  exact congrArg Prod.snd hx.symm

end ConversationMemory
