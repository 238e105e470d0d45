import ConversationMemory.Execution
import ConversationMemory.Store.FileBacked

/-!
# A site: files and a network

* `Site`: a store in files beside a network in some state. `Network`: how the network takes
  requests.
* `Site.world`: the world that consists of both.
* `Network.offline`: the network that nothing can be reached by.
* `Network.replay`: the network that gives answers which are known already, and keeps the first
  request that it has no answer for.
-/

namespace ConversationMemory

/-- How a network takes requests. -/
def Network (ν : Type) : Type := Request → ν → Reply ν (Except TransportError Response)

/-- The network that nothing can be reached by. -/
def Network.offline {ν : Type} : Network ν := fun request network =>
  let causes :=
    ["client error (Connect)", "tcp connect error", "Network is unreachable (os error 101)"]
  .afterWait 0 (.error (request.notSent causes)) network network

/-- Answers that are known, each with the milliseconds that it took, and a request that waits for
one. -/
structure Recording where
  answers : List (Nat × Except TransportError Response) := []
  unanswered : Option Request := none

/-- The network that gives the answers of a recording in order. -/
def Network.replay : Network Recording := fun request recording =>
  match recording.answers with
  | (milliseconds, answer) :: rest =>
    let after := { recording with answers := rest }
    .afterWait milliseconds answer after after
  | [] => .never { recording with unanswered := some request }

/-- A reply in a part of the world, the rest of which stays as it is. -/
def Reply.within {σ τ α : Type} (put : σ → τ) : Reply σ α → Reply τ α
  | atOnce answer world => atOnce answer (put world)
  | afterWait milliseconds answer world left => afterWait milliseconds answer (put world) (put left)
  | never left => never (put left)
  | crash world => crash (put world)

/-- A store in files beside a network in some state. -/
structure Site (ν : Type) where
  store : FileBacked
  network : ν

namespace Site

variable {ν : Type}

/-- An answer from the files, for which the caller has to wait. -/
def answer {α : Type} (a : α) (after before : Site ν) : Reply (Site ν) α :=
  .afterWait 0 a after before

/-- The world of a site. Its files answer in no time, so that no deadline falls into a status write.
What is written to the log is lost. -/
def world (network : Network ν) : World (Site ν) where
  get name namespaceName site := answer (site.store.get name namespaceName) site site
  updateStatus record site :=
    let (ending, store) := site.store.updateStatus record
    let after := { site with store }
    match ending with
    | .done _ => answer (.ok ()) after site
    | .failed e => answer (.error e) after site
    | .crashed => .crash after
  resolve spec namespaceName site :=
    answer (Resolver.resolve { values := some site.store.configValue } spec namespaceName) site site
  send request site := (network request site.network).within fun network => { site with network }
  log _ site := site

end Site

end ConversationMemory
