import ConversationMemory.CommandLine.Commands
import ConversationMemory.CommandLine.Transcript
import ConversationMemory.Execution.Site
import ConversationMemory.Settings.EnvironmentFile
import ConversationMemory.Settings.Load

/-!
# The command line

* `CommandLine.Call`: everything that a call of the program is made with. `CommandLine.Ended`: how
  it ends.
* `CommandLine.perform`: carries a command out at a site.
* `CommandLine.run`: the whole call: the environment, the settings, the arguments, the store, the
  command.
-/

namespace ConversationMemory.CommandLine

/-- Everything that a call of the program is made with. -/
structure Call where
  /-- The directory in which it is made. -/
  tree : FileTree
  environment : Entries String
  arguments : List String
  input : String

/-- How a call ends, and what it has printed. -/
structure Ended where
  code : Nat
  output : String := ""
  errors : String := ""
  deriving DecidableEq, Repr

namespace Ended

/-- A call that went well. -/
def well (output : String) : Ended := { code := 0, output }

/-- A command that failed. -/
def failed (colours : Bool) (e : Failure) : Ended :=
  { code := 1, errors := failure colours ("Error: " ++ e.chain) }

/-- A call that failed before its command began. -/
def early (e : Failure) : Ended := { code := 1, errors := "Error: " ++ e.report ++ "\n" }

/-- A call that broke down. -/
def broken : Ended := { code := 101 }

end Ended

variable {ν : Type}

/-! ## Commands at a site -/

/-- Runs a command on a memory, and says how its result is shown. -/
def operate {α : Type} (colours : Bool) (network : Network ν) (site : Site ν)
    (command : Collaborators (Run (Site ν)) → Run (Site ν) (Except MemoryError α))
    (shown : α → String) :
    Ended × Site ν :=
  let running : Running (Site ν) := { world := site, handle := ⟨"", none⟩, now := 0 }
  let (result, after) := command ((Site.world network).collaborators .logging) {} running
  let ended := match result with
    | .ok (.ok a) => .well (shown a)
    | .ok (.error e) => .failed colours (.ofMemory e)
    | .error _ => .broken
  (ended, after.world)

/-- What is said about added messages. -/
def addedText (handle : Handle) (count : Nat) : String :=
  s!"Added {count} messages to session '{handle.sessionId}'"

/-- What is said about a registered memory. -/
def registeredText (address : String) (stored : MemoryRecord) : String :=
  s!"Registered {stored.target} at {address} (version {stored.metadata.resourceVersion.toNat})"

/-- A record in its raw form under its name. -/
def recordText (colours : Bool) (record : MemoryRecord) : String :=
  header colours ("Memory " ++ record.target) ++ record.toJson.pretty ++ "\n"

/-- Messages in their raw form, or as a transcript. -/
def messagesText (colours json : Bool) (handle : Handle) (messages : List Message) : String :=
  if json then (Json.array (messages.map Message.toJson)).pretty ++ "\n"
  else transcript colours handle.sessionId messages

/-- Carries a command out at a site. -/
def perform (colours : Bool) (settings : MemoryConfig) (network : Network ν) (input : String)
    (site : Site ν) :
    Command → Ended × Site ν
  | .add target session file =>
    match messagesOf site.store.tree input file with
    | .error e => (.failed colours e, site)
    | .ok messages =>
      operate colours network site (addMessages · settings target session messages) fun handle =>
        success colours (addedText handle messages.length)
  | .get target session json =>
    operate colours network site (getMessages · settings target session) fun (handle, messages) =>
      messagesText colours json handle messages
  | .show target =>
    match site.store.get target.name target.namespaceName with
    | .error e => (.failed colours (.ofStore e), site)
    | .ok record => (.well (recordText colours record), site)
  | .register target address =>
    let (ending, store) := register site.store target address
    let ended := match ending with
      | .done stored => .well (success colours (registeredText address stored))
      | .failed e => .failed colours (.ofStore e)
      | .crashed => .broken
    (ended, { site with store })

/-! ## Calls -/

/-- The environment of a call, with the variables of the file `.env`. -/
def Call.extended (call : Call) : Entries String :=
  match call.tree.readBytes [".env"] with
  | .ok bytes => EnvironmentFile.extend call.environment bytes
  | .error _ => call.environment

/-- The end of a call whose arguments ask for no command. -/
def stopped : Stop → Ended
  | .shows text => .well text
  | .misuse reason =>
    { code := 2, errors := s!"error: {reason.message}\n\nFor more information, try '--help'.\n" }

/-- The directory of the store. -/
def storeRoot (invocation : Invocation) (settings : Settings) : WrittenPath :=
  .ofText (invocation.store.getD settings.storeRoot)

/-- The files of a memory in a store: its record, and the values that the record refers to. -/
def recordFiles (store : FileBacked) (target : Target) : List TreePath :=
  let values := match store.get target.name target.namespaceName with
    | .ok record =>
      match record.spec.address.source? with
      | some (.key kind ref) =>
        (store.valuesPath kind ref.name target.namespaceName).toOption.toList
      | _ => []
    | .error _ => []
  (store.recordPath target.name target.namespaceName).toOption.toList ++ values

/-- The files that a call looks at in the directory of the store and beside it. -/
def filesOf (tree : FileTree) (root : WrittenPath) (command : Command) : List WrittenPath :=
  let messages := match command with
    | .add _ _ file => if file = "-" then [] else [.ofText file]
    | _ => []
  let inStore := match FileBacked.openAt tree root with
    | (.ok store, _) => (recordFiles store command.target).map fun path => .below path ⟨[]⟩
    | (.error _, _) => []
  root :: messages ++ inStore

/-- The files that a call looks at, as far as the files that are known tell. -/
def Call.files (call : Call) : List WrittenPath :=
  let environment := call.extended
  let named := match Settings.load call.tree environment, read call.arguments with
    | .ok settings, .ok invocation =>
      filesOf call.tree (storeRoot invocation settings) invocation.command
    | _, _ => []
  .ofText ".env" :: Settings.candidates (Settings.fileName environment) ++ named

/-- The milliseconds that the operation of a call may take. -/
def Call.timeout (call : Call) : Option Nat :=
  match Settings.load call.tree call.extended with
  | .ok settings => settings.memory.operationTimeout
  | .error _ => none

/-- Whether a call reads its input. -/
def Call.readsInput (call : Call) : Bool :=
  match read call.arguments with
  | .ok { command := .add _ _ file, .. } => file == "-"
  | _ => false

/-- A whole call; it answers how it ends, and what it leaves in its directory and of the network. -/
def run (network : Network ν) (call : Call) (state : ν) : Ended × FileTree × ν :=
  let environment := call.extended
  match Settings.load call.tree environment with
  | .error e => (.early ⟨"Failed to load settings", [e.message]⟩, call.tree, state)
  | .ok settings =>
    match read call.arguments with
    | .error stop => (stopped stop, call.tree, state)
    | .ok invocation =>
      match FileBacked.openAt call.tree (storeRoot invocation settings) with
      | (.error e, tree) => (.early (.ofStore e), tree, state)
      | (.ok store, _) =>
        let (ended, site) :=
          perform (coloured environment) settings.memory network call.input ⟨store, state⟩
            invocation.command
        (ended, site.store.tree, site.network)

end ConversationMemory.CommandLine
