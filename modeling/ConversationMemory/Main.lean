import ConversationMemory.CommandLine
import ConversationMemory.Http.Wire
import Std.Async.DNS
import Std.Async.TCP
import Std.Async.Timer

/-!
# The program

Reads what a call is made with, runs it, sends the request that it makes, and writes what it leaves.
Paths are taken from the working directory. Services are reached without encryption, an answer that
leads to another address is taken as it is, and no credentials are sent.
-/

namespace ConversationMemory.Program

/-! ## Files -/

/-- The name of a path for the system. -/
def nameOf (path : TreePath) : String := if path = [] then "." else path.text

/-- Adds what stands at a path; what cannot be read is left out. -/
def load (tree : FileTree) (path : TreePath) : IO FileTree := do
  try
    let bytes ← IO.FS.readBinFile (nameOf path)
    return ((tree.createDirectories path.dropLast).2.writeBytes path bytes.toList).2
  catch
    | .inappropriateType .. => return (tree.createDirectories path).2
    | _ => return tree

/-- Adds the files that a call looks at, and what is on the way to them. Files lead to further
files, at most three times. -/
def loadAll (call : CommandLine.Call) : IO CommandLine.Call := do
  let mut call := call
  for _ in [0, 1, 2] do
    let mut tree := call.tree
    for path in call.files do
      for place in path.places do
        tree ← load tree place
    call := { call with tree }
  return call

/-- Writes what stands at a path; a file is written beside its place first. -/
def save (path : TreePath) : FileEntry → IO Unit
  | .directory => IO.FS.createDirAll (nameOf path)
  | .file bytes => do
    IO.FS.createDirAll (nameOf path.dropLast)
    let beside := nameOf path ++ ".tmp"
    IO.FS.writeBinFile beside ⟨bytes.toArray⟩
    IO.FS.rename beside (nameOf path)

/-- The variables of the process. -/
def environment : IO (Entries String) := do
  try
    let bytes ← IO.FS.readBinFile "/proc/self/environ"
    return (EnvironmentFile.parts (· == 0) bytes.toList).filterMap fun entry =>
      match (Utf8.textOf? (entry.filter (· != 0))).map (·.splitOn "=") with
      | some (name :: value :: rest) => some (name, "=".intercalate (value :: rest))
      | _ => none
  catch _ => return []

/-! ## The network -/

open Std.Async

/-- Sends bytes to a port of a host and takes what comes back until the connection ends. -/
def converse (host : String) (port : Nat) (bytes : List UInt8) : Async (List UInt8) := do
  match (← DNS.getAddrInfo host (toString port))[0]? with
  | none => throw (IO.userError "failed to lookup address information")
  | some address =>
    let client ← TCP.Socket.Client.mk
    client.connect <| match address with
      | .v4 addr => .v4 { addr, port := port.toUInt16 }
      | .v6 addr => .v6 { addr, port := port.toUInt16 }
    client.send ⟨bytes.toArray⟩
    let mut taken : Array UInt8 := #[]
    repeat
      match ← client.recv? 65536 with
      | some more => taken := taken ++ more.data
      | none => break
    return taken.toList

/-- The bytes that come back within some milliseconds. -/
def converseWithin (limit : Nat) (host : String) (port : Nat) (bytes : List UInt8) :
    Async (Option (List UInt8)) :=
  Async.race (some <$> converse host port bytes) do
    sleep (.ofNat limit)
    return none

/-- Why no connection comes about, in the words of the system. -/
def connectCause (e : IO.Error) : String :=
  let words := toString e
  let known := [("connection refused", "Connection refused (os error 111)"),
    ("network is unreachable", "Network is unreachable (os error 101)"),
    ("no route to host", "No route to host (os error 113)")]
  match known.find? fun (part, _) => 1 < (words.splitOn part).length with
  | some (_, cause) => cause
  | none => words

/-- Sends a request and takes its answer, also one that only leads to another address. -/
def send (request : Request) (limit : Option Nat) : IO (Except TransportError Response) := do
  let refused (causes : List String) : Except TransportError Response :=
    .error (request.notSent causes)
  match request.url.host, Url.specialPorts.lookup request.url.scheme with
  | some host, some usual =>
    if request.url.scheme ≠ "http".toList then
      return refused ["client error (Connect)", "encryption is not available"]
    let name := String.ofList (host.chars.filter fun c => c != '[' && c != ']')
    let port := request.url.port.getD usual
    try
      let conversation := match limit with
        | some limit => converseWithin limit name port request.bytes
        | none => some <$> converse name port request.bytes
      match ← conversation.block with
      | none => return refused ["operation timed out"]
      | some bytes =>
        match Response.ofBytes? (bytes.length + 1) bytes with
        | some response => return .ok response
        | none =>
          let cause := "connection closed before message completed"
          return refused ["client error (SendRequest)", cause]
    catch e => return refused ["client error (Connect)", "tcp connect error", connectCause e]
  | _, _ => return refused ["client error (Connect)"]

/-- Runs a call. The request that it makes is sent when it is known, and the call runs once more
with the answer. -/
def run (call : CommandLine.Call) : IO (CommandLine.Ended × FileTree) := do
  let (ended, tree, recording) := CommandLine.run Network.replay call {}
  match recording.unanswered with
  | none => return (ended, tree)
  | some request =>
    let limits := request.timeout.toList ++ call.timeout.toList
    let start ← IO.monoMsNow
    let answer ← send request limits.min?
    let took := (← IO.monoMsNow) - start
    let (ended, tree, _) := CommandLine.run Network.replay call { answers := [(took, answer)] }
    return (ended, tree)

end ConversationMemory.Program

open ConversationMemory in
/-- Runs a call of the program. -/
def main (arguments : List String) : IO UInt32 := do
  let call : CommandLine.Call :=
    { tree := {}, environment := ← Program.environment, arguments, input := "" }
  let call ← Program.loadAll call
  let input ← if call.readsInput then (← IO.getStdin).readToEnd else pure ""
  let call := { call with input }
  let (ended, tree) ← Program.run call
  for (path, entry) in tree.entries.reverse do
    if call.tree.get? path ≠ some entry then Program.save path entry
  IO.print ended.output
  IO.eprint ended.errors
  return ended.code.toUInt32
