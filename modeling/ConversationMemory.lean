import ConversationMemory.Main
import ConversationMemory.Store
import ConversationMemory.Proofs.Execution.Reach
import ConversationMemory.Proofs.Execution.Watch
import ConversationMemory.Proofs.Handle.Reconcile
import ConversationMemory.Proofs.Handle.Operation
import ConversationMemory.Proofs.Handle.Course
import ConversationMemory.Proofs.Execution.Pair
import ConversationMemory.Proofs.Handle.Twin
import ConversationMemory.Proofs.Json.Scalar
import ConversationMemory.Proofs.Json.Spelling
import ConversationMemory.Proofs.Json.Skip
import ConversationMemory.Proofs.Json.Follows
import ConversationMemory.Proofs.Json.Nesting
import ConversationMemory.Proofs.Record
import ConversationMemory.Proofs.FileTree.Twin
import ConversationMemory.Proofs.Handle.Scene
import ConversationMemory.Proofs.Handle.WriteBack
import ConversationMemory.Proofs.Handle.Drift
import ConversationMemory.Proofs.FileTree.Written
import ConversationMemory.Proofs.Store.Write
import ConversationMemory.Proofs.Store.Mirror
import ConversationMemory.Proofs.Store.Refinement
import ConversationMemory.Proofs.Store.Clients
import ConversationMemory.Proofs.Store.Removal
import ConversationMemory.Proofs.Execution.Ensure
import ConversationMemory.Proofs.Execution.Built
import ConversationMemory.Proofs.Handle.Built
import ConversationMemory.Proofs.Handle.Telemetry
import ConversationMemory.Proofs.Http
import ConversationMemory.Proofs.Url.Authority
import ConversationMemory.Proofs.Url.Below
import ConversationMemory.Proofs.Handle.Session
import ConversationMemory.Proofs.Json.ReadBack
import ConversationMemory.Proofs.Json.Refusal
import ConversationMemory.Proofs.Message
import ConversationMemory.Proofs.Message.Grammar
import ConversationMemory.Proofs.Handle.Backend
import ConversationMemory.Proofs.Handle.History
import ConversationMemory.Proofs.Handle.Progress
import ConversationMemory.Proofs.Handle.Past
import ConversationMemory.Proofs.Handle.Interruption
import ConversationMemory.Proofs.Store.Rewrite
import ConversationMemory.Proofs.Handle.OwnFile
import ConversationMemory.Proofs.Execution.Matching
import ConversationMemory.Proofs.Handle.Close
import ConversationMemory.Proofs.Handle.SessionPath
import ConversationMemory.Proofs.Handle.Fetch
import ConversationMemory.Proofs.Message.Refetch
import ConversationMemory.Proofs.FileTree.Growth
import ConversationMemory.Proofs.Store.Reread
import ConversationMemory.Proofs.Store.Failure
import ConversationMemory.Proofs.Store.Apart
import ConversationMemory.Proofs.Resolution
import ConversationMemory.Proofs.Telemetry.Recorder
import ConversationMemory.Proofs.Handle.Build
import ConversationMemory.Proofs.Store.Identity
import ConversationMemory.Proofs.CommandLine.Registered
import ConversationMemory.Proofs.Text.Composition
import ConversationMemory.Proofs.Url.Name
import ConversationMemory.Proofs.Url.Host
import ConversationMemory.Proofs.Resolution.Service
import ConversationMemory.Proofs.Settings.Keys
import ConversationMemory.Proofs.Settings.Sets
import ConversationMemory.Proofs.Settings.Toml.Grammar
import ConversationMemory.Proofs.Settings.Toml.Document
import ConversationMemory.Proofs.Settings.File
import ConversationMemory.Proofs.Settings.Layers
import ConversationMemory.Proofs.Operation.Deadline
import ConversationMemory.Proofs.Handle.LastVersion
import ConversationMemory.Proofs.Execution.Prompt
import ConversationMemory.Proofs.Handle.Keeping
import ConversationMemory.Proofs.CommandLine.Usable
