import ConversationMemory.Entries
import ConversationMemory.Text.Unprintable

/-!
# Telemetry events

* `LogEntry`: a line of the log with its level and its named fields.
* `OperationEvent`: an operation starts, completes or fails.
* `OperationEvent.toLog`: the log entry for an event.
* `OperationEvent.isTerminal`: whether the event ends its operation.
-/

namespace ConversationMemory

/-! ## Log entries -/

/-- How much a log entry matters. -/
inductive LogLevel
  | debug
  | info
  | warn
  | error
  deriving DecidableEq, Repr

/-- The level as it is written. -/
def LogLevel.name : LogLevel → String
  | debug => "DEBUG"
  | info => "INFO"
  | warn => "WARN"
  | error => "ERROR"

/-- The value of a field of a log entry. -/
inductive LogValue
  | text (value : String)
  | number (value : Nat)
  deriving DecidableEq, Repr

/-- A line of the log. -/
structure LogEntry where
  level : LogLevel
  message : String
  fields : List (String × LogValue) := []
  deriving DecidableEq, Repr

/-! ## Events -/

/-- What became of an operation. -/
inductive EventKind
  | started
  | completed
  | failed
  deriving DecidableEq, Repr

/-- The kind as it is written. -/
def EventKind.name : EventKind → String
  | started => "Started"
  | completed => "Completed"
  | failed => "Failed"

/-- What the kind adds to the name of an operation to make up the reason of an event. -/
def EventKind.reasonEnd : EventKind → String
  | started => "Start"
  | completed => "Complete"
  | failed => "Error"

/-- A span of time. -/
structure Duration where
  seconds : Nat
  nanoseconds : Nat
  deriving DecidableEq, Repr

/-- The whole milliseconds of a span, as far as 64 bits hold them. -/
def Duration.milliseconds (d : Duration) : Nat :=
  (d.seconds * 1000 + d.nanoseconds / 1000000) % UInt64.size

/-- An operation starts, completes or fails. -/
structure OperationEvent where
  kind : EventKind
  operation : String
  reason : String
  target : String
  metadata : Entries String
  message : String
  /-- How long the operation took, once it has ended. -/
  duration : Option Duration
  deriving DecidableEq, Repr

namespace OperationEvent

/-- Whether the event ends its operation. -/
def isTerminal (event : OperationEvent) : Bool := event.kind != .started

/-- The log entry for an event. -/
def toLog (event : OperationEvent) : LogEntry :=
  let fields : List (String × LogValue) :=
    [("operation", .text event.operation), ("memory", .text event.target),
      ("metadata", .text (Text.quotedMap event.metadata))]
  let duration : String × LogValue :=
    ("duration_ms", .number (event.duration.elim 0 Duration.milliseconds))
  match event.kind with
  | .started => ⟨.debug, event.reason, fields⟩
  | .completed => ⟨.info, event.reason ++ ": " ++ event.message, fields ++ [duration]⟩
  | .failed => ⟨.warn, event.reason ++ ": " ++ event.message, fields ++ [duration]⟩

end OperationEvent

end ConversationMemory
