import ConversationMemory.Table
import ConversationMemory.Telemetry.Event

/-!
# Trackers

* `Tracker`: an operation that has started; it ends in exactly one of `Tracker.completed`,
  `Tracker.failed` and `Tracker.dropped`.
* `HeldTracker`: a tracker that somebody holds, and whether it has told its end.
  `HeldTracker.conclude` ends it and lets go of it, `HeldTracker.release` only lets go of it.
* `Recorder`: the events of many trackers in the order in which they came about; `Recorder.step`
  takes one step of one of them.
* `Recorder.terminalEvents`: the events that end operations.
-/

namespace ConversationMemory

/-- An operation that has started. -/
structure Tracker where
  operation : String
  target : String
  metadata : Entries String
  deriving DecidableEq, Repr

namespace Tracker

/-- The event of a kind. -/
def event (tracker : Tracker) (kind : EventKind) (message : String) (duration : Option Duration) :
    OperationEvent where
  kind := kind
  operation := tracker.operation
  reason := tracker.operation ++ kind.reasonEnd
  target := tracker.target
  metadata := tracker.metadata
  message := message
  duration := duration

/-- The operation starts. -/
def started (tracker : Tracker) : OperationEvent :=
  tracker.event .started (tracker.operation ++ " started") none

/-- The operation has come to its end. -/
def completed (tracker : Tracker) (message : String) (elapsed : Duration) : OperationEvent :=
  tracker.event .completed message (some elapsed)

/-- The operation has failed. -/
def failed (tracker : Tracker) (message : String) (elapsed : Duration) : OperationEvent :=
  tracker.event .failed message (some elapsed)

/-- Nobody waits for the end of the operation any more. -/
def dropped (tracker : Tracker) (elapsed : Duration) : OperationEvent :=
  tracker.failed "operation dropped before completion" elapsed

/-- Adds to the metadata; a key that is there gets the new value. -/
def setMetadata (tracker : Tracker) (key value : String) : Tracker :=
  { tracker with metadata := tracker.metadata.insert key value }

end Tracker

/-- A tracker that somebody holds. -/
structure HeldTracker where
  tracker : Tracker
  /-- Whether the end of the operation has been told. -/
  finished : Bool := false
  deriving DecidableEq, Repr

namespace HeldTracker

/-- Tells the end of the operation. -/
def finish (held : HeldTracker) (kind : EventKind) (message : String) (elapsed : Duration) :
    OperationEvent × HeldTracker :=
  (held.tracker.event kind message (some elapsed), { held with finished := true })

/-- Lets go of the tracker, which tells an end that has not been told. -/
def release (held : HeldTracker) (elapsed : Duration) : List OperationEvent :=
  if held.finished then []
  else [(held.finish .failed "operation dropped before completion" elapsed).1]

/-- Tells the end of the operation and lets go of the tracker. -/
def conclude (held : HeldTracker) (kind : EventKind) (message : String) (elapsed : Duration) :
    List OperationEvent :=
  let (last, held) := held.finish kind message elapsed
  last :: held.release elapsed

end HeldTracker

/-- What can happen to one of several trackers, which go by names. -/
inductive TrackerStep
  /-- A tracker starts under a name; one that had the name is dropped after that. -/
  | start (id : String) (tracker : Tracker)
  | setMetadata (id key value : String)
  | complete (id message : String)
  | fail (id message : String)
  | drop (id : String)
  deriving DecidableEq, Repr

/-- Events and the trackers that are held. -/
structure Recorder where
  events : List OperationEvent := []
  live : Table String HeldTracker := []

namespace Recorder

/-- Takes in events. -/
def record (recorder : Recorder) (events : List OperationEvent) : Recorder :=
  { recorder with events := recorder.events ++ events }

/-- Ends a tracker with events. -/
def finish (recorder : Recorder) (id : String) (last : HeldTracker → List OperationEvent) :
    Option Recorder :=
  (recorder.live.get? id).map fun held =>
    { recorder.record (last held) with live := recorder.live.erase id }

/-- Takes one step, after which `elapsed` has passed since the start of the tracker. There is none
for a name under which no tracker lives, unless one starts. -/
def step (recorder : Recorder) (elapsed : Duration) : TrackerStep → Option Recorder
  | .start id tracker =>
    let replaced := (recorder.live.get? id).toList.flatMap (·.release elapsed)
    some { recorder.record (tracker.started :: replaced) with
      live := recorder.live.set id { tracker } }
  | .setMetadata id key value =>
    (recorder.live.get? id).map fun held =>
      { recorder with
        live := recorder.live.set id { held with tracker := held.tracker.setMetadata key value } }
  | .complete id message => recorder.finish id (·.conclude .completed message elapsed)
  | .fail id message => recorder.finish id (·.conclude .failed message elapsed)
  | .drop id => recorder.finish id (·.release elapsed)

/-- The events that end operations. -/
def terminalEvents (recorder : Recorder) : List OperationEvent :=
  recorder.events.filter OperationEvent.isTerminal

end Recorder

end ConversationMemory
