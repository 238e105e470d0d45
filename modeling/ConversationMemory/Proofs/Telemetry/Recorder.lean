import ConversationMemory.Proofs.Handle.Telemetry

/-!
# Trackers that share a recorder

* `Recorder.run`: steps of trackers in the order in which they are taken.
* `Tracker.FirstEvent`, `Tracker.LastEvent`: what a tracker tells at its start and at its end.
* `Tracker.Lives`: what one tracker tells after its start, step by step: nothing up to the step that
  ends it, its last event at this step, and nothing after it.
* `Superposed`: the lives of all trackers of a run, laid over one another.
* **`Recorder.superposed_of_run`**: the events of a run are the lives of its trackers, laid over one
  another; none of them depends on what becomes of the others.
-/

namespace ConversationMemory

/-- A step, and the time that has passed since the start of the tracker that it ends. -/
abbrev TimedStep := Duration × TrackerStep

namespace TrackerStep

/-- The name of the tracker that takes the step. -/
def id : TrackerStep → String
  | .start id _ | .setMetadata id _ _ | .complete id _ | .fail id _ | .drop id => id

/-- The step starts a tracker. -/
def isStart : TrackerStep → Bool
  | .start _ _ => true
  | _ => false

/-- How the step ends a tracker that has the name before it. -/
def ending? (name : String) : TrackerStep → Option (EventKind × String)
  | .start id _ | .drop id =>
    if id = name then some (.failed, "operation dropped before completion") else none
  | .setMetadata _ _ _ => none
  | .complete id message => if id = name then some (.completed, message) else none
  | .fail id message => if id = name then some (.failed, message) else none

/-- What the step adds to the metadata of the tracker with the name. -/
def added (name : String) : TrackerStep → Entries String
  | .setMetadata id key value => if id = name then [(key, value)] else []
  | _ => []

theorem ending?_of_ne {step : TrackerStep} {name : String} (h : step.id ≠ name) :
    step.ending? name = none := by
  cases step <;> first | rfl | exact if_neg h

theorem added_of_ne {step : TrackerStep} {name : String} (h : step.id ≠ name) :
    step.added name = [] := by
  cases step <;> first | rfl | exact if_neg h

end TrackerStep

namespace Table

variable {κ α : Type} [DecidableEq κ]

theorem erase_eq_filter (table : Table κ α) (key : κ) :
    table.erase key = table.filter fun entry => entry.1 ≠ key := by
  induction table with
  | nil => rfl
  | cons entry rest ih =>
    rw [erase, ih]
    by_cases same : entry.1 = key <;> simp [same]

theorem length_erase {table : Table κ α} (apart : table.Pairwise fun one other => one.1 ≠ other.1)
    (key : κ) : (table.erase key).length + (table.get? key).toList.length = table.length := by
  induction table with
  | nil => rfl
  | cons entry rest ih =>
    obtain ⟨others, apart⟩ := List.pairwise_cons.1 apart
    by_cases same : entry.1 = key
    · subst same
      have all : erase rest entry.1 = rest := by
        rw [erase_eq_filter, List.filter_eq_self]
        exact fun other hmem => by simpa using (others other hmem).symm
      simp [erase, get?, all]
    · simp only [erase, get?, if_neg same, List.length_cons, ← ih apart]
      omega

end Table

/-! ## The life of a tracker -/

namespace Tracker

/-- The event of the start of an operation: it has the metadata that the tracker starts with. -/
structure FirstEvent (start : Tracker) (first : OperationEvent) : Prop where
  kind : first.kind = .started
  operation : first.operation = start.operation
  reason : first.reason = start.operation ++ "Start"
  target : first.target = start.target
  metadata : first.metadata = start.metadata
  message : first.message = start.operation ++ " started"
  duration : first.duration = none

theorem firstEvent (start : Tracker) : start.FirstEvent start.started :=
  ⟨rfl, rfl, rfl, rfl, rfl, rfl, rfl⟩

/-- The event that ends an operation whose tracker had entries added to its metadata. -/
structure LastEvent (start : Tracker) (added : Entries String) (kind : EventKind) (message : String)
    (elapsed : Duration) (last : OperationEvent) : Prop where
  told : last =
    { kind, message
      operation := start.operation
      reason := start.operation ++ kind.reasonEnd
      target := start.target
      metadata := (start.withAll added).metadata
      duration := some elapsed }
  /-- The last entry that was added with a name decides, and the start where none was added. -/
  metadata : ∀ key, last.metadata.get? key =
    (Entries.get? added.reverse key).or (start.metadata.get? key)

/-- What a tracker with a name tells at each of the steps after its start. -/
inductive Lives (id : String) (start : Tracker) : List TimedStep → List (List OperationEvent) → Prop
  | on {steps} (lasts : ∀ step ∈ steps, step.2.ending? id = none) :
    Lives id start steps (steps.map fun _ => [])
  | ended {before elapsed step after kind message last}
    (lasts : ∀ step ∈ before, step.2.ending? id = none)
    (ends : step.ending? id = some (kind, message))
    (tells : start.LastEvent (before.flatMap (·.2.added id)) kind message elapsed last) :
    Lives id start (before ++ (elapsed, step) :: after)
      (before.map (fun _ => []) ++ [last] :: after.map fun _ => [])

theorem get?_withAll (tracker : Tracker) (added : Entries String) (key : String) :
    (tracker.withAll added).metadata.get? key =
      (Entries.get? added.reverse key).or (tracker.metadata.get? key) := by
  induction added generalizing tracker with
  | nil => rfl
  | cons entry rest ih =>
    have first : Entries.get? (entry :: rest).reverse key =
        (Entries.get? rest.reverse key).or (Entries.get? [entry] key) := by
      rw [List.reverse_cons, Entries.get?, List.lookup_append]
      rfl
    have set : (tracker.setMetadata entry.1 entry.2).metadata.get? key =
        (Entries.get? [entry] key).or (tracker.metadata.get? key) := by
      by_cases same : key = entry.1
      · simp [setMetadata, Entries.get?_cons, same]
      · simp [setMetadata, Entries.get?_cons, same, Entries.get?_insert_of_ne]
    rw [first, Option.or_assoc, ← set]
    exact ih _

theorem event_withAll (tracker : Tracker) (added : Entries String) (kind : EventKind)
    (message : String) (duration : Option Duration) :
    (tracker.withAll added).event kind message duration =
      { kind, message, duration
        operation := tracker.operation
        reason := tracker.operation ++ kind.reasonEnd
        target := tracker.target
        metadata := (tracker.withAll added).metadata } := by
  induction added generalizing tracker with
  | nil => rfl
  | cons entry rest ih => exact ih (tracker.setMetadata entry.1 entry.2)

theorem lastEvent (start : Tracker) (added : Entries String) (kind : EventKind) (message : String)
    (elapsed : Duration) :
    start.LastEvent added kind message elapsed
      ((start.withAll added).event kind message (some elapsed)) :=
  ⟨event_withAll .., start.get?_withAll added⟩

theorem LastEvent.eq {start : Tracker} {added : Entries String} {kind : EventKind}
    {message : String} {elapsed : Duration} {last : OperationEvent}
    (h : start.LastEvent added kind message elapsed last) :
    last = (start.withAll added).event kind message (some elapsed) :=
  h.told.trans (event_withAll ..).symm

namespace Lives

variable {id : String} {tracker : Tracker} {elapsed : Duration} {step : TrackerStep}
  {steps : List TimedStep} {own : List (List OperationEvent)}

theorem stop {kind : EventKind} {message : String} (ends : step.ending? id = some (kind, message)) :
    tracker.Lives id ((elapsed, step) :: steps)
      ([tracker.event kind message (some elapsed)] :: steps.map fun _ => []) :=
  .ended (List.forall_mem_nil _) ends (tracker.lastEvent [] kind message elapsed)

theorem pass (lasts : step.ending? id = none)
    (h : (tracker.withAll (step.added id)).Lives id steps own) :
    tracker.Lives id ((elapsed, step) :: steps) ([] :: own) := by
  cases h with
  | on later => exact .on (List.forall_mem_cons.2 ⟨lasts, later⟩)
  | @ended before at_ ending after kind message last later ends tells =>
    have lasting : ∀ s ∈ (elapsed, step) :: before, s.2.ending? id = none :=
      List.forall_mem_cons.2 ⟨lasts, later⟩
    refine .ended lasting ends ?_
    have added : (tracker.withAll (step.added id)).withAll (before.flatMap (·.2.added id)) =
        tracker.withAll (((elapsed, step) :: before).flatMap (·.2.added id)) := by
      simp [withAll]
    rw [tells.eq, added]
    exact tracker.lastEvent _ kind message at_

end Lives

end Tracker

/-- The lives of the trackers that the steps start, laid over one another: a row for each step, with
what is told at it. -/
inductive Superposed : List TimedStep → List (List OperationEvent) → Prop
  | nil : Superposed [] []
  | start {elapsed id tracker first steps own others} (tells : tracker.FirstEvent first)
    (lives : tracker.Lives id steps own) (rest : Superposed steps others) :
    Superposed ((elapsed, .start id tracker) :: steps)
      ([first] :: List.zipWith (· ++ ·) others own)
  | other {elapsed step steps rows} (noStart : step.isStart = false) (rest : Superposed steps rows) :
    Superposed ((elapsed, step) :: steps) ([] :: rows)

/-! ## One step -/

namespace TimedStep

/-- What is told at a step, and the tracker that has its name after it, by the one that had the name
before. -/
def take (step : TimedStep) (held : Option HeldTracker) : List OperationEvent × Option HeldTracker :=
  match step.2 with
  | .start _ tracker =>
    (tracker.started :: held.toList.flatMap (·.release step.1), some { tracker })
  | .setMetadata _ key value =>
    ([], held.map fun held => { held with tracker := held.tracker.setMetadata key value })
  | .complete _ message => (held.toList.flatMap (·.conclude .completed message step.1), none)
  | .fail _ message => (held.toList.flatMap (·.conclude .failed message step.1), none)
  | .drop _ => (held.toList.flatMap (·.release step.1), none)

variable {step : TimedStep}

theorem take_of_ends (tracker : Tracker) {kind : EventKind} {message : String}
    (ends : step.2.ending? step.2.id = some (kind, message)) :
    step.take (some { tracker }) =
      ((step.take none).1 ++ [tracker.event kind message (some step.1)], (step.take none).2) := by
  obtain ⟨elapsed, step⟩ := step
  cases step <;> simp [TrackerStep.ending?, TrackerStep.id] at ends <;> obtain ⟨rfl, rfl⟩ := ends <;>
    rfl

theorem take_of_lasts (tracker : Tracker) (lasts : step.2.ending? step.2.id = none) :
    step.take none = ([], none) ∧
      step.take (some { tracker }) =
        ([], some { tracker := tracker.withAll (step.2.added step.2.id) }) := by
  obtain ⟨elapsed, step⟩ := step
  cases step <;> simp [TrackerStep.ending?, TrackerStep.id] at lasts
  simp [take, TrackerStep.added, TrackerStep.id, Tracker.withAll]

theorem count_take (step : TimedStep) (before : Option Tracker) :
    let taken := step.take (before.map fun tracker => { tracker })
    (taken.1.filter OperationEvent.isTerminal).length + taken.2.toList.length =
      before.toList.length + step.2.isStart.toNat := by
  obtain ⟨elapsed, step⟩ := step
  cases step <;> cases before <;> rfl

theorem take_none (noStart : step.2.isStart = false) : step.take none = ([], none) := by
  obtain ⟨elapsed, step⟩ := step
  cases step <;> first | rfl | cases noStart

end TimedStep

namespace Recorder

/-- Takes a step, unless it is one of a tracker that is not there. -/
def next (recorder : Recorder) (step : TimedStep) : Recorder :=
  (recorder.step step.1 step.2).getD recorder

/-- Takes steps one after the other. -/
def run (recorder : Recorder) (steps : List TimedStep) : Recorder := steps.foldl next recorder

theorem run_cons (recorder : Recorder) (step : TimedStep) (rest : List TimedStep) :
    recorder.run (step :: rest) = (recorder.next step).run rest := rfl

/-- **A step tells of the trackers that have its name, and leaves all others as they are.** -/
theorem next_spec (recorder : Recorder) (step : TimedStep) :
    let taken := step.take (recorder.live.get? step.2.id)
    (recorder.next step).events = recorder.events ++ taken.1 ∧
      (recorder.next step).live.get? step.2.id = taken.2 ∧
      ∀ other ≠ step.2.id, (recorder.next step).live.get? other = recorder.live.get? other := by
  obtain ⟨elapsed, step⟩ := step
  cases step with
  | start id tracker =>
    exact ⟨rfl, Table.get?_set_self .., fun other h => Table.get?_set_of_ne _ h⟩
  | setMetadata id key value =>
    cases h : recorder.live.get? id with
    | none => simp [next, step, TimedStep.take, TrackerStep.id, h]
    | some held =>
      simp +contextual [next, step, TimedStep.take, TrackerStep.id, h, Table.get?_set_of_ne]
  | complete id message | fail id message | drop id =>
    cases h : recorder.live.get? id with
    | none => simp [next, step, finish, TimedStep.take, TrackerStep.id, h]
    | some held =>
      simp +contextual [next, step, finish, record, TimedStep.take, TrackerStep.id, h,
        Table.get?_erase_of_ne]

/-! ## What is told at each step -/

/-- What is told at each of the steps of a run. -/
def rows (recorder : Recorder) : List TimedStep → List (List OperationEvent)
  | [] => []
  | step :: rest => (step.take (recorder.live.get? step.2.id)).1 :: (recorder.next step).rows rest

@[simp] theorem length_rows (recorder : Recorder) (steps : List TimedStep) :
    (recorder.rows steps).length = steps.length := by
  induction steps generalizing recorder with
  | nil => rfl
  | cons step rest ih => simp [rows, ih]

theorem rows_take (recorder : Recorder) (steps : List TimedStep) (n : Nat) :
    recorder.rows (steps.take n) = (recorder.rows steps).take n := by
  induction steps generalizing recorder n with
  | nil => simp [rows]
  | cons step rest ih => cases n <;> simp [rows, ih]

theorem events_run (recorder : Recorder) (steps : List TimedStep) :
    (recorder.run steps).events = recorder.events ++ (recorder.rows steps).flatten := by
  induction steps generalizing recorder with
  | nil => simp [run, rows]
  | cons step rest ih =>
    rw [run_cons, ih, (recorder.next_spec step).1, List.append_assoc]
    rfl

theorem get?_next {recorder other : Recorder} {id : String} (step : TimedStep)
    (h : recorder.live.get? id = other.live.get? id) :
    (recorder.next step).live.get? id = (other.next step).live.get? id := by
  obtain ⟨-, self, frame⟩ := recorder.next_spec step
  obtain ⟨-, self', frame'⟩ := other.next_spec step
  by_cases same : id = step.2.id
  · subst same
    rw [self, self', h]
  · rw [frame id same, frame' id same, h]

theorem rows_congr {recorder other : Recorder} (steps : List TimedStep)
    (h : ∀ id, recorder.live.get? id = other.live.get? id) :
    recorder.rows steps = other.rows steps := by
  induction steps generalizing recorder other with
  | nil => rfl
  | cons step rest ih =>
    rw [rows, rows, h, ih fun id => get?_next step (h id)]

theorem zipWith_silent (rows : List (List OperationEvent)) (steps : List TimedStep)
    (h : rows.length = steps.length) :
    List.zipWith (· ++ ·) rows (steps.map fun _ => []) = rows := by
  induction steps generalizing rows with
  | nil => simp [List.length_eq_zero_iff.1 h]
  | cons step rest ih =>
    obtain ⟨row, rows, rfl⟩ := List.exists_cons_of_length_eq_add_one h
    rw [List.map_cons, List.zipWith_cons_cons, List.append_nil, ih rows (Nat.succ.inj h)]

/-- **A tracker that is held adds its life to what is told without it.** -/
theorem rows_superpose {recorder other : Recorder} {id : String} {tracker : Tracker}
    (steps : List TimedStep) (held : recorder.live.get? id = some { tracker })
    (absent : other.live.get? id = none)
    (same : ∀ name ≠ id, recorder.live.get? name = other.live.get? name) :
    ∃ own, tracker.Lives id steps own ∧
      recorder.rows steps = List.zipWith (· ++ ·) (other.rows steps) own := by
  induction steps generalizing recorder other tracker with
  | nil => exact ⟨[], .on (by simp), rfl⟩
  | cons step rest ih =>
    have sameAfter : ∀ name ≠ id,
        (recorder.next step).live.get? name = (other.next step).live.get? name :=
      fun name h => get?_next step (same name h)
    obtain ⟨-, here, frame⟩ := recorder.next_spec step
    obtain ⟨-, here', frame'⟩ := other.next_spec step
    by_cases mine : id = step.2.id
    · subst mine
      rw [held] at here
      rw [absent] at here'
      rw [rows, rows, held, absent]
      cases ending : step.2.ending? step.2.id with
      | none =>
        -- the tracker stays, with what the step adds to it
        obtain ⟨nothing, keeps⟩ := TimedStep.take_of_lasts tracker ending
        rw [keeps] at here
        rw [nothing] at here'
        obtain ⟨own, lives, hrows⟩ := ih here here' sameAfter
        exact ⟨[] :: own, lives.pass ending, by rw [keeps, nothing, hrows]; rfl⟩
      | some last =>
        -- from here on the two recorders hold the same trackers
        have taken := TimedStep.take_of_ends tracker ending
        have agree : ∀ name,
            (recorder.next step).live.get? name = (other.next step).live.get? name := by
          intro name
          by_cases mine : name = step.2.id
          · rw [mine, here, here', taken]
          · exact sameAfter name mine
        refine ⟨_, .stop ending, ?_⟩
        rw [taken, rows_congr rest agree, List.zipWith_cons_cons, zipWith_silent _ _ (by simp)]
    · have different : step.2.id ≠ id := fun h => mine h.symm
      obtain ⟨own, lives, hrows⟩ :=
        ih ((frame id mine).trans held) ((frame' id mine).trans absent) sameAfter
      refine ⟨[] :: own, .pass (TrackerStep.ending?_of_ne different) ?_, ?_⟩
      · rwa [TrackerStep.added_of_ne different]
      · simp [rows, hrows, same _ different]

theorem superposed_rows {recorder : Recorder} (steps : List TimedStep)
    (empty : ∀ id, recorder.live.get? id = none) : Superposed steps (recorder.rows steps) := by
  induction steps generalizing recorder with
  | nil => exact .nil
  | cons step rest ih =>
    obtain ⟨-, here, frame⟩ := recorder.next_spec step
    rw [rows]
    rw [empty] at here ⊢
    cases starts : step.2.isStart with
    | true =>
      obtain ⟨elapsed, step⟩ := step
      cases step with
      | start id tracker =>
        obtain ⟨own, lives, hrows⟩ := rows_superpose rest here (empty id) frame
        rw [hrows]
        exact .start tracker.firstEvent lives (ih empty)
      | _ => cases starts
    | false =>
      rw [TimedStep.take_none starts] at here ⊢
      have still : ∀ id, (recorder.next step).live.get? id = none := by
        intro id
        by_cases mine : id = step.2.id
        · exact mine ▸ here
        · exact (frame id mine).trans (empty id)
      exact .other starts (ih still)

/-! ## How many have ended -/

/-- The trackers that are held have names of their own and have not ended. -/
structure IsLive (live : Table String HeldTracker) : Prop where
  apart : live.Pairwise fun one other => one.1 ≠ other.1
  unfinished : ∀ entry ∈ live, entry.2.finished = false

namespace IsLive

variable {live : Table String HeldTracker} {id : String} {held : HeldTracker}

theorem erase (h : IsLive live) (id : String) : IsLive (live.erase id) := by
  rw [Table.erase_eq_filter]
  exact ⟨h.apart.filter _, fun entry hmem => h.unfinished entry (List.mem_filter.1 hmem).1⟩

theorem set (h : IsLive live) (id : String) (tracker : Tracker) :
    IsLive (live.set id { tracker }) := by
  have others := h.erase id
  refine ⟨List.pairwise_cons.2 ⟨fun entry hmem => ?_, others.apart⟩,
    List.forall_mem_cons.2 ⟨rfl, others.unfinished⟩⟩
  rw [Table.erase_eq_filter] at hmem
  exact Ne.symm (by simpa using (List.mem_filter.1 hmem).2)

theorem eq_mk (h : IsLive live) (hheld : live.get? id = some held) :
    held = { tracker := held.tracker } := by
  obtain ⟨tracker, finished⟩ := held
  have unfinished : finished = false := h.unfinished _ (Table.mem_of_get? hheld)
  rw [unfinished]

theorem next {recorder : Recorder} (h : IsLive recorder.live) (step : TimedStep) :
    IsLive (recorder.next step).live := by
  obtain ⟨elapsed, step⟩ := step
  cases step with
  | start id tracker => exact h.set id tracker
  | setMetadata id key value =>
    cases hheld : recorder.live.get? id with
    | none => simpa [Recorder.next, step, hheld] using h
    | some held =>
      rw [h.eq_mk hheld] at hheld
      simpa [Recorder.next, step, hheld] using h.set id _
  | complete id message | fail id message | drop id =>
    cases hheld : recorder.live.get? id with
    | none => simpa [Recorder.next, step, finish, hheld] using h
    | some held => simpa [Recorder.next, step, finish, hheld] using h.erase id

theorem length_next {recorder : Recorder} (h : IsLive recorder.live) (step : TimedStep) :
    (recorder.next step).live.length = (recorder.live.erase step.2.id).length +
      (step.take (recorder.live.get? step.2.id)).2.toList.length := by
  have absent := Table.length_erase h.apart step.2.id
  obtain ⟨elapsed, step⟩ := step
  cases step with
  | start id tracker => rfl
  | setMetadata id key value =>
    cases hheld : recorder.live.get? id with
    | none =>
      simpa [Recorder.next, step, TrackerStep.id, TimedStep.take, hheld] using absent.symm
    | some held => simp [Recorder.next, step, TrackerStep.id, TimedStep.take, hheld, Table.set]
  | complete id message | fail id message | drop id =>
    cases hheld : recorder.live.get? id with
    | none =>
      simpa [Recorder.next, step, finish, TrackerStep.id, TimedStep.take, hheld] using absent.symm
    | some held => simp [Recorder.next, step, finish, TrackerStep.id, TimedStep.take, hheld]

end IsLive

/-- A step that starts a tracker adds one to those that have been told an end and those that
live. -/
theorem count_next {recorder : Recorder} (h : IsLive recorder.live) (step : TimedStep) :
    (recorder.next step).terminalEvents.length + (recorder.next step).live.length =
      recorder.terminalEvents.length + recorder.live.length + step.2.isStart.toNat := by
  obtain ⟨tracker, hheld⟩ : ∃ tracker : Option Tracker,
      recorder.live.get? step.2.id = tracker.map fun tracker => { tracker } := by
    cases hheld : recorder.live.get? step.2.id with
    | none => exact ⟨none, rfl⟩
    | some held => exact ⟨some held.tracker, congrArg some (h.eq_mk hheld)⟩
  have taken := step.count_take tracker
  have left := h.length_next step
  have apart := Table.length_erase h.apart step.2.id
  rw [hheld] at left apart
  rw [terminalEvents, (recorder.next_spec step).1, hheld, List.filter_append, List.length_append,
    ← terminalEvents]
  have one : (tracker.map fun tracker => ({ tracker } : HeldTracker)).toList.length =
      tracker.toList.length := by
    cases tracker <;> rfl
  omega

/-- **Every tracker that has started lives or has been told an end.** -/
theorem count_run {recorder : Recorder} (h : IsLive recorder.live) (steps : List TimedStep) :
    (recorder.run steps).terminalEvents.length + (recorder.run steps).live.length =
      recorder.terminalEvents.length + recorder.live.length + steps.countP (·.2.isStart) := by
  induction steps generalizing recorder with
  | nil => rfl
  | cons step rest ih =>
    have first := count_next h step
    have later := ih (h.next step)
    rw [List.countP_cons, run_cons]
    cases starts : step.2.isStart <;> simp [starts] at first ⊢ <;> omega

theorem terminalEvents_eq (recorder : Recorder) :
    recorder.terminalEvents =
      recorder.events.filter fun event => event.kind = .completed ∨ event.kind = .failed := by
  refine List.filter_congr fun event _ => ?_
  rw [OperationEvent.isTerminal]
  cases event.kind <;> rfl

/-- **The events of a run are the lives of its trackers, laid over one another.** Row by row they are
there after each step; those that end operations are the completed and the failed ones, and they and
the trackers that live are as many as have started. -/
theorem superposed_of_run (steps : List TimedStep) :
    let start : Recorder := {}
    ∃ rows, Superposed steps rows ∧
      (∀ n, (start.run (steps.take n)).events = (rows.take n).flatten) ∧
      (start.run steps).terminalEvents = (start.run steps).events.filter
        (fun event => event.kind = .completed ∨ event.kind = .failed) ∧
      (start.run steps).terminalEvents.length + (start.run steps).live.length =
        steps.countP (·.2.isStart) := by
  intro start
  refine ⟨start.rows steps, superposed_rows steps fun _ => rfl, fun n => ?_,
    terminalEvents_eq _, ?_⟩
  · rw [events_run, rows_take]
    rfl
  · have empty : IsLive start.live := ⟨.nil, by simp [start]⟩
    simpa [start, terminalEvents] using count_run empty steps

/-- A tracker gets a new entry, another one takes its name, and this one completes. -/
def replacing : List TimedStep :=
  [(⟨0, 0⟩, .start "chat" ⟨"MemoryAddMessages", "notes", [("sessionId", "a")]⟩),
    (⟨0, 0⟩, .setMetadata "chat" "messages" "2"),
    (⟨3, 0⟩, .start "chat" ⟨"MemoryGetMessages", "notes", [("sessionId", "b")]⟩),
    (⟨1, 0⟩, .complete "chat" "done")]

/-- The tracker that is replaced tells its end after the start of the other one, with its own metadata,
of which its start knew the first entry only. -/
theorem superposed_of_run_replacing :
    ∃ rows, Superposed replacing rows ∧
      (rows.take 4).flatten =
        [⟨.started, "MemoryAddMessages", "MemoryAddMessagesStart", "notes", [("sessionId", "a")],
            "MemoryAddMessages started", none⟩,
          ⟨.started, "MemoryGetMessages", "MemoryGetMessagesStart", "notes", [("sessionId", "b")],
            "MemoryGetMessages started", none⟩,
          ⟨.failed, "MemoryAddMessages", "MemoryAddMessagesError", "notes",
            [("messages", "2"), ("sessionId", "a")], "operation dropped before completion",
            some ⟨3, 0⟩⟩,
          ⟨.completed, "MemoryGetMessages", "MemoryGetMessagesComplete", "notes",
            [("sessionId", "b")], "done", some ⟨1, 0⟩⟩] ∧
      (({} : Recorder).run replacing).terminalEvents.length = 2 := by
  obtain ⟨rows, superposed, told, -, count⟩ := superposed_of_run replacing
  have live : (({} : Recorder).run replacing).live.length = 0 := by decide +kernel
  have starts : replacing.countP (·.2.isStart) = 2 := by decide
  refine ⟨rows, superposed, (told 4).symm.trans (by decide +kernel), ?_⟩
  rw [starts] at count
  omega

end Recorder

end ConversationMemory
