import ConversationMemory.Proofs.Handle.Built
import ConversationMemory.Proofs.Handle.Operation
import Mathlib.Data.List.Forall2

/-!
# What an operation tells

* `Tracker.Closes`: the last event of an operation, by its outcome. **`ensures_track`**: an operation
  tells that it has started and how it has ended, however it ends.
* `Desk`: any number of handles that tell one recorder; `Desk.run`: calls one after the other.
* **`told_of_run`**: the events of a run are those of its calls, each told by the outcome of its call.
-/

namespace ConversationMemory

open Run

variable {σ : Type} {world : World σ} {emitter : Emitter}

/-! ## An operation between its events -/

section

variable {α : Type}

/-- The tracker with everything added that the end of the operation adds. -/
def Tracker.withAll (tracker : Tracker) (added : Entries String) : Tracker :=
  added.foldl (fun tracker (key, value) => tracker.setMetadata key value) tracker

/-- The last event of an operation, by its outcome. -/
inductive Tracker.Closes (tracker : Tracker) (finish : α → Entries String × String) :
    Except Abort (Except MemoryError α) → OperationEvent → Prop
  | completed (a : α) (elapsed : Duration) : Closes tracker finish (.ok (.ok a))
    ((tracker.withAll (finish a).1).completed (finish a).2 elapsed)
  | failed (e : MemoryError) (elapsed : Duration) : Closes tracker finish (.ok (.error e))
    (tracker.failed e.message elapsed)
  | dropped (reason : Abort) (elapsed : Duration) : Closes tracker finish (.error reason)
    (tracker.dropped elapsed)

/-- **An operation tells that it has started and how it has ended, however it ends.** The rest of
what it ensures is what its body ensures, unless it was interrupted. -/
theorem Handle.ensures_track (handle : Handle) {context : OperationContext} {operation : String}
    {metadata : Entries String} {finish : α → Entries String × String}
    {body : Run σ (Except MemoryError α)} {before : σ → HandleState → Prop}
    {broken : Abort → σ → HandleState → Prop} {after : Except MemoryError α → σ → HandleState → Prop}
    (silent : Silent body)
    (h : Ensures (fun w k _ => before w k) body (fun r w k _ => after r w k)
      (fun reason w k _ => broken reason w k))
    (enters : ∀ interrupt w k, before w k → broken (.interrupted interrupt) w k)
    (emitted : List OperationEvent) :
    let tracker : Tracker := ⟨operation, handle.name, metadata⟩
    Ensures (fun w k e => before w k ∧ e = emitted)
      (handle.track (world.collaborators .recording) context operation metadata finish body)
      (fun r w k e =>
        (after r w k ∨ Interrupted r ∧ ∃ interrupt, broken (.interrupted interrupt) w k) ∧
          ∃ last, tracker.Closes finish (.ok r) last ∧ e = emitted ++ [tracker.started, last])
      (fun reason w k e => broken reason w k ∧
        ∃ elapsed, e = emitted ++ [tracker.started, tracker.dropped elapsed]) := by
  intro tracker
  have emits (event : OperationEvent) {p : σ → HandleState → Prop}
      {e : List OperationEvent} {never : Abort → Sight σ} :
      Ensures (fun w k e' => p w k ∧ e' = e) ((world.collaborators .recording).emit event)
        (fun _ w k e' => p w k ∧ e' = e ++ [event]) never :=
    ensures_update _ fun s hs => ⟨hs.1, congrArg (· ++ [event]) hs.2⟩
  have inner := ensures_silent silent h (emitted ++ [tracker.started])
  unfold track
  refine ensures_bind (emits tracker.started) fun _ => ?_
  refine ensures_bind
    (ensures_within inner fun interrupt w k e h => ⟨enters interrupt w k h.1, h.2⟩)
    fun outcome => ?_
  have looks {p : Sight σ} {never : Abort → Sight σ} :
      Ensures p (world.collaborators .recording).elapsed (fun _ => p) never := fun _ _ hs => hs
  refine ensures_bind looks fun elapsed => ?_
  -- what is left is one event, told by the outcome
  have ends {p : σ → HandleState → Prop} {r : Except MemoryError α} (event : OperationEvent)
      (closes : tracker.Closes finish (.ok r) event)
      (hp : ∀ w k, p w k →
        after r w k ∨ Interrupted r ∧ ∃ interrupt, broken (.interrupted interrupt) w k) :
      Ensures (fun w k e => p w k ∧ e = emitted ++ [tracker.started])
        (do (world.collaborators .recording).emit event; return r)
        (fun r w k e =>
          (after r w k ∨ Interrupted r ∧ ∃ interrupt, broken (.interrupted interrupt) w k) ∧
            ∃ last, tracker.Closes finish (.ok r) last ∧ e = emitted ++ [tracker.started, last])
        (fun reason w k e => broken reason w k ∧
          ∃ elapsed, e = emitted ++ [tracker.started, tracker.dropped elapsed]) :=
    ensures_bind (emits event) fun _ => ensures_pure _ fun w k e h =>
      ⟨hp w k h.1, event, closes, h.2.trans (by simp)⟩
  cases outcome with
  | ok r =>
    cases r with
    | ok a => exact ends _ (.completed a elapsed) fun w k => .inl
    | error e => exact ends _ (.failed e elapsed) fun w k => .inl
  | error reason =>
    cases reason with
    | interrupted interrupt =>
      exact ends _ (.failed _ elapsed) fun w k hw => .inr ⟨⟨_, _, _, rfl⟩, interrupt, hw⟩
    | dropped | crashed | stuck =>
      exact ensures_bind (emits (tracker.dropped elapsed)) fun _ => ensures_abort _ fun w k e h =>
        ⟨h.1, elapsed, h.2.trans (by simp)⟩

/-- What an operation ensures of the world and the handle is what its body ensures, unless it was
interrupted. -/
theorem Handle.ensures_track_body (handle : Handle) {context : OperationContext} {operation : String}
    {metadata : Entries String} {finish : α → Entries String × String}
    {body : Run σ (Except MemoryError α)} {before : σ → HandleState → Prop}
    {broken : Abort → σ → HandleState → Prop} {after : Except MemoryError α → σ → HandleState → Prop}
    (silent : Silent body)
    (h : Ensures (fun w k _ => before w k) body (fun r w k _ => after r w k)
      (fun reason w k _ => broken reason w k))
    (enters : ∀ interrupt w k, before w k → broken (.interrupted interrupt) w k) :
    Ensures (fun w k _ => before w k)
      (handle.track (world.collaborators .recording) context operation metadata finish body)
      (fun r w k _ =>
        after r w k ∨ Interrupted r ∧ ∃ interrupt, broken (.interrupted interrupt) w k)
      (fun reason w k _ => broken reason w k) := by
  intro scope s hs
  have told := @ensures_track σ world α handle context operation metadata finish body before broken
    after silent h enters s.events scope s ⟨hs, rfl⟩
  split at told <;> exact told.1

end

/-! ## Calls -/

/-- What a caller asks for. -/
inductive Errand (ι : Type)
  | build (as : ι) (hasLocator : Bool) (spec : HandleSpec)
  | operate (i : ι) (operation : Operation)
  | close (i : ι)

/-- A call, in a world that behaves as it likes while the call lasts and has changed before it. -/
structure Turn (ι σ : Type) where
  errand : Errand ι
  context : OperationContext := {}
  dropAt : Option Nat := none
  world : World σ
  before : σ → σ := id
  /-- The time that has passed since the last call. -/
  pause : Nat := 0

/-- What the caller sees of a call. -/
inductive Outcome
  | absent
  | built (result : Except Abort (Except MemoryError (Handle × HandleState)))
  | operated (handle : Handle) (operation : Operation)
      (result : Except Abort (Except MemoryError Answer))
  | closed (result : Except Abort Unit)

/-- Handles that tell one recorder. -/
structure Desk (ι σ : Type) where
  world : σ
  handles : ι → Option (Handle × HandleState) := fun _ => none
  now : Nat := 0
  events : List OperationEvent := []

namespace Desk

variable {ι : Type} [DecidableEq ι]

/-- What is left on the desk of a run of a handle that had a name. -/
def settle (desk : Desk ι σ) (i : ι) (kept : Option (Handle × HandleState)) (last : Running σ) :
    Desk ι σ where
  world := last.world
  handles j := if j = i then kept else desk.handles j
  now := last.now
  events := last.events

/-- A call, and what the caller sees of it. -/
def call (desk : Desk ι σ) (turn : Turn ι σ) : Outcome × Desk ι σ :=
  let c := turn.world.collaborators .recording
  let start (state : HandleState) : Running σ :=
    { world := turn.before desk.world, handle := state, now := desk.now + turn.pause
      events := desk.events }
  match turn.errand with
  | .build i hasLocator spec =>
    let (result, last) := spec.build c hasLocator { dropAt := turn.dropAt } (start ⟨"", none⟩)
    let kept := match result with
      | .ok (.ok built) => some built
      | _ => desk.handles i
    (.built result, desk.settle i kept last)
  | .operate i operation =>
    match desk.handles i with
    | none => (.absent, desk)
    | some (handle, state) =>
      let (result, last) :=
        handle.perform c turn.context operation { dropAt := turn.dropAt } (start state)
      (.operated handle operation result, desk.settle i (some (handle, last.handle)) last)
  | .close i =>
    match desk.handles i with
    | none => (.absent, desk)
    | some (handle, state) =>
      let (result, last) := handle.close c { dropAt := turn.dropAt } (start state)
      (.closed result, desk.settle i (some (handle, last.handle)) last)

/-- Calls one after the other. -/
def run (desk : Desk ι σ) : List (Turn ι σ) → List Outcome × Desk ι σ
  | [] => ([], desk)
  | turn :: rest =>
    let (outcome, next) := desk.call turn
    let (outcomes, last) := next.run rest
    (outcome :: outcomes, last)

end Desk

/-! ## What is told of a call -/

/-- What the answer adds to the metadata of an operation. -/
def Answer.addTo (metadata : Entries String) : Answer → Entries String
  | .added => metadata
  | .history messages => metadata.insert "messages" (toString messages.length)

/-- The one event that ends an operation, after the event with which it has started. -/
structure Ends (started : OperationEvent) (result : Except Abort (Except MemoryError Answer))
    (last : OperationEvent) : Prop where
  operation : last.operation = started.operation
  target : last.target = started.target
  duration : last.duration.isSome
  kind : last.kind = if result matches .ok (.ok _) then .completed else .failed
  message : match result with
    | .ok (.ok _) => True
    | .ok (.error e) => last.message = e.message
    | .error _ => last.message = "operation dropped before completion"
  metadata : last.metadata = match result with
    | .ok (.ok answer) => answer.addTo started.metadata
    | _ => started.metadata

/-- What is told of a call. -/
inductive Told : Outcome → List OperationEvent → Prop
  | absent : Told .absent []
  | built (result) : Told (.built result) []
  | closed (result) : Told (.closed result) []
  | nothing (handle : Handle) : Told (.operated handle (.add []) (.ok (.ok .added))) []
  | operated {handle : Handle} {operation : Operation} {result last}
    (nonEmpty : operation.IsNonEmpty) (ends : Ends (operation.tracker handle).started result last) :
    Told (.operated handle operation result) [(operation.tracker handle).started, last]

theorem Tracker.Closes.ends_added {tracker : Tracker} {message : String}
    {result : Except Abort (Except MemoryError Unit)} {last : OperationEvent}
    (h : tracker.Closes (fun _ => ([], message)) result last) :
    Ends tracker.started (result.map (·.map fun _ => .added)) last := by
  cases h with
  | completed => exact ⟨rfl, rfl, rfl, rfl, trivial, rfl⟩
  | failed => exact ⟨rfl, rfl, rfl, rfl, rfl, rfl⟩
  | dropped => exact ⟨rfl, rfl, rfl, rfl, rfl, rfl⟩

theorem Tracker.Closes.ends_got {tracker : Tracker} {message : String}
    {result : Except Abort (Except MemoryError (List Message))} {last : OperationEvent}
    (h : tracker.Closes (fun messages => ([("messages", toString messages.length)], message)) result
      last) :
    Ends tracker.started (result.map (·.map .history)) last := by
  cases h with
  | completed => exact ⟨rfl, rfl, rfl, rfl, trivial, rfl⟩
  | failed => exact ⟨rfl, rfl, rfl, rfl, rfl, rfl⟩
  | dropped => exact ⟨rfl, rfl, rfl, rfl, rfl, rfl⟩

theorem Handle.closes_of_track {α : Type} (handle : Handle) (context : OperationContext)
    (operation : String) (metadata : Entries String) (finish : α → Entries String × String)
    {body : Run σ (Except MemoryError α)} (silent : Silent body) (scope : Scope) (s : Running σ) :
    let tracker : Tracker := ⟨operation, handle.name, metadata⟩
    let ended := handle.track (world.collaborators .recording) context operation metadata finish body
      scope s
    ∃ last, tracker.Closes finish ended.1 last ∧
      ended.2.events = s.events ++ [tracker.started, last] := by
  intro tracker ended
  have anything : Ensures (fun _ _ _ => True) body (fun _ _ _ _ => True) (fun _ _ _ _ => True) := by
    intro scope s _
    split <;> trivial
  have told := @ensures_track σ world α handle context operation metadata finish body
    (fun _ _ => True) (fun _ _ _ => True) (fun _ _ _ => True) silent anything
    (fun _ _ _ _ => trivial)
    s.events scope s ⟨trivial, rfl⟩
  split at told <;> rename_i heq
  · obtain ⟨-, last, closes, hevents⟩ := told
    exact ⟨last, by simpa [ended, heq] using closes, by simpa [ended, heq] using hevents⟩
  · obtain ⟨-, elapsed, hevents⟩ := told
    exact ⟨_, by simpa [ended, heq] using .dropped _ elapsed, by simpa [ended, heq] using hevents⟩

theorem Run.map_eq {α β : Type} (f : α → β) (x : Run σ α) (scope : Scope) (s : Running σ) :
    (f <$> x) scope s = ((x scope s).1.map f, (x scope s).2) := by
  change (x >>= fun a => pure (f a)) scope s = _
  rcases h : x scope s with ⟨reason | a, t⟩
  · rw [bind_error h]
    rfl
  · rw [bind_ok h]
    rfl

theorem Handle.told_of_perform (handle : Handle) (world : World σ) (context : OperationContext)
    (operation : Operation) (scope : Scope) (s : Running σ) :
    let ended := handle.perform (world.collaborators .recording) context operation scope s
    ∃ told, ended.2.events = s.events ++ told ∧ Told (.operated handle operation ended.1) told := by
  intro ended
  cases operation with
  | get =>
    have silent : Silent (handle.fetchMessages (world.collaborators .recording)) :=
      handle.built_fetchMessages.silent
    obtain ⟨last, closes, hevents⟩ := handle.closes_of_track context getOperation
      handle.baseMetadata
      (fun messages => ([("messages", toString messages.length)], "retrieved")) silent scope s
    have hended : ended = _ := Run.map_eq _ (handle.getMessages _ context) scope s
    rw [hended]
    exact ⟨_, hevents, .operated trivial closes.ends_got⟩
  | add messages =>
    have hended : ended = _ := Run.map_eq _ (handle.addMessages _ context messages) scope s
    rw [hended]
    by_cases empty : messages = []
    · subst empty
      exact ⟨[], (List.append_nil _).symm, .nothing handle⟩
    · have silent : Silent (handle.putMessages (world.collaborators .recording) messages) :=
        (handle.built_putMessages messages).silent
      obtain ⟨last, closes, hevents⟩ := handle.closes_of_track context addOperation
        (handle.baseMetadata.insert "messages" (toString messages.length))
        (fun _ => ([], "messages added")) silent scope s
      rw [addMessages, if_neg (by simpa using empty)]
      exact ⟨_, hevents, .operated empty closes.ends_added⟩

theorem Run.Silent.events {α : Type} {x : Run σ α} (silent : Silent x) (scope : Scope)
    (s : Running σ) : (x scope s).2.events = s.events := by
  have ended := silent s.events scope s rfl
  split at ended <;> rename_i heq <;> rw [heq] <;> exact ended

namespace Desk

variable {ι : Type} [DecidableEq ι]

theorem told_of_call (desk : Desk ι σ) (turn : Turn ι σ) :
    ∃ told, (desk.call turn).2.events = desk.events ++ told ∧ Told (desk.call turn).1 told := by
  unfold call
  cases turn.errand with
  | build i hasLocator spec =>
    exact ⟨[], by simpa [settle] using (spec.built_build hasLocator).silent.events _ _, .built _⟩
  | operate i operation =>
    dsimp only
    split
    · exact ⟨[], (List.append_nil _).symm, .absent⟩
    · rename_i handle state _
      exact handle.told_of_perform turn.world turn.context operation _ _
  | close i =>
    dsimp only
    split
    · exact ⟨[], (List.append_nil _).symm, .absent⟩
    · rename_i handle state _
      exact ⟨[], by simpa [settle] using handle.built_close.silent.events _ _, .closed _⟩

/-- **The events of a run are those of its calls, each told by the outcome of its call.** -/
theorem told_of_run (desk : Desk ι σ) (turns : List (Turn ι σ)) :
    ∃ told, (desk.run turns).2.events = desk.events ++ told.flatten ∧
      List.Forall₂ Told (desk.run turns).1 told := by
  induction turns generalizing desk with
  | nil => exact ⟨[], (List.append_nil _).symm, .nil⟩
  | cons turn rest ih =>
    obtain ⟨here, hhere, tells⟩ := desk.told_of_call turn
    obtain ⟨later, hlater, tell⟩ := ih (desk.call turn).2
    refine ⟨here :: later, ?_, .cons tells tell⟩
    rw [List.flatten_cons, ← List.append_assoc, ← hhere]
    exact hlater

end Desk

end ConversationMemory
