import ConversationMemory.Proofs.Handle.Interruption

/-!
# Deadlines

* `Narrowing`: what a caller does to the scope of an operation. `OperationContext.narrowAll`: several
  such steps, one after the other.
* **`OperationContext.deadline_narrowAll`**: the earliest of all deadlines counts.
* `Handle.dueAt`: when an operation has to be over, by the deadlines that were given and the timeout of
  its handle. `Handle.perform_due`: the operation goes as one with this deadline and no timeout at all.
* **`Handle.due_of_narrowings`**: both together, for any steps.
-/

namespace ConversationMemory

open Run

/-- What a caller does to the scope of an operation; a timeout counts from the time at which it is
given. -/
inductive Narrowing
  | deadline (time : Nat)
  | timeout (now milliseconds : Nat)
  | cancellation (token : CancellationToken)

namespace Narrowing

/-- The deadline that is given, if it is one. -/
def time? : Narrowing → Option Nat
  | deadline time => some time
  | timeout now milliseconds => some (now + milliseconds)
  | cancellation _ => none

/-- The deadlines that are given, in order. -/
def times (steps : List Narrowing) : List Nat := steps.filterMap time?

end Narrowing

namespace OperationContext

/-- The scope after one step. -/
def narrow (context : OperationContext) : Narrowing → OperationContext
  | .deadline time => context.withDeadline time
  | .timeout now milliseconds => context.withTimeout now milliseconds
  | .cancellation token => context.withCancellation token

/-- The scope after several steps. -/
def narrowAll (context : OperationContext) (steps : List Narrowing) : OperationContext :=
  steps.foldl narrow context

/-- All deadlines: the one of the scope, and those of the steps. -/
def times (context : OperationContext) (steps : List Narrowing) : List Nat :=
  context.deadline.toList ++ Narrowing.times steps

variable {context : OperationContext} {steps : List Narrowing}

theorem min?_times_narrow (context : OperationContext) (step : Narrowing) (rest : List Narrowing) :
    ((context.narrow step).times rest).min? = (context.times (step :: rest)).min? := by
  have nearer (time : Nat) : ((context.withDeadline time).times rest).min? =
      (context.deadline.toList ++ time :: Narrowing.times rest).min? := by
    cases own : context.deadline with
    | none => simp only [times, withDeadline, own, Option.elim_none, Option.toList_some,
        Option.toList_none, List.cons_append, List.nil_append]
    | some deadline =>
      simp only [times, withDeadline, own, Option.elim_some, Option.toList_some, List.cons_append,
        List.nil_append, List.min?_cons]
      cases (Narrowing.times rest).min? with
      | none => rfl
      | some first => simp only [Option.elim_some, Nat.min_assoc]
  cases step with
  | deadline time => exact nearer time
  | timeout now milliseconds => exact nearer (now + milliseconds)
  | cancellation token => rfl

/-- **The earliest of all deadlines counts.** -/
theorem deadline_narrowAll (context : OperationContext) (steps : List Narrowing) :
    (context.narrowAll steps).deadline = (context.times steps).min? := by
  induction steps generalizing context with
  | nil => cases own : context.deadline <;> simp [narrowAll, times, Narrowing.times, own]
  | cons step rest ih => exact (ih (context.narrow step)).trans (min?_times_narrow context step rest)

theorem min?_perm {times others : List Nat} (same : times.Perm others) : times.min? = others.min? := by
  cases first : others.min? with
  | none =>
    rw [List.min?_eq_none_iff] at first ⊢
    rw [first] at same
    exact same.eq_nil
  | some time =>
    obtain ⟨given, least⟩ := List.min?_eq_some_iff.1 first
    exact List.min?_eq_some_iff.2
      ⟨same.mem_iff.2 given, fun other there => least other (same.mem_iff.1 there)⟩

theorem deadline_narrowAll_perm {others : List Narrowing}
    (same : (Narrowing.times others).Perm (Narrowing.times steps)) :
    (context.narrowAll others).deadline = (context.narrowAll steps).deadline := by
  rw [deadline_narrowAll, deadline_narrowAll]
  exact min?_perm (same.append_left _)

theorem deadline_narrowAll_le {deadline : Nat} (own : context.deadline = some deadline)
    (steps : List Narrowing) :
    ∃ earlier ≤ deadline, (context.narrowAll steps).deadline = some earlier := by
  have given : deadline ∈ context.times steps :=
    List.mem_append_left _ (Option.mem_toList.2 own)
  rw [deadline_narrowAll]
  cases first : (context.times steps).min? with
  | none => simp [List.min?_eq_none_iff.1 first] at given
  | some earlier => exact ⟨earlier, (List.min?_eq_some_iff.1 first).2 deadline given, rfl⟩

end OperationContext

/-! ## Operations -/

namespace Handle

variable {σ : Type} {world : World σ} {emitter : Emitter} {context : OperationContext}
  {steps : List Narrowing} {scope : Scope} {s : Running σ}

/-- When an operation has to be over that begins at some time: at the earliest deadline that was given,
or else when the timeout of the handle has passed, unless that is zero. -/
def dueAt (handle : Handle) (given : List Nat) (start : Nat) : Option Nat :=
  match given.min?, handle.settings.operationTimeoutMs with
  | some deadline, _ => some deadline
  | none, some milliseconds =>
    if 0 < milliseconds.toNat then some (start + milliseconds.toNat) else none
  | none, none => none

/-- The handle without a timeout for its operations. -/
def untimed (handle : Handle) : Handle :=
  { handle with settings := { handle.settings with operationTimeoutMs := none } }

theorem orTimeout_narrowAll (handle : Handle) (context : OperationContext) (steps : List Narrowing)
    (start : Nat) :
    (context.narrowAll steps).orTimeout start handle.settings.operationTimeout =
      { deadline := handle.dueAt (context.times steps) start
        token := (context.narrowAll steps).token } := by
  have given := context.deadline_narrowAll steps
  generalize context.narrowAll steps = narrowed at given ⊢
  obtain ⟨deadline, token⟩ := narrowed
  obtain rfl : deadline = (context.times steps).min? := given
  unfold dueAt OperationContext.orTimeout MemoryConfig.operationTimeout
  cases (context.times steps).min? with
  | some deadline => rfl
  | none =>
    cases handle.settings.operationTimeoutMs with
    | none => rfl
    | some milliseconds =>
      dsimp only
      by_cases positive : 0 < milliseconds
      · have counts : 0 < milliseconds.toNat := positive
        rw [Option.filter_some, if_pos (decide_eq_true positive), if_pos counts]
        rfl
      · have nothing : ¬ 0 < milliseconds.toNat := positive
        rw [Option.filter_some, if_neg (by simpa using positive), if_neg nothing]
        rfl

theorem track_untimed (handle : Handle) {α : Type} (operation : String) (metadata : Entries String)
    (finish : α → Entries String × String) (body : Run σ (Except MemoryError α)) :
    handle.track (world.collaborators emitter) context operation metadata finish body scope s =
      handle.untimed.track (world.collaborators emitter)
        (context.orTimeout s.now handle.settings.operationTimeout) operation metadata finish body
        scope s := by
  obtain ⟨u, started, now⟩ : ∃ u, (world.collaborators emitter).emit
      (Tracker.started ⟨operation, handle.name, metadata⟩) scope s = (.ok (), u) ∧ u.now = s.now := by
    cases emitter <;> exact ⟨_, rfl, rfl⟩
  have already (other : OperationContext) : other.orTimeout u.now none = other := by
    obtain ⟨deadline, token⟩ := other
    cases deadline <;> rfl
  have entered : (world.collaborators emitter).within context handle.settings.operationTimeout body
      scope u = (world.collaborators emitter).within
        (context.orTimeout s.now handle.settings.operationTimeout)
        handle.untimed.settings.operationTimeout body scope u := by
    have never : handle.untimed.settings.operationTimeout = none := rfl
    simp only [World.collaborators, within, never, already]
    rw [now]
  have started' : (world.collaborators emitter).emit
      (Tracker.started ⟨operation, handle.untimed.name, metadata⟩) scope s = (.ok (), u) := started
  unfold track
  dsimp only
  rw [bind_ok started, bind_ok started']
  simp only [Bind.bind, entered]
  rfl

/-- An operation goes as one that is given no other deadline than the time at which it has to be over,
by a handle without a timeout. -/
theorem perform_due (handle : Handle) (operation : Operation) :
    handle.perform (world.collaborators emitter) (context.narrowAll steps) operation scope s =
      handle.untimed.perform (world.collaborators emitter)
        { deadline := handle.dueAt (context.times steps) s.now
          token := (context.narrowAll steps).token } operation scope s := by
  rw [← orTimeout_narrowAll]
  cases operation with
  | get =>
    simp only [perform, map_apply]
    rw [getMessages, track_untimed]
    rfl
  | add messages =>
    simp only [perform, map_apply]
    rw [addMessages, addMessages]
    split
    · rfl
    · rw [track_untimed]
      rfl

/-- An operation that has come to a result was cancelled for what had come by its end, if anything
had. -/
theorem EndsInTime.reason {α : Type} {handle : Handle} {operation : String} {now : Nat}
    {own : Except MemoryError α → Prop} {r : Except MemoryError α}
    (h : handle.EndsInTime operation scope now own (.ok r)) :
    if scope.context.firesAt.any (· ≤ now) then
      r = .error (.cancelled operation handle.target "context cancelled")
    else if scope.context.deadline.any (· ≤ now) then
      r = .error (.cancelled operation handle.target "context deadline exceeded")
    else own r := by
  simp only [EndsInTime, OperationContext.interruptAt] at h
  split
  · rename_i fired
    rwa [if_pos fired] at h
  · rename_i unfired
    rw [if_neg unfired] at h
    split
    · rename_i passed
      rwa [if_pos passed] at h
    · rename_i early
      rwa [if_neg early] at h

/-- **When an operation has to be over.** Whatever a caller has done to a scope, the earliest of all
deadlines is left: it never moves to a later time, and neither the order of the steps nor the tokens
among them count. An operation in that scope goes as one without any timeout of its handle that has to
be over at this time, or, when no deadline was given, when the timeout has passed since it began. So it
is cancelled for its deadline exactly when this time has come by its end, unless a token hides that. -/
theorem due_of_narrowings (handle : Handle) (operation : Operation) (context : OperationContext)
    (steps : List Narrowing) (scope : Scope) (s : Running σ) :
    let narrowed := context.narrowAll steps
    let due := handle.dueAt (context.times steps) s.now
    let ended := handle.perform (world.collaborators .recording) narrowed operation scope s
    narrowed.deadline = (context.times steps).min? ∧
      (∀ more deadline, narrowed.deadline = some deadline →
        ∃ earlier ≤ deadline, (context.narrowAll (steps ++ more)).deadline = some earlier) ∧
      (∀ others, (Narrowing.times others).Perm (Narrowing.times steps) →
        (context.narrowAll others).deadline = narrowed.deadline) ∧
      ended = handle.untimed.perform (world.collaborators .recording)
        { deadline := due, token := narrowed.token } operation scope s ∧
      (operation.IsNonEmpty → ∀ r, ended.1 = .ok r →
        if narrowed.firesAt.any (· ≤ ended.2.now) then
          r = .error (.cancelled operation.name handle.target "context cancelled")
        else if due.any (· ≤ ended.2.now) then
          r = .error (.cancelled operation.name handle.target "context deadline exceeded")
        else ¬ Interrupted r) := by
  intro narrowed due ended
  refine ⟨context.deadline_narrowAll steps, fun more deadline own => ?_,
    fun others => OperationContext.deadline_narrowAll_perm, perform_due handle operation,
    fun nonEmpty r result => ?_⟩
  · have further : context.narrowAll (steps ++ more) = narrowed.narrowAll more := List.foldl_append
    rw [further]
    exact OperationContext.deadline_narrowAll_le own more
  · have inTime : handle.EndsInTime operation.name
        { scope with context := narrowed.orTimeout s.now handle.settings.operationTimeout }
        ended.2.now (fun r => ¬ Interrupted r) ended.1 := perform_inTime nonEmpty
    rw [result, orTimeout_narrowAll] at inTime
    exact inTime.reason

/-- A handle whose operations may take one millisecond. -/
def hasty : Handle :=
  { Surroundings.pair.handle true with
    settings := { Settings.standard.memory with operationTimeoutMs := some 1 } }

/-- Three deadlines around a token that never fires. -/
def hastySteps : List Narrowing := [.deadline 9, .cancellation ⟨none⟩, .timeout 1 4, .deadline 7]

/-- The handle gets its history under these deadlines. -/
def hastyGet : Except Abort (Except MemoryError Answer) × Running (Scene Unit Unit) :=
  hasty.perform ((Surroundings.pair.world Surroundings.kept true).collaborators .recording)
    (({} : OperationContext).narrowAll hastySteps) .get {}
    { world := Surroundings.pairStage.scene, handle := Surroundings.pairStage.states true, now := 0 }

/-- The operation lasts until the earliest deadline and no longer, though the timeout of the handle has
passed by then. -/
theorem due_of_narrowings_hasty :
    (({} : OperationContext).narrowAll hastySteps).deadline = some 5 ∧ hastyGet.2.now = 5 ∧
      hastyGet.1.toBool ∧ ∀ r, hastyGet.1 = .ok r →
        r = .error (.cancelled getOperation hasty.target "context deadline exceeded") := by
  obtain ⟨earliest, -, -, -, reason⟩ := @due_of_narrowings _
    (Surroundings.pair.world Surroundings.kept true) hasty .get {} hastySteps {}
    { world := Surroundings.pairStage.scene, handle := Surroundings.pairStage.states true, now := 0 }
  have ended : hastyGet.2.now = 5 := by decide +kernel
  refine ⟨earliest, ended, by decide +kernel, fun r result => ?_⟩
  have told := reason trivial r result
  rw [show (hasty.perform ((Surroundings.pair.world Surroundings.kept true).collaborators .recording)
    (({} : OperationContext).narrowAll hastySteps) .get {} _).2.now = 5 from ended] at told
  exact told

end Handle

end ConversationMemory
