import ConversationMemory.Proofs.Handle.Past

/-!
# Interrupted operations

* `Handle.cancelled_of_fired`: an operation whose time has come before it begins does nothing.
* `Handle.EndsInTime`, **`Handle.perform_inTime`**: an operation is cancelled exactly when there is
  something to be found at its end.
* `Surroundings.operate`, `Surroundings.later`: one operation of a handle, and the next one.
* `Surroundings.operate_alike`: a handle that was left in the middle goes on as one that was not.
* **`Surroundings.ends_cleanly`**: all this, whenever an operation is interrupted or dropped.
-/

namespace ConversationMemory

open Run

variable {σ : Type} {world : World σ} {handle : Handle} {scope : Scope} {s t : Running σ}

theorem Run.map_apply {α β : Type} (f : α → β) (x : Run σ α) :
    (f <$> x) scope s = ((x scope s).1.map f, (x scope s).2) := by
  rcases h : x scope s with ⟨reason | a, t⟩
  · exact bind_error h
  · exact bind_ok h

namespace Handle

/-! ## In time -/

/-- How an operation ends: it is cancelled for the reason that is found, or it comes to a result of
its own when there is none. It is dropped only by someone who loses interest, and waits for ever only
when nothing stops it. -/
def EndsInTime {α : Type} (handle : Handle) (operation : String) (scope : Scope) (now : Nat)
    (own : Except MemoryError α → Prop) : Except Abort (Except MemoryError α) → Prop
  | .ok r =>
    match scope.context.interruptAt now with
    | some interrupt => r = .error (.cancelled operation handle.target interrupt.message)
    | none => own r
  | .error reason => InTime scope now (.error reason : Except Abort α) ∧
    ∀ interrupt, reason ≠ .interrupted interrupt

theorem EndsInTime.of_none {α : Type} {operation : String} {now : Nat}
    {own : Except MemoryError α → Prop} {r : Except MemoryError α}
    (nothing : scope.context.interruptAt now = none) (h : own r) :
    handle.EndsInTime operation scope now own (.ok r) := by
  simp only [EndsInTime, nothing]
  exact h

theorem EndsInTime.of_some {α : Type} {operation : String} {now : Nat}
    {own : Except MemoryError α → Prop} {interrupt : Interrupt}
    (found : scope.context.interruptAt now = some interrupt) :
    handle.EndsInTime operation scope now own
      (.ok (.error (.cancelled operation handle.target interrupt.message))) := by
  simp only [EndsInTime, found]

theorem EndsInTime.map {α β : Type} {operation : String} {now : Nat}
    {own : Except MemoryError α → Prop} {own' : Except MemoryError β → Prop} (f : α → β)
    {outcome : Except Abort (Except MemoryError α)}
    (h : handle.EndsInTime operation scope now own outcome) (keep : ∀ r, own r → own' (r.map f)) :
    handle.EndsInTime operation scope now own' (outcome.map fun r => r.map f) := by
  cases outcome with
  | error reason => cases reason <;> exact h
  | ok r =>
    simp only [EndsInTime, Except.map] at h ⊢
    cases hfound : scope.context.interruptAt now with
    | none =>
      rw [hfound] at h
      exact keep r h
    | some interrupt =>
      rw [hfound] at h
      rw [h]

section

variable {α : Type} {context : OperationContext} {operation : String} {metadata : Entries String}
  {finish : α → Entries String × String} {body : Run σ (Except MemoryError α)}

theorem cancelled_of_fired {interrupt : Interrupt}
    (fired : (context.orTimeout s.now handle.settings.operationTimeout).interruptAt s.now =
      some interrupt) :
    ∃ t, (handle.track (world.collaborators .recording) context operation metadata finish
        body).Reaches scope s (.error (.cancelled operation handle.target interrupt.message)) t ∧
      t.world = s.world ∧ t.handle = s.handle := by
  let u : Running σ := { s with
    events := s.events ++ [Tracker.started ⟨operation, handle.name, metadata⟩] }
  have entered : ((world.collaborators .recording).within context handle.settings.operationTimeout
      body).Reaches scope u (.error (.interrupted interrupt))
      { u with started := u.now, waits := 0 } := by
    simp only [World.collaborators, Reaches, within]
    rw [show (context.orTimeout u.now handle.settings.operationTimeout).interruptAt u.now =
      some interrupt from fired]
  unfold track
  exact ⟨_, reaches_bind.2 ⟨_, u, rfl, reaches_bind.2 ⟨_, _, entered, reaches_bind.2 ⟨_, _, rfl,
    reaches_bind.2 ⟨_, _, rfl, rfl⟩⟩⟩⟩, rfl, rfl⟩

theorem track_inTime (punctual : Punctual body) :
    let ended := handle.track (world.collaborators .recording) context operation metadata finish
      body scope s
    handle.EndsInTime operation
      { scope with context := context.orTimeout s.now handle.settings.operationTimeout }
      ended.2.now (fun r => ∃ scope u v, body.Reaches scope u r v) ended.1 := by
  let u : Running σ := { s with
    events := s.events ++ [Tracker.started ⟨operation, handle.name, metadata⟩] }
  obtain ⟨outcome, v, within, inTime⟩ := @inTime_within σ _ context
    handle.settings.operationTimeout body punctual scope u
  have entered : (world.collaborators .recording).within context handle.settings.operationTimeout body
      scope u = (.ok outcome, v) := within
  have started : (world.collaborators .recording).emit
      (Tracker.started ⟨operation, handle.name, metadata⟩) scope s = (.ok (), u) := rfl
  unfold track
  dsimp only
  rw [bind_ok started, bind_ok entered]
  -- what is left is one event, which takes no time
  cases outcome with
  | ok result =>
    have reached := reaches_within within
    cases result with
    | ok a => exact EndsInTime.of_none inTime ⟨_, _, _, reached⟩
    | error e => exact EndsInTime.of_none inTime ⟨_, _, _, reached⟩
  | error reason =>
    cases reason with
    | interrupted interrupt => exact EndsInTime.of_some inTime
    | dropped | crashed | stuck => exact ⟨inTime, by rintro _ ⟨⟩⟩

end

variable {context : OperationContext} {operation : Operation} (nonEmpty : operation.IsNonEmpty)

include nonEmpty

theorem perform_of_fired {interrupt : Interrupt}
    (fired : (context.orTimeout s.now handle.settings.operationTimeout).interruptAt s.now =
      some interrupt) :
    ∃ t, (handle.perform (world.collaborators .recording) context operation).Reaches scope s
        (.error (.cancelled operation.name handle.target interrupt.message)) t ∧
      t.world = s.world ∧ t.handle = s.handle := by
  cases operation with
  | add messages =>
    obtain ⟨t, reached, kept⟩ := cancelled_of_fired fired
    refine ⟨t, reaches_map.2 ⟨.error (.cancelled addOperation handle.target interrupt.message), ?_,
      rfl⟩, kept⟩
    rw [addMessages, if_neg (by simpa [Operation.IsNonEmpty] using nonEmpty)]
    exact reached
  | get =>
    obtain ⟨t, reached, kept⟩ := cancelled_of_fired fired
    exact ⟨t, reaches_map.2 ⟨.error (.cancelled getOperation handle.target interrupt.message), reached,
      rfl⟩, kept⟩

/-- **An operation is cancelled exactly when there is something to be found at its end**, and what is
found then is the reason. -/
theorem perform_inTime :
    let ended := handle.perform (world.collaborators .recording) context operation scope s
    handle.EndsInTime operation.name
      { scope with context := context.orTimeout s.now handle.settings.operationTimeout }
      ended.2.now (fun r => ¬ Interrupted r) ended.1 := by
  cases operation with
  | add messages =>
    simp only [perform, map_apply]
    rw [addMessages, if_neg (by simpa [Operation.IsNonEmpty] using nonEmpty)]
    refine (track_inTime (handle.built_putMessages messages).punctual).map _ ?_
    rintro _ ⟨_, _, _, reached⟩
    exact (reaches_putMessages reached).not_interrupted
  | get =>
    simp only [perform, map_apply]
    refine (track_inTime handle.built_fetchMessages.punctual).map _ ?_
    rintro _ ⟨_, _, _, reached⟩
    exact (reaches_fetchMessages reached).not_interrupted

end Handle

/-! ## What an operation leaves behind -/

namespace Surroundings

variable {ι ρ ν : Type}

/-- A handle performs an operation in some scope, and its calls are noted down. -/
def operate (env : Surroundings ι ρ ν) (fates : Nat → Fate) (i : ι) (operation : Operation)
    (scope : Scope) (s : Running (Scene ρ ν × List Call)) :
    Except Abort (Except MemoryError Answer) × Running (Scene ρ ν × List Call) :=
  (env.handle i).perform ((env.world fates i).watched.collaborators .recording) scope.context
    operation scope s

/-- Where the next operation of the handle begins: the circumstances and the network have changed,
and time has passed. -/
def later (s : Running (Scene ρ ν × List Call)) (circumstances : ρ) (network : ν) (now : Nat) :
    Running (Scene ρ ν × List Call) where
  world := ({ s.world.1 with circumstances, network }, [])
  handle := s.handle
  now

/-- Reads come to an end, and the network answers. -/
structure AnswersAt (env : Surroundings ι ρ ν) (circumstances : ρ) (network : ν) : Prop where
  reads : (env.delay circumstances).isSome
  sends : ∀ request, ∃ answer n, (env.network request network).Answers answer n

/-- What an operation has done by its end: it has written one status at most, and sent one request at
most, to the base address that the handle remembers then. A status write that was given up has been
made, or nobody reads what is left of it. -/
structure Footprint (handle : Handle) (operation : Operation)
    (s t : Running (Scene ρ ν × List Call)) (calls : List Call) : Prop where
  noted : t.world.2 = s.world.2 ++ calls
  statusWrites : statusWrites calls ≤ 1
  requests : (requests calls).length ≤ 1
  baseUrl : t.handle.baseUrl = s.handle.baseUrl ∨
    ∃ address, resolvedAddresses calls = [address] ∧ t.handle.baseUrl = normalize address
  store : t.world.1.store = s.world.1.store ∨ ∃ record resolved answer,
    (s.world.1.store.get handle.name handle.namespaceName).1 = .ok record ∧
    .updateStatus (Handle.drifted record resolved) answer ∈ calls ∧
    (t.world.1.store = (s.world.1.store.updateStatus (Handle.drifted record resolved)).2.1 ∨
      t.world.1.store.ReadsAs s.world.1.store ∧ ∃ stage, t.world.1.store =
        s.world.1.store.updateStatusUntil stage (Handle.drifted record resolved))
  sent : t.world.1.sent = s.world.1.sent ++ ConversationMemory.requests calls
  remembered : ∀ request ∈ ConversationMemory.requests calls,
    handle.requestFor s.handle operation t.handle.baseUrl = .ok request

variable {env : Surroundings ι ρ ν} {fates : Nat → Fate} {i : ι} {operation : Operation}
  {scope : Scope} {s t : Running (Scene ρ ν × List Call)}

theorem mem_of_mem_writtenBack {calls : List Call} {record : MemoryRecord}
    (h : record ∈ writtenBack calls) : ∃ answer, .updateStatus record answer ∈ calls := by
  obtain ⟨call, hcall, hrecord⟩ := List.mem_filterMap.1 h
  cases call with
  | updateStatus other answer =>
    obtain rfl : other = record := Option.some.inj hrecord
    exact ⟨answer, hcall⟩
  | get | resolve | send => cases hrecord

theorem footprint_of_progress {calls : List Call} (noted : t.world.2 = s.world.2 ++ calls)
    (past : s.world.1.Past calls t.world.1)
    (progress : handle.Progress operation s.handle calls t.handle) :
    Footprint handle operation s t calls := by
  refine ⟨noted, progress.statusWrites_le, ?_, progress.baseUrl, ?_, past.sent, ?_⟩
  · rcases progress.requests_cases with none | ⟨request, one, -⟩
    · simp [none]
    · simp [one]
  · obtain ⟨landed, writes, store⟩ := past.store
    have short : landed.length ≤ 1 := by
      rw [← List.length_map Prod.snd, writes, length_writtenBack]
      exact progress.statusWrites_le
    match landed with
    | [] => exact .inl store
    | [(stage, record)] =>
      have written : record ∈ writtenBack calls := by
        rw [← writes]
        exact List.mem_singleton_self record
      obtain ⟨answer, hcall⟩ := mem_of_mem_writtenBack written
      obtain ⟨read, resolved, ⟨rest, begins⟩, rfl⟩ := progress.written hcall
      refine .inr ⟨read, resolved, answer, (past.first begins).symm, hcall, ?_⟩
      by_cases whole : stage = .whole
      · rw [whole] at store
        exact .inl (store.trans (Store.updateStatusUntil_whole _ _))
      · refine .inr ⟨?_, stage, store⟩
        rw [store]
        exact Store.readsAs_updateStatusUntil whole _ _
    | _ :: _ :: _ => simp at short
  · intro request hrequest
    rcases progress.requests_cases with none | ⟨request', one, prepared⟩
    · simp [none] at hrequest
    · rw [one, List.mem_singleton] at hrequest
      rwa [hrequest]

/-- However an operation ends, this is what it has done; and when there is room in the store, it does
not break down. -/
theorem operate_footprint :
    let ended := env.operate fates i operation scope s
    (∃ calls, Footprint (env.handle i) operation s ended.2 calls) ∧
      (env.handle i).openTransport ended.2.handle = (env.handle i).openTransport s.handle ∧
      (env.IsSound → s.world.1.store.VersionsBelow → ended.1 ≠ .error .crashed) := by
  intro ended
  have enters (interrupt : Interrupt) (w : Scene ρ ν × List Call)
      (h : Since s.world.1 s.world.2 w) :
      env.Left s.world.1 s.world.2 (.interrupted interrupt) w := by
    obtain ⟨made, hmade, past⟩ := h
    exact ⟨made, hmade, past, by rintro ⟨⟩⟩
  have kept := (env.handle i).ensures_kept (env.keeps_past fates i s.world.1 s.world.2) enters
    scope.context operation
  have left : ∃ calls, ended.2.world.2 = s.world.2 ++ calls ∧ s.world.1.Past calls ended.2.world.1 ∧
      (ended.1 = .error .crashed → env.IsSound → s.world.1.store.VersionsBelow →
        1 < statusWrites calls) := by
    rcases kept.cases scope (show Since _ _ _ from ⟨[], (List.append_nil _).symm, .refl _⟩) with
      ⟨r, hr, ⟨calls, hcalls, past⟩ | ⟨_, calls, hcalls, past, -⟩⟩ |
      ⟨reason, hreason, calls, hcalls, past, breaks⟩
    · refine ⟨calls, hcalls, past, fun crashed => ?_⟩
      cases crashed.symm.trans hr
    · refine ⟨calls, hcalls, past, fun crashed => ?_⟩
      cases crashed.symm.trans hr
    · refine ⟨calls, hcalls, past, fun crashed => breaks ?_⟩
      cases hreason.symm.trans crashed
      rfl
  obtain ⟨calls, noted, past, breaks⟩ := left
  have got : Ensures (Handle.Noted s.world.2 s.handle)
      ((env.handle i).perform ((env.world fates i).watched.collaborators .recording) scope.context
        operation)
      (fun _ => (env.handle i).Ended operation s.world.2 s.handle)
      (fun _ => (env.handle i).Ended operation s.world.2 s.handle) :=
    Handle.ensures_progress scope.context operation
  have progress : (env.handle i).Progress operation s.handle calls ended.2.handle := by
    rcases got.cases scope ⟨rfl, rfl⟩ with ⟨_, _, made, hmade, progress⟩ | ⟨_, _, made, hmade, progress⟩
    · obtain rfl := List.append_cancel_left (noted.symm.trans hmade)
      exact progress
    · obtain rfl := List.append_cancel_left (noted.symm.trans hmade)
      exact progress
  refine ⟨⟨calls, footprint_of_progress noted past progress⟩, progress.openTransport,
    fun sound below crashed => ?_⟩
  have twice := breaks crashed sound below
  have once := progress.statusWrites_le
  omega

/-- At one state of the circumstances and the network, every call is answered over stores of which the
status writes are. -/
theorem AnswersAt.serves_of {circumstances : ρ} {network : ν}
    (answers : env.AnswersAt circumstances network) (kept : Store → Prop) (fates : Nat → Fate) (i : ι)
    (writes : ∀ (scene : Scene ρ ν) record, kept scene.store →
      ∃ answer, scene.writeBack (fates scene.writes) record =
        .afterWait (fates scene.writes).delay answer
          (scene.written (fates scene.writes).heard record)
          (scene.written (fates scene.writes).unheard record)) :
    (env.world fates i).watched.Serves
      (fun w => kept w.1.store ∧ w.1.circumstances = circumstances ∧ w.1.network = network)
      (fun w => w.1.network = network) := by
  have serves : (env.world fates i).Serves
      (fun x => kept x.store ∧ x.circumstances = circumstances ∧ x.network = network)
      (fun x => x.network = network) := by
    refine ⟨?_, ?_, ?_, ?_, fun _ _ => id, fun _ _ => id⟩
    · rintro name namespaceName x ⟨below, rfl, rfl⟩
      exact ⟨_, x, Reply.answers_after answers.reads _ _, below, rfl, rfl⟩
    · rintro spec namespaceName x ⟨below, rfl, rfl⟩
      exact ⟨_, x, Reply.answers_after answers.reads _ _, below, rfl, rfl⟩
    · rintro record x ⟨below, -, rfl⟩
      obtain ⟨answer, wrote⟩ := writes x record below
      refine ⟨answer, x.written (fates x.writes).heard record, ?_, rfl⟩
      simp only [world, wrote]
      exact ⟨rfl, rfl⟩
    · intro request x h
      have here : x.network = network := h.elim (fun h => h.2.2) id
      obtain ⟨answer, n, answered⟩ := answers.sends request
      exact ⟨answer, _, Reply.answers_within.2 ⟨n, here ▸ answered, rfl⟩⟩
  exact serves.watched

theorem AnswersAt.serves {circumstances : ρ} {network : ν} (answers : env.AnswersAt circumstances network)
    (fates : Nat → Fate) (i : ι) :
    (env.world fates i).watched.Serves
      (fun w => w.1.store.VersionsBelow ∧ w.1.circumstances = circumstances ∧ w.1.network = network)
      (fun w => w.1.network = network) :=
  answers.serves_of Store.VersionsBelow fates i fun scene record below =>
    Scene.writeBack_answers below (fates scene.writes) record

/-- The address that is found and the network decide about the result of an operation and about what it
sends. -/
theorem outcome_of_operate (nonEmpty : operation.IsNonEmpty) {r : Except MemoryError Answer}
    (h : (env.operate fates i operation scope s).1 = .ok r) (own : ¬ Interrupted r) :
    ∃ sent, requests (env.operate fates i operation scope s).2.world.2 = requests s.world.2 ++ sent ∧
      env.Outcome i operation s.handle s.world.1.network (env.lookUp i operation.name s.world.1) r
        sent := by
  have reached : ((env.handle i).perform ((env.world fates i).watched.collaborators .recording)
      scope.context operation).Reaches scope s r (env.operate fates i operation scope s).2 :=
    Prod.ext h rfl
  obtain interrupted | ⟨last, y, performed, hworld⟩ := Handle.reaches_perform nonEmpty reached
  · exact (own interrupted).elim
  obtain ⟨made, hmade, outcome⟩ := outcome_of_performed performed
  refine ⟨requests made, ?_, outcome⟩
  rw [hworld, ← requests_append]
  exact congrArg requests hmade

/-- **A handle that was left in the middle goes on as one that was not**: what counts for the next
operation is the same in both. -/
theorem operate_alike (nonEmpty : operation.IsNonEmpty) {fates fates' : Nat → Fate}
    {scope scope' : Scope} {s s' : Running (Scene ρ ν × List Call)}
    {r r' : Except MemoryError Answer}
    (stores : s.world.1.store.Alike s'.world.1.store)
    (circumstances : s.world.1.circumstances = s'.world.1.circumstances)
    (networks : s.world.1.network = s'.world.1.network)
    (transports : (env.handle i).openTransport s.handle = (env.handle i).openTransport s'.handle)
    (calls : s.world.2 = s'.world.2)
    (h : (env.operate fates i operation scope s).1 = .ok r) (own : ¬ Interrupted r)
    (h' : (env.operate fates' i operation scope' s').1 = .ok r') (own' : ¬ Interrupted r') :
    r = r' ∧ requests (env.operate fates i operation scope s).2.world.2 =
      requests (env.operate fates' i operation scope' s').2.world.2 := by
  obtain ⟨sent, hsent, outcome⟩ := outcome_of_operate nonEmpty h own
  obtain ⟨sent', hsent', outcome'⟩ := outcome_of_operate nonEmpty h' own'
  have prepared (next : String) : (env.handle i).requestFor s.handle operation next =
      (env.handle i).requestFor s'.handle operation next := by
    simp only [Handle.requestFor, transports]
  rw [lookUp_alike stores circumstances, networks] at outcome
  obtain ⟨rfl, rfl⟩ := (outcome.of_requestFor prepared).unique outcome'
  exact ⟨rfl, by rw [hsent, hsent', calls]⟩

theorem Footprint.alike {calls : List Call} (h : Footprint handle operation s t calls) :
    t.world.1.store.Alike s.world.1.store := by
  rcases h.store with same | ⟨record, resolved, -, -, -, written | ⟨-, stage, left⟩⟩
  · rw [same]
    exact .refl _
  · rw [written]
    exact (Store.updateStatus_alike _ _).symm
  · rw [left]
    exact (Store.updateStatusUntil_alike _ _ _).symm

theorem operate_of_isQuiet (nonEmpty : operation.IsNonEmpty) (below : s.world.1.store.VersionsBelow)
    (answers : env.AnswersAt s.world.1.circumstances s.world.1.network)
    (quiet : ((env.handle i).innerScope scope s.now).IsQuiet) :
    ∃ r, (env.operate fates i operation scope s).1 = .ok r ∧ ¬ Interrupted r := by
  obtain ⟨r, t, reached, own⟩ :=
    Handle.settles_perform (answers.serves fates i) nonEmpty ⟨below, rfl, rfl⟩ quiet
  exact ⟨r, congrArg Prod.fst reached, own⟩

theorem operate_inTime (nonEmpty : operation.IsNonEmpty)
    {outcome : Except Abort (Except MemoryError Answer)}
    (h : (env.operate fates i operation scope s).1 = outcome) :
    (env.handle i).EndsInTime operation.name ((env.handle i).innerScope scope s.now)
      (env.operate fates i operation scope s).2.now (fun r => ¬ Interrupted r) outcome := by
  rw [← h]
  exact Handle.perform_inTime nonEmpty

/-- An operation that nobody drops comes to a result, if it is stopped at some time or every call is
answered. -/
theorem operate_returns (nonEmpty : operation.IsNonEmpty) (kept : scope.dropAt = none)
    (sound : env.IsSound) (below : s.world.1.store.VersionsBelow)
    (ends : ((env.handle i).innerScope scope s.now).context.stopsAt.isSome ∨
      env.AnswersAt s.world.1.circumstances s.world.1.network) :
    ∃ r, (env.operate fates i operation scope s).1 = .ok r := by
  cases stops : ((env.handle i).innerScope scope s.now).context.stopsAt with
  | none =>
    rw [stops] at ends
    have answers := ends.resolve_left (by decide)
    obtain ⟨r, result, -⟩ := operate_of_isQuiet nonEmpty below answers ⟨stops, kept⟩
    exact ⟨r, result⟩
  | some stop =>
    have whole := (@operate_footprint _ _ _ env fates i operation scope s).2.2 sound below
    cases outcome : (env.operate fates i operation scope s).1 with
    | ok r => exact ⟨r, rfl⟩
    | error reason =>
      rw [outcome] at whole
      obtain ⟨inTime, uninterrupted⟩ := operate_inTime nonEmpty outcome
      cases reason with
      | interrupted interrupt => exact (uninterrupted interrupt rfl).elim
      | dropped =>
        have dropped : scope.dropAt.isSome := inTime
        simp [kept] at dropped
      | stuck =>
        have never : ((env.handle i).innerScope scope s.now).context.stopsAt = none := inTime
        cases stops.symm.trans never
      | crashed => exact (whole rfl).elim

/-- **Interruption is clean.** An operation whose time has come before it begins calls nobody and
changes nothing. However an operation ends, it has written one status at most and sent one request at
most, and it leaves behind what it remembers of that. It is cancelled exactly when its token or its
deadline has come by its end, and the token hides the deadline; it always comes to a result when
nobody drops it. The next operation, of whatever kind, goes as if this one had not been there: once
nothing stops it, it comes to a result of its own, and the result and what it sends are the same. -/
theorem ends_cleanly (env : Surroundings ι ρ ν) (fates : Nat → Fate) (i : ι) {operation : Operation}
    (nonEmpty : operation.IsNonEmpty) (scope : Scope) (s : Running (Scene ρ ν × List Call)) :
    let handle := env.handle i
    let context := (handle.innerScope scope s.now).context
    let outcome := (env.operate fates i operation scope s).1
    let t := (env.operate fates i operation scope s).2
    (∀ interrupt, context.interruptAt s.now = some interrupt →
      outcome = .ok (.error (.cancelled operation.name handle.target interrupt.message)) ∧
        t.world = s.world ∧ t.handle = s.handle) ∧
    (∃ calls, Footprint handle operation s t calls) ∧
    (∀ r, outcome = .ok r →
      if context.firesAt.any (· ≤ t.now) then
        r = .error (.cancelled operation.name handle.target "context cancelled")
      else if context.deadline.any (· ≤ t.now) then
        r = .error (.cancelled operation.name handle.target "context deadline exceeded")
      else ¬ Interrupted r) ∧
    (scope.dropAt = none → env.IsSound → s.world.1.store.VersionsBelow →
      context.stopsAt.isSome ∨ env.AnswersAt s.world.1.circumstances s.world.1.network →
      ∃ r, outcome = .ok r) ∧
    ∀ (next : Operation), next.IsNonEmpty → ∀ circumstances network,
      (∀ fates' scope' now, t.world.1.store.VersionsBelow → env.AnswersAt circumstances network →
        (handle.innerScope scope' now).IsQuiet →
        ∃ r, (env.operate fates' i next scope' (later t circumstances network now)).1 = .ok r ∧
          ¬ Interrupted r) ∧
      ∀ fates' scope' now fates'' scope'' now' r r',
        let after := env.operate fates' i next scope' (later t circumstances network now)
        let without := env.operate fates'' i next scope'' (later s circumstances network now')
        after.1 = .ok r → ¬ Interrupted r → without.1 = .ok r' → ¬ Interrupted r' →
        r = r' ∧ requests after.2.world.2 = requests without.2.world.2 := by
  intro handle context outcome t
  obtain ⟨⟨calls, footprint⟩, transports, -⟩ := @operate_footprint _ _ _ env fates i operation scope s
  refine ⟨?_, ⟨calls, footprint⟩, ?_, operate_returns nonEmpty, ?_⟩
  · intro interrupt fired
    have ended : ∃ u, env.operate fates i operation scope s =
        (.ok (.error (.cancelled operation.name handle.target interrupt.message)), u) ∧
        u.world = s.world ∧ u.handle = s.handle := Handle.perform_of_fired nonEmpty fired
    obtain ⟨u, ended, kept⟩ := ended
    simp only [outcome, t, ended]
    exact ⟨trivial, kept⟩
  · intro r result
    have inTime := operate_inTime nonEmpty result
    simp only [Handle.EndsInTime, OperationContext.interruptAt] at inTime
    split
    · rename_i fired
      rwa [if_pos fired] at inTime
    · rename_i unfired
      rw [if_neg unfired] at inTime
      split
      · rename_i passed
        rwa [if_pos passed] at inTime
      · rename_i early
        rwa [if_neg early] at inTime
  · intro next further circumstances network
    refine ⟨fun fates' scope' now below answers quiet => operate_of_isQuiet further below answers quiet,
      ?_⟩
    intro fates' scope' now fates'' scope'' now' r r' after without h own h' own'
    exact operate_alike further footprint.alike rfl rfl transports rfl h own h' own'

/-- The first look at the history, with a deadline while the request is under way. -/
def pairCut : Except Abort (Except MemoryError Answer) × Running (Scene Unit Unit × List Call) :=
  pair.operate kept true .get { context := { deadline := some 5 } }
    { world := (pairStage.scene, []), handle := pairStage.states true, now := 0 }

/-- It has sent its request and remembers where to, and the next one comes to its end. -/
theorem ends_cleanly_pair :
    pairCut.1 = .ok (.error (.cancelled Handle.getOperation (pair.handle true).target
      "context deadline exceeded")) ∧
    (∃ calls, Footprint (pair.handle true) .get
      { world := (pairStage.scene, []), handle := pairStage.states true, now := 0 } pairCut.2 calls) ∧
    (requests pairCut.2.world.2).length = 1 ∧ pairCut.2.handle.baseUrl = "http://[::1]" ∧
    ∃ r, (pair.operate kept true .get {} (later pairCut.2 () () 9)).1 = .ok r ∧ ¬ Interrupted r := by
  have nonEmpty : Operation.get.IsNonEmpty := trivial
  obtain ⟨-, footprint, reasons, returns, next⟩ :=
    ends_cleanly pair kept true nonEmpty { context := { deadline := some 5 } }
      { world := (pairStage.scene, []), handle := pairStage.states true, now := 0 }
  have sound : pair.IsSound := fun _ _ _ h => by cases h
  have answers : pair.AnswersAt () () := ⟨rfl, fun _ => ⟨_, (), rfl, rfl⟩⟩
  have ended : pairCut.2.now = 5 := by decide +kernel
  have room : pairCut.2.world.1.store.hasRoom = true := by decide +kernel
  obtain ⟨r, result⟩ := returns rfl sound (Store.versionsBelow_of_hasRoom rfl) (.inl rfl)
  have unfired : ((({ deadline := some 5 } : OperationContext).orTimeout 0 none).firesAt.any
      (· ≤ pairCut.2.now)) = false := rfl
  have passed : ((({ deadline := some 5 } : OperationContext).orTimeout 0 none).deadline.any
      (· ≤ pairCut.2.now)) = true := by
    rw [ended]
    rfl
  have reason : r = .error (.cancelled Handle.getOperation (pair.handle true).target
      "context deadline exceeded") := by
    have told := reasons r result
    split at told
    · rename_i fired
      exact absurd (unfired.symm.trans fired) Bool.false_ne_true
    · split at told
      · exact told
      · rename_i early
        exact absurd passed early
  refine ⟨result.trans (congrArg _ reason), footprint, by decide +kernel, by decide +kernel, ?_⟩
  exact (next .get trivial () ()).1 kept {} 9 (Store.versionsBelow_of_hasRoom room) answers ⟨rfl, rfl⟩

end Surroundings

end ConversationMemory
