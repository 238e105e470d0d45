import ConversationMemory.Proofs.Execution.Matching
import ConversationMemory.Proofs.Handle.Past

/-!
# Closing changes nothing for the operations

* `Handle.ownTransport`: what a handle that holds no transport opens.
* `Handle.Tied`: two states of a handle that differ in the transport that is held only.
  **`matching_perform`**: operations of such handles come to the same end.
* `Stage.Tied`: two stages that differ so. `Stage.Tied.close`, `step_tied`: closing keeps them so, and every
  other step looks the same on both.
* **`play_without_closing`**: runs that differ in where handles are closed look the same otherwise.
-/

namespace ConversationMemory

open Run

variable {ι ρ ν : Type}

namespace Handle

/-- The transport that a handle opens when it holds none. -/
def ownTransport (handle : Handle) : Transport :=
  handle.shared.getD { timeout := handle.settings.requestTimeout }

/-- The headers of a request: those of the operation, and the defaults of the handle's transport. -/
def headersFor (handle : Handle) (operation : Operation) : Headers :=
  Request.withDefaults [operation.header, ("user-agent", handle.settings.userAgent)]
    handle.ownTransport.defaultHeaders

/-- Two states of a handle in one scene: both remember the same base address, and take the transport
that is the handle's own; every request that has been sent took it too. -/
structure Tied (handle : Handle) (operation : Operation) (w : Scene ρ ν) (k k' : HandleState) :
    Prop where
  baseUrl : k.baseUrl = k'.baseUrl
  own : handle.openTransport k = handle.ownTransport
  own' : handle.openTransport k' = handle.ownTransport
  sent : ∀ request ∈ w.sent, request.headers = handle.headersFor operation

variable {handle : Handle} {operation : Operation}

section

variable {α : Type}

theorem transport_eq (scope : Scope) (s : Running (Scene ρ ν)) :
    (handle.transport : Run (Scene ρ ν) Transport) scope s =
      (.ok (handle.openTransport s.handle), { s with handle := handle.opened s.handle }) := by
  unfold Handle.transport
  rw [bind_ok (t := s) (a := s.handle) rfl]
  cases hopen : s.handle.transport with
  | some transport =>
    have already : handle.opened s.handle = s.handle := by
      rw [opened, openTransport, hopen, Option.getD_some, ← hopen]
    rw [already, openTransport, hopen]
    rfl
  | none =>
    rw [opened, openTransport, hopen]
    rfl

theorem matching_opening {f g : Transport → Run (Scene ρ ν) α}
    (h : Matching (handle.Tied operation) (f handle.ownTransport) (g handle.ownTransport)) :
    Matching (handle.Tied operation) (handle.transport >>= f) (handle.transport >>= g) := by
  intro scope s k tied
  rw [bind_ok (transport_eq scope s), bind_ok (transport_eq scope { s with handle := k }), tied.own,
    tied.own']
  exact h scope { s with handle := handle.opened s.handle } (handle.opened k)
    ⟨tied.baseUrl, tied.own, tied.own', tied.sent⟩

theorem matching_remembering (next : String) :
    Matching (handle.Tied operation : Bond (Scene ρ ν))
      (do
        modifyThe HandleState fun state => { state with baseUrl := next }
        return .ok next : Run (Scene ρ ν) (Except MemoryError String))
      (do
        modifyThe HandleState fun state => { state with baseUrl := next }
        return .ok next) :=
  matching_bind (matching_modify fun _ _ _ tied => ⟨rfl, tied.own, tied.own', tied.sent⟩)
    fun _ => matching_pure _

end

end Handle

namespace Surroundings

variable {env : Surroundings ι ρ ν} {fates : Nat → Fate} {i : ι} {operation : Operation}


theorem matching_log (entry : LogEntry) :
    Matching ((env.handle i).Tied operation)
      (((env.world fates i).collaborators .recording).log entry)
      (((env.world fates i).collaborators .recording).log entry) :=
  matching_update (fun _ _ => rfl) fun _ _ => id

theorem matching_reconcile (name : String) :
    Matching ((env.handle i).Tied operation)
      ((env.handle i).reconcile ((env.world fates i).collaborators .recording) name)
      ((env.handle i).reconcile ((env.world fates i).collaborators .recording) name) := by
  unfold Handle.reconcile
  refine matching_bind (matching_await fun w k k' tied => ?_) fun read => ?_
  · exact Reply.ends_after tied fun _ _ => tied
  cases read with
  | error e => exact matching_pure _
  | ok record =>
    refine matching_bind (matching_await fun w k k' tied => ?_) fun found => ?_
    · exact Reply.ends_after tied fun _ _ => tied
    cases found with
    | error e => exact matching_pure _
    | ok resolved =>
      refine matching_look fun w k k' tied => ?_
      dsimp only
      rw [tied.baseUrl]
      split
      · refine matching_bind (matching_log _) fun _ =>
          matching_bind (matching_await fun w k k' tied => ?_) fun answer => ?_
        · have kept (stage : WriteStage) (record : MemoryRecord) :
              (env.handle i).Tied operation (w.written stage record) k k' :=
            ⟨tied.baseUrl, tied.own, tied.own', tied.sent⟩
          exact Scene.ends_writeBack _ _ _ (fun _ stage => kept stage _) fun _ stage _ => kept stage _
        cases answer with
        | ok _ => exact Handle.matching_remembering _
        | error e => exact matching_bind (matching_log _) fun _ => Handle.matching_remembering _
      · exact Handle.matching_remembering _

theorem matching_exchange (operation : Operation) (url : String) :
    Matching ((env.handle i).Tied operation)
      ((env.handle i).exchange ((env.world fates i).collaborators .recording) operation.name
        operation.method url operation.header operation.body)
      ((env.handle i).exchange ((env.world fates i).collaborators .recording) operation.name
        operation.method url operation.header operation.body) := by
  unfold Handle.exchange
  refine Handle.matching_opening ?_
  dsimp only
  split
  · exact matching_pure _
  · rename_i request prepared
    obtain ⟨_, -, carried⟩ := Request.eq_of_prepare prepared
    refine matching_bind (matching_await fun w k k' tied => ?_) fun answer => ?_
    · have kept (network : ν) : (env.handle i).Tied operation
          { w with network, sent := w.sent ++ [request] } k k' := by
        refine ⟨tied.baseUrl, tied.own, tied.own', fun sent hsent => ?_⟩
        rcases List.mem_append.1 hsent with early | late
        · exact tied.sent sent early
        · rw [List.mem_singleton.1 late, carried]
          rfl
      exact Reply.ends_within _ (fun _ => kept) fun _ network _ => kept network
    split
    · exact matching_pure _
    · split <;> exact matching_pure _

theorem matching_putMessages (messages : List Message) :
    Matching ((env.handle i).Tied (.add messages))
      ((env.handle i).putMessages ((env.world fates i).collaborators .recording) messages)
      ((env.handle i).putMessages ((env.world fates i).collaborators .recording) messages) := by
  unfold Handle.putMessages
  refine matching_bind (matching_reconcile _) fun base => ?_
  split
  · exact matching_pure _
  · refine matching_bind (matching_log _) fun _ =>
      matching_bind (matching_exchange (.add messages) _) fun answer => ?_
    split <;> exact matching_pure _

theorem matching_fetchMessages :
    Matching ((env.handle i).Tied .get)
      ((env.handle i).fetchMessages ((env.world fates i).collaborators .recording))
      ((env.handle i).fetchMessages ((env.world fates i).collaborators .recording)) := by
  unfold Handle.fetchMessages
  refine matching_bind (matching_reconcile _) fun base => ?_
  split
  · exact matching_pure _
  · refine matching_bind (matching_log _) fun _ =>
      matching_bind (matching_exchange .get _) fun answer => ?_
    split
    · exact matching_pure _
    · split <;> exact matching_pure _

theorem matching_track {α : Type} {context : OperationContext} {name : String}
    {metadata : Entries String} {finish : α → Entries String × String}
    {body : Run (Scene ρ ν) (Except MemoryError α)}
    (hbody : Matching ((env.handle i).Tied operation) body body) :
    Matching ((env.handle i).Tied operation)
      ((env.handle i).track ((env.world fates i).collaborators .recording) context name metadata
        finish body)
      ((env.handle i).track ((env.world fates i).collaborators .recording) context name metadata
        finish body) := by
  have emits (event : OperationEvent) : Matching ((env.handle i).Tied operation)
      (((env.world fates i).collaborators .recording).emit event)
      (((env.world fates i).collaborators .recording).emit event) :=
    matching_update (fun _ _ => rfl) fun _ _ => id
  have elapses : Matching ((env.handle i).Tied operation)
      ((env.world fates i).collaborators .recording).elapsed
      ((env.world fates i).collaborators .recording).elapsed := fun _ _ k tied => ⟨k, rfl, tied⟩
  unfold Handle.track
  refine matching_bind (emits _) fun _ => matching_bind (matching_within hbody) fun outcome =>
    matching_bind elapses fun elapsed => ?_
  dsimp only
  split
  · exact matching_bind (emits _) fun _ => matching_pure _
  · exact matching_bind (emits _) fun _ => matching_pure _
  · exact matching_bind (emits _) fun _ => matching_pure _
  · exact matching_bind (emits _) fun _ => matching_abort _

/-- **Handles that differ in the transport that is held do the same.** -/
theorem matching_perform (fates : Nat → Fate) (context : OperationContext) (operation : Operation) :
    Matching ((env.handle i).Tied operation)
      ((env.handle i).perform ((env.world fates i).collaborators .recording) context operation)
      ((env.handle i).perform ((env.world fates i).collaborators .recording) context operation) := by
  cases operation with
  | add messages =>
    refine matching_map _ ?_
    unfold Handle.addMessages
    split
    · exact matching_pure _
    · exact matching_track (matching_putMessages messages)
  | get => exact matching_map _ (matching_track matching_fetchMessages)

theorem close_eq (scope : Scope) (s : Running (Scene ρ ν)) :
    (env.handle i).close ((env.world fates i).collaborators .recording) scope s =
      (.ok (), { s with handle := { s.handle with transport := none } }) := by
  unfold Handle.close
  rw [bind_ok (t := s) (a := s.handle) rfl]
  cases hopen : s.handle.transport with
  | some transport => rfl
  | none =>
    have held : { s.handle with transport := none } = s.handle := by rw [← hopen]
    rw [held]
    rfl

end Surroundings

/-! ## Stages -/

/-- The report without the transport that the handle holds. -/
def Report.withoutTransport (report : Report) : Report :=
  { report with state := { report.state with transport := none } }

/-- Two stages that differ in the transports that handles hold only, and in what was sent last; every
handle takes its own transport. -/
structure Stage.Tied (env : Surroundings ι ρ ν) (a b : Stage ι ρ ν) : Prop where
  store : a.scene.store = b.scene.store
  circumstances : a.scene.circumstances = b.scene.circumstances
  network : a.scene.network = b.scene.network
  writes : a.scene.writes = b.scene.writes
  now : a.now = b.now
  baseUrl : ∀ i, (a.states i).baseUrl = (b.states i).baseUrl
  own : ∀ i, (env.handle i).openTransport (a.states i) = (env.handle i).ownTransport
  own' : ∀ i, (env.handle i).openTransport (b.states i) = (env.handle i).ownTransport

variable {env : Surroundings ι ρ ν} {fates : Nat → Fate} {a b : Stage ι ρ ν}

theorem Stage.Tied.symm (h : a.Tied env b) : b.Tied env a :=
  ⟨h.store.symm, h.circumstances.symm, h.network.symm, h.writes.symm, h.now.symm,
    fun i => (h.baseUrl i).symm, h.own', h.own⟩

theorem Stage.Tied.trans {c : Stage ι ρ ν} (h : a.Tied env b) (h' : b.Tied env c) : a.Tied env c :=
  ⟨h.store.trans h'.store, h.circumstances.trans h'.circumstances, h.network.trans h'.network,
    h.writes.trans h'.writes, h.now.trans h'.now, fun i => (h.baseUrl i).trans (h'.baseUrl i), h.own,
    h'.own'⟩

theorem Stage.Tied.scene (h : a.Tied env b) :
    { a.scene with sent := [] } = { b.scene with sent := [] } := by
  simp only [h.store, h.circumstances, h.network, h.writes]

variable [DecidableEq ι]

theorem Stage.Tied.act (h : a.Tied env b) (i : ι) (scope : Scope) {operation : Operation}
    {deed : Run (Scene ρ ν) (Option (Except MemoryError Answer))}
    (matching : Matching ((env.handle i).Tied operation) deed deed) :
    (a.act i scope deed).1.withoutTransport = (b.act i scope deed).1.withoutTransport ∧
      (∀ request ∈ (a.act i scope deed).1.sent,
        request.headers = (env.handle i).headersFor operation) ∧
      (a.act i scope deed).2.Tied env (b.act i scope deed).2 := by
  obtain ⟨k', ended, tied⟩ := matching scope
    { world := { a.scene with sent := [] }, handle := a.states i, now := a.now } (b.states i)
    ⟨h.baseUrl i, h.own i, h.own' i, fun _ none => (List.not_mem_nil none).elim⟩
  simp only [Stage.act]
  rw [← h.scene, ← h.now, ended]
  generalize deed _ _ = p at tied ⊢
  obtain ⟨outcome, t⟩ := p
  refine ⟨?_, tied.sent, rfl, rfl, rfl, rfl, rfl, fun j => ?_, fun j => ?_, fun j => ?_⟩
  · have base : t.handle.baseUrl = k'.baseUrl := tied.baseUrl
    simp only [Report.withoutTransport, withHandle, base]
  all_goals
    dsimp only [withHandle]
    split
  · exact tied.baseUrl
  · exact h.baseUrl j
  · rename_i same
    subst same
    exact tied.own
  · exact h.own j
  · rename_i same
    subst same
    exact tied.own'
  · exact h.own' j

theorem Stage.Tied.close (h : a.Tied env b) (i : ι) :
    (env.step fates a (.close i)).2.Tied env b := by
  have closes (scope : Scope) (s : Running (Scene ρ ν)) :
      ((fun _ => (none : Option (Except MemoryError Answer))) <$>
        (env.handle i).close ((env.world fates i).collaborators .recording)) scope s =
        (.ok none, { s with handle := { s.handle with transport := none } }) :=
    bind_ok (Surroundings.close_eq scope s)
  simp only [Surroundings.step, Stage.act, closes]
  refine ⟨h.store, h.circumstances, h.network, h.writes, h.now, fun j => ?_, fun j => ?_, h.own'⟩
  all_goals
    dsimp only
    split
  · rename_i same
    rw [same]
    exact h.baseUrl i
  · exact h.baseUrl j
  · rename_i same
    rw [same]
    rfl
  · exact h.own j

/-! ## Runs without closing -/

/-- Whether the step closes a handle. -/
def Step.isClose : Step ι ρ → Bool
  | .close _ => true
  | _ => false

/-- The steps other than closing. -/
def withoutClosing (steps : List (Step ι ρ)) : List (Step ι ρ) :=
  steps.filter fun step => !step.isClose

/-- What is sent in a step carries the headers of its operation and the defaults of the handle. -/
def Surroundings.Carries (env : Surroundings ι ρ ν) (step : Step ι ρ) (report : Option Report) :
    Prop :=
  ∀ i context dropAt operation, step = .operate i context dropAt operation →
    ∀ r ∈ report, ∀ request ∈ r.sent, request.headers = (env.handle i).headersFor operation

theorem step_tied (fates : Nat → Fate) (h : a.Tied env b) {step : Step ι ρ}
    (other : step.isClose = false) :
    (env.step fates a step).1.map Report.withoutTransport =
        (env.step fates b step).1.map Report.withoutTransport ∧
      env.Carries step (env.step fates a step).1 ∧
      (env.step fates a step).2.Tied env (env.step fates b step).2 := by
  have silent {stage stage' : Stage ι ρ ν} (tied : stage.Tied env stage')
      (quiet : ∀ i context dropAt operation, step ≠ .operate i context dropAt operation) :
      (none : Option Report).map Report.withoutTransport = none.map Report.withoutTransport ∧
        env.Carries step none ∧ stage.Tied env stage' :=
    ⟨rfl, fun _ _ _ _ operates => (quiet _ _ _ _ operates).elim, tied⟩
  cases step with
  | close i => cases other
  | operate i context dropAt operation =>
    obtain ⟨report, sent, stage⟩ := h.act i { dropAt }
      (matching_map some (Surroundings.matching_perform fates context operation))
    refine ⟨congrArg some report, ?_, stage⟩
    rintro _ _ _ _ ⟨⟩ _ ⟨⟩
    exact sent
  | put record =>
    refine silent { h with store := ?_ } (by rintro _ _ _ _ ⟨⟩)
    exact congrArg (fun store => (store.put record).2.1) h.store
  | delete name namespaceName =>
    refine silent { h with store := ?_ } (by rintro _ _ _ _ ⟨⟩)
    exact congrArg (fun store => (store.delete name namespaceName).1) h.store
  | setValue key value =>
    refine silent { h with store := ?_ } (by rintro _ _ _ _ ⟨⟩)
    exact congrArg (fun store => (store.setValue key value).2.1) h.store
  | turn change =>
    exact silent { h with circumstances := congrArg change h.circumstances } (by rintro _ _ _ _ ⟨⟩)
  | pass milliseconds =>
    exact silent { h with now := congrArg (· + milliseconds) h.now } (by rintro _ _ _ _ ⟨⟩)

namespace Surroundings

/-- What is seen in the steps of a run other than closing, up to the transports that are held. -/
def seen (env : Surroundings ι ρ ν) (fates : Nat → Fate) (stage : Stage ι ρ ν)
    (steps : List (Step ι ρ)) : List (Option Report) :=
  ((steps.zip (env.play fates stage steps).1).filter fun made => !made.1.isClose).map
    fun made => made.2.map Report.withoutTransport

theorem seen_close {step : Step ι ρ} {rest : List (Step ι ρ)} (closes : step.isClose = true) :
    env.seen fates a (step :: rest) = env.seen fates (env.step fates a step).2 rest := by
  simp [seen, play, closes]

theorem seen_other {step : Step ι ρ} {rest : List (Step ι ρ)} (other : step.isClose = false) :
    env.seen fates a (step :: rest) = (env.step fates a step).1.map Report.withoutTransport ::
      env.seen fates (env.step fates a step).2 rest := by
  simp [seen, play, other]

theorem seen_withoutClosing (fates : Nat → Fate) (steps : List (Step ι ρ)) (h : a.Tied env b) :
    env.seen fates a steps = env.seen fates b (withoutClosing steps) ∧
      (∀ made ∈ steps.zip (env.play fates a steps).1, env.Carries made.1 made.2) ∧
      (env.play fates a steps).2.Tied env (env.play fates b (withoutClosing steps)).2 := by
  induction steps generalizing a b with
  | nil => exact ⟨rfl, fun _ nothing => (List.not_mem_nil nothing).elim, h⟩
  | cons step rest ih =>
    cases hclose : step.isClose with
    | true =>
      have shorter : withoutClosing (step :: rest) = withoutClosing rest := by
        simp [withoutClosing, hclose]
      have next : (env.step fates a step).2.Tied env b := by
        cases step with
        | close i => exact h.close i
        | operate | put | delete | setValue | turn | pass => cases hclose
      obtain ⟨looks, carries, last⟩ := ih next
      rw [seen_close hclose, shorter]
      refine ⟨looks, fun made hmade => ?_, last⟩
      rcases List.mem_cons.1 hmade with rfl | later
      · rintro i context dropAt operation rfl
        cases hclose
      · exact carries made later
    | false =>
      have longer : withoutClosing (step :: rest) = step :: withoutClosing rest := by
        simp [withoutClosing, hclose]
      obtain ⟨report, sent, next⟩ := step_tied fates h hclose
      obtain ⟨looks, carries, last⟩ := ih next
      rw [longer, seen_other hclose, seen_other hclose, report, looks]
      refine ⟨rfl, fun made hmade => ?_, last⟩
      rcases List.mem_cons.1 hmade with rfl | later
      · exact sent
      · exact carries made later

end Surroundings

/-- The handle has just been built for some record. -/
def Handle.IsBuilt (handle : Handle) (state : HandleState) : Prop :=
  ∃ (spec : HandleSpec) (record : MemoryRecord), spec.ofRecord record = .ok (handle, state)

theorem Handle.IsBuilt.own {handle : Handle} {state : HandleState} (h : handle.IsBuilt state) :
    handle.openTransport state = handle.ownTransport := by
  obtain ⟨spec, record, built⟩ := h
  unfold HandleSpec.ofRecord at built
  split at built
  · cases built
  · split at built
    · cases built
    · cases built
      cases hshared : spec.shared <;> simp [openTransport, ownTransport]

/-- **Closing changes nothing for the operations.** Take two runs from the same stage, on which every
handle has just been built, with or without a transport that its caller gave. If they differ only in
where handles are closed, every other step looks the same in both: it has the same result, sends the
same requests, tells the same events and leaves the same base address, and in the end the store, the
network, the time and all base addresses are the same. What is sent through a transport that the
caller gave carries the default headers of this transport, but for those that the request sets
itself. -/
theorem play_without_closing (fates : Nat → Fate) (steps steps' : List (Step ι ρ))
    (stage : Stage ι ρ ν) (built : ∀ i, (env.handle i).IsBuilt (stage.states i))
    (same : withoutClosing steps = withoutClosing steps') :
    env.seen fates stage steps = env.seen fates stage steps' ∧
      (env.play fates stage steps).2.Tied env (env.play fates stage steps').2 ∧
      ∀ i context dropAt operation report transport,
        (.operate i context dropAt operation, some report) ∈
          steps.zip (env.play fates stage steps).1 →
        (env.handle i).shared = some transport → ∀ request ∈ report.sent,
          request.headers = Request.withDefaults
            [operation.header, ("user-agent", (env.handle i).settings.userAgent)]
            transport.defaultHeaders := by
  have own (i : ι) := (built i).own
  have self : stage.Tied env stage := ⟨rfl, rfl, rfl, rfl, rfl, fun _ => rfl, own, own⟩
  obtain ⟨looks, carries, last⟩ := Surroundings.seen_withoutClosing fates steps self
  obtain ⟨looks', -, last'⟩ := Surroundings.seen_withoutClosing fates steps' self
  rw [same] at looks last
  refine ⟨looks.trans looks'.symm, last.trans last'.symm, ?_⟩
  intro i context dropAt operation report transport hmade hshared request hrequest
  have headers := carries _ hmade i context dropAt operation rfl report rfl request hrequest
  rw [headers, Handle.headersFor, Handle.ownTransport, hshared]
  rfl

/-! ## An example -/

namespace Surroundings

/-- The transport that the caller of the second of two handles gives. -/
def lentTransport (second : Bool) : Option Transport :=
  if second then some { defaultHeaders := [("x-tenant", "acme")] } else none

/-- The record of both handles. -/
def lentRecord : MemoryRecord :=
  { MemoryRecord.create "notes" "team" (.literal "http://[::1]") with
    status := { lastResolvedAddress := some "http://[::1]" } }

/-- Two handles for one record, the second one with a transport that its caller gave. -/
def lent : Surroundings Bool Unit Unit where
  handle second :=
    { name := "notes", namespaceName := "team", sessionId := if second then "b" else "a"
      settings := Settings.standard.memory
      shared := lentTransport second }
  resolve _ _ _ _ _ := .ok "http://[::1]"
  delay _ := some 2
  network := fun _ network =>
    .afterWait 5 (.ok ⟨200, .whole (Utf8.encode "{}".toList)⟩) network network

/-- The handles when they have just been built. -/
def lentStage : Stage Bool Unit Unit where
  scene :=
    { store := .memory { records := [(("team", "notes"), lentRecord)] }
      circumstances := ()
      network := () }
  states second := ⟨"http://[::1]", lentTransport second⟩

/-- Both handles are closed in the middle, and one at the end. -/
def lentSteps : List (Step Bool Unit) :=
  [.operate true {} none .get, .close true, .close true, .operate true {} none .get, .close false,
    .operate false {} none .get, .close true]

theorem isBuilt_lent (second : Bool) : (lent.handle second).IsBuilt (lentStage.states second) := by
  let spec : HandleSpec :=
    { name := "notes", namespaceName := "team", sessionId := some (if second then "b" else "a")
      shared := lentTransport second }
  refine ⟨spec, lentRecord, ?_⟩
  cases second <;> rfl

/-- The second handle has lost its transport twice; all of its requests carry the headers that were
given with it. -/
theorem play_without_closing_lent :
    (∀ second, (lent.handle second).IsBuilt (lentStage.states second)) ∧
      ((lent.play kept lentStage lentSteps).2.states true).transport = none ∧
      ((lent.play kept lentStage (withoutClosing lentSteps)).2.states true).transport.isSome ∧
      lent.seen kept lentStage lentSteps = lent.seen kept lentStage (withoutClosing lentSteps) ∧
      ((lent.play kept lentStage lentSteps).1.map fun report => (report.elim [] Report.sent).length) =
        [1, 0, 0, 1, 0, 1, 0] ∧
      ∀ report, (.operate true {} none .get, some report) ∈
          lentSteps.zip (lent.play kept lentStage lentSteps).1 →
        ∀ request ∈ report.sent, ("x-tenant", "acme") ∈ request.headers := by
  have same : withoutClosing lentSteps = withoutClosing (withoutClosing lentSteps) := rfl
  obtain ⟨looks, -, carried⟩ :=
    play_without_closing kept lentSteps (withoutClosing lentSteps) lentStage isBuilt_lent same
  refine ⟨isBuilt_lent, by decide +kernel, by decide +kernel, looks, by decide +kernel, ?_⟩
  intro report hmade request hrequest
  rw [carried true _ _ _ report { defaultHeaders := [("x-tenant", "acme")] } hmade rfl request
    hrequest]
  decide

end Surroundings

end ConversationMemory
