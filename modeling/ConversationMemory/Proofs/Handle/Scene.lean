import ConversationMemory.Proofs.Handle.Twin

/-!
# Handles over one store

* `Scene`: a store, the circumstances around it and the network beside it.
* `Surroundings`: any number of handles over one store, each with its own resolver.
* `Fate`: what becomes of one status write. `Surroundings.world`: the world of a handle, with the
  fates of all status writes given.
* **`Surroundings.serves`**: a store below the last version serves every operation.
* `Surroundings.play`: a run of operations of the handles, among which the store, the circumstances
  and the time change.
* `Surroundings.pair`, `Surroundings.pairStage`: two handles for one record.
* **`world_alike`**: whatever becomes of the status writes, a handle finds worlds that are alike.
-/

namespace ConversationMemory

variable {ι ρ ν : Type}

/-- A store with what is around it. -/
structure Scene (ρ ν : Type) where
  store : Store
  /-- What resolutions and delays depend on besides the store. -/
  circumstances : ρ
  network : ν
  /-- The requests that have been sent, in order. -/
  sent : List Request := []
  /-- How often a status write was asked for. -/
  writes : Nat := 0

/-- What becomes of one status write. -/
structure Fate where
  delay : Nat := 0
  /-- Whether it gets to the store. -/
  lands : Bool := true
  /-- The failure that is answered whatever the store says. -/
  refusal : Option StoreError := none
  /-- How far it still gets when nobody waits for it any more. -/
  unheard : WriteStage := .unstarted

/-- How far it gets while someone waits for it. -/
def Fate.heard (fate : Fate) : WriteStage := if fate.lands then .whole else .unstarted

/-- Handles over one store. -/
structure Surroundings (ι ρ ν : Type) where
  handle : ι → Handle
  /-- The resolver of each handle, which may look into the values of the store. -/
  resolve : ι → ρ → ValueSource → AddressSpec → String → Except ResolveError String
  /-- How long it takes to read or to resolve; without a time there is no answer. -/
  delay : ρ → Option Nat
  network : Network ν

/-- An answer after some time, or none at all. -/
def Reply.after {σ α : Type} (delay : Option Nat) (answer : α) (world : σ) : Reply σ α :=
  match delay with
  | some milliseconds => .afterWait milliseconds answer world world
  | none => .never world

namespace Scene

/-- The scene when a status write has been asked for, and got so far. -/
def written (scene : Scene ρ ν) (stage : WriteStage) (record : MemoryRecord) : Scene ρ ν :=
  { scene with
    store := scene.store.updateStatusUntil stage record
    writes := scene.writes + 1 }

/-- A status write that becomes what its fate says. -/
def writeBack (fate : Fate) (record : MemoryRecord) (scene : Scene ρ ν) :
    Reply (Scene ρ ν) (Except StoreError Unit) :=
  let after := scene.written fate.heard record
  let left := scene.written fate.unheard record
  let ending := if fate.lands then (scene.store.updateStatus record).1 else .done ()
  match ending, fate.refusal with
  | .crashed, _ => .crash after
  | .done _, none => .afterWait fate.delay (.ok ()) after left
  | .failed e, none => .afterWait fate.delay (.error e) after left
  | _, some refusal => .afterWait fate.delay (.error refusal) after left

end Scene

namespace Surroundings

/-- What a handle calls upon, with the fates of the status writes in their order. -/
def world (env : Surroundings ι ρ ν) (fates : Nat → Fate) (i : ι) : World (Scene ρ ν) where
  get name namespaceName scene :=
    .after (env.delay scene.circumstances) (scene.store.get name namespaceName).1 scene
  resolve spec namespaceName scene :=
    let values : ValueSource := fun key => scene.store.configValue key
    .after (env.delay scene.circumstances)
      (env.resolve i scene.circumstances values spec namespaceName) scene
  updateStatus record scene := scene.writeBack (fates scene.writes) record
  send request scene :=
    (env.network request scene.network).within fun network =>
      { scene with network, sent := scene.sent ++ [request] }
  log _ scene := scene

end Surroundings

/-! ## Answers -/

theorem Reply.answers_after {σ α : Type} {delay : Option Nat} (ends : delay.isSome) (answer : α)
    (world : σ) : (Reply.after delay answer world).Answers answer world := by
  cases delay with
  | none => cases ends
  | some milliseconds => exact ⟨rfl, rfl⟩

theorem Scene.writeBack_cases (scene : Scene ρ ν) (fate : Fate) (record : MemoryRecord) :
    ((fate.lands ∧ (scene.store.updateStatus record).1 = .crashed) ∧
      ∃ after, scene.writeBack fate record = .crash after) ∨
    ∃ answer, scene.writeBack fate record = .afterWait fate.delay answer
      (scene.written fate.heard record) (scene.written fate.unheard record) := by
  simp only [writeBack]
  cases fate.lands with
  | false => cases fate.refusal <;> exact .inr ⟨_, rfl⟩
  | true =>
    simp only [if_true]
    cases (scene.store.updateStatus record).1 with
    | crashed => exact .inl ⟨⟨trivial, rfl⟩, _, rfl⟩
    | done _ => cases fate.refusal <;> exact .inr ⟨_, rfl⟩
    | failed e => cases fate.refusal <;> exact .inr ⟨_, rfl⟩

theorem Scene.writeBack_answers {scene : Scene ρ ν} (below : scene.store.VersionsBelow)
    (fate : Fate) (record : MemoryRecord) :
    ∃ answer, scene.writeBack fate record = .afterWait fate.delay answer
      (scene.written fate.heard record) (scene.written fate.unheard record) :=
  (scene.writeBack_cases fate record).resolve_left fun breaks =>
    Store.updateStatus_ends below record breaks.1.2

/-- **A store below the last version serves every operation**, if reads come to an end and the
network answers. -/
theorem Surroundings.serves (env : Surroundings ι ρ ν) (fates : Nat → Fate) (i : ι) {τ : Type}
    {network : Network τ} (ends : ∀ circumstances, (env.delay circumstances).isSome)
    (answers : ∀ request n, ∃ a n', (network request n).Answers a n') :
    ((env.world fates i).beside network).Serves (fun x => x.1.store.VersionsBelow)
      (fun _ => True) where
  get name namespaceName x below :=
    ⟨_, x, Reply.answers_within.2 ⟨x.1, Reply.answers_after (ends _) _ _, rfl⟩, below⟩
  resolve spec namespaceName x below :=
    ⟨_, x, Reply.answers_within.2 ⟨x.1, Reply.answers_after (ends _) _ _, rfl⟩, below⟩
  updateStatus record x below := by
    obtain ⟨answer, wrote⟩ := Scene.writeBack_answers below (fates x.1.writes) record
    refine ⟨answer, (x.1.written (fates x.1.writes).heard record, x.2), ?_, trivial⟩
    refine Reply.answers_within.2 ⟨_, ?_, rfl⟩
    simp only [world]
    rw [wrote]
    exact ⟨rfl, rfl⟩
  send request x _ := by
    obtain ⟨a, n, answered⟩ := answers request x.2
    exact ⟨a, (x.1, n), Reply.answers_within.2 ⟨n, answered, rfl⟩⟩
  log_fresh _ _ below := below
  log_written _ _ _ := trivial

/-! ## Runs -/

/-- The scene with the states of all handles over its store. -/
structure Stage (ι ρ ν : Type) where
  scene : Scene ρ ν
  states : ι → HandleState
  now : Nat := 0

/-- What happens next. -/
inductive Step (ι ρ : Type)
  | operate (i : ι) (context : OperationContext) (dropAt : Option Nat) (operation : Operation)
  | close (i : ι)
  | put (record : MemoryRecord)
  | delete (name namespaceName : String)
  | setValue (key : ValueKey) (value : String)
  /-- The circumstances change. -/
  | turn (change : ρ → ρ)
  | pass (milliseconds : Nat)

/-- What is seen of a handle in a step. -/
structure Report where
  /-- The result, or why there is none; closing has no result. -/
  outcome : Except Abort (Option (Except MemoryError Answer))
  sent : List Request
  events : List OperationEvent
  state : HandleState

/-- The report up to the durations of events. -/
def Report.undated (report : Report) : Report :=
  { report with events := report.events.map OperationEvent.undated }

namespace Stage

/-- A handle does something on the stage. -/
def act [DecidableEq ι] (stage : Stage ι ρ ν) (i : ι) (scope : Scope)
    (deed : Run (Scene ρ ν) (Option (Except MemoryError Answer))) : Report × Stage ι ρ ν :=
  let (outcome, last) := deed scope
    { world := { stage.scene with sent := [] }, handle := stage.states i, now := stage.now }
  (⟨outcome, last.world.sent, last.events, last.handle⟩,
    { scene := last.world
      states := fun j => if j = i then last.handle else stage.states j
      now := last.now })

/-- The stage with another store. -/
def withStore (stage : Stage ι ρ ν) (store : Store) : Stage ι ρ ν :=
  { stage with scene := { stage.scene with store } }

end Stage

namespace Surroundings

variable [DecidableEq ι]

/-- One step, with what is seen of a handle in it. -/
def step (env : Surroundings ι ρ ν) (fates : Nat → Fate) (stage : Stage ι ρ ν) :
    Step ι ρ → Option Report × Stage ι ρ ν
  | .operate i context dropAt operation =>
    let deed := (env.handle i).perform ((env.world fates i).collaborators .recording) context
      operation
    let (report, next) := stage.act i { dropAt } (some <$> deed)
    (some report, next)
  | .close i =>
    let deed := (env.handle i).close ((env.world fates i).collaborators .recording)
    let (report, next) := stage.act i {} ((fun _ => none) <$> deed)
    (some report, next)
  | .put record => (none, stage.withStore (stage.scene.store.put record).2.1)
  | .delete name namespaceName =>
    (none, stage.withStore (stage.scene.store.delete name namespaceName).1)
  | .setValue key value => (none, stage.withStore (stage.scene.store.setValue key value).2.1)
  | .turn change =>
    (none, { stage with
      scene := { stage.scene with circumstances := change stage.scene.circumstances } })
  | .pass milliseconds => (none, { stage with now := stage.now + milliseconds })

/-- A run, with what is seen of the handles in each of its steps. -/
def play (env : Surroundings ι ρ ν) (fates : Nat → Fate) :
    Stage ι ρ ν → List (Step ι ρ) → List (Option Report) × Stage ι ρ ν
  | stage, [] => ([], stage)
  | stage, step :: rest =>
    let (report, next) := env.step fates stage step
    let (reports, last) := env.play fates next rest
    (report :: reports, last)

/-- No record in the store ever has the last version. -/
def StaysBelow (env : Surroundings ι ρ ν) (fates : Nat → Fate) :
    Stage ι ρ ν → List (Step ι ρ) → Prop
  | stage, [] => stage.scene.store.VersionsBelow
  | stage, step :: rest =>
    stage.scene.store.VersionsBelow ∧ env.StaysBelow fates (env.step fates stage step).2 rest

/-- Nothing in the step looks at the clock. -/
def IsTimeless (env : Surroundings ι ρ ν) : Step ι ρ → Prop
  | .operate i context _ _ =>
    context.stopsAt = none ∧ (env.handle i).settings.operationTimeout = none
  | _ => True

end Surroundings

/-! ## An example -/

namespace Surroundings

/-- Two handles for one record, whose service is at the loopback address. -/
def pair : Surroundings Bool Unit Unit where
  handle second :=
    { name := "notes", namespaceName := "team", sessionId := if second then "b" else "a"
      settings := Settings.standard.memory }
  resolve _ _ _ _ _ := .ok "http://[::1]"
  delay _ := some 2
  network := fun _ network => .afterWait 5 (.ok ⟨204, .whole []⟩) network network

/-- The handles before their first operation. -/
def pairStage : Stage Bool Unit Unit where
  scene :=
    { store := .memory
        { records := [(("team", "notes"), .create "notes" "team" (.literal "http://[::1]"))] }
      circumstances := ()
      network := () }
  states _ := ⟨"http://old", none⟩

/-- Every status write gets to the store. -/
def kept : Nat → Fate := fun _ => {}

/-- Every status write is refused. -/
def refused : Nat → Fate := fun _ =>
  { lands := false, refusal := some (.conflict "team" "notes" 1 2) }

end Surroundings

/-! ## Scenes that are alike -/

/-- Two scenes that differ in the statuses and versions of records only. -/
structure Scene.Alike (a b : Scene ρ ν) : Prop where
  store : a.store.Alike b.store
  circumstances : a.circumstances = b.circumstances
  network : a.network = b.network
  sent : a.sent = b.sent
  writes : a.writes = b.writes

/-- Two scenes that are alike, with no record of the last version. -/
structure Scene.Fresh (a b : Scene ρ ν) : Prop extends a.Alike b where
  below : a.store.VersionsBelow
  below' : b.store.VersionsBelow

theorem Scene.Alike.written {a b : Scene ρ ν} (h : a.Alike b) (stage stage' : WriteStage)
    (record record' : MemoryRecord) :
    (a.written stage record).Alike (b.written stage' record') := by
  have left := Store.updateStatusUntil_alike stage a.store record
  have left' := Store.updateStatusUntil_alike stage' b.store record'
  refine ⟨?_, h.circumstances, h.network, h.sent, ?_⟩
  · exact left.symm.trans (h.store.trans left')
  · exact congrArg (· + 1) h.writes

variable {timed : Prop} {fates fates' : Nat → Fate}

theorem Reply.after_alike {σ α : Type} {results : α → α → Prop} {fresh written : σ → σ → Prop}
    {delay : Option Nat} {a b : α} {x y : σ} (answers : results a b) (after : fresh x y)
    (left : written x y) :
    (Reply.after delay a x).Alike timed results fresh written (Reply.after delay b y) := by
  cases delay with
  | none => exact left
  | some milliseconds => exact ⟨fun _ => rfl, answers, after, left⟩

theorem Reply.within_alike {σ τ α : Type} {written : σ → σ → Prop} {reply : Reply τ α}
    {put put' : τ → σ} (h : ∀ n, written (put n) (put' n)) :
    (reply.within put).Alike timed Eq written written (reply.within put') := by
  cases reply with
  | atOnce answer world => exact ⟨rfl, h world⟩
  | afterWait milliseconds answer world left => exact ⟨fun _ => rfl, rfl, h world, h left⟩
  | never left => exact h left
  | crash world => exact h world

/-- **Whatever becomes of the status writes, a handle finds worlds that are alike.** -/
theorem Surroundings.world_alike (env : Surroundings ι ρ ν) (i : ι)
    (pace : timed → ∀ k, (fates k).delay = (fates' k).delay) :
    World.Alike timed Scene.Fresh Scene.Alike (env.world fates i) (env.world fates' i) where
  weaken _ _ h := h.toAlike
  get name namespaceName x y h := by
    simp only [world]
    rw [h.circumstances]
    exact Reply.after_alike (Store.get_alike h.store _ _) h h.toAlike
  resolve spec namespaceName x y h := by
    have values : (fun key => x.store.configValue key) = fun key => y.store.configValue key := by
      funext key
      exact Store.configValue_alike h.store key
    simp only [world]
    rw [h.circumstances, values]
    exact Reply.after_alike rfl h h.toAlike
  updateStatus record record' x y h := by
    obtain ⟨answer, hx⟩ := Scene.writeBack_answers h.below (fates x.writes) record
    obtain ⟨answer', hy⟩ := Scene.writeBack_answers h.below' (fates' y.writes) record'
    simp only [world]
    rw [hx, hy]
    refine ⟨fun clock => ?_, trivial, h.toAlike.written _ _ _ _, h.toAlike.written _ _ _ _⟩
    rw [h.writes]
    exact pace clock y.writes
  send request x y h := by
    simp only [world]
    rw [h.network]
    refine Reply.within_alike fun network => ?_
    exact ⟨h.store, h.circumstances, rfl, by rw [h.sent], h.writes⟩
  log _ _ := ⟨rfl, rfl⟩

end ConversationMemory
