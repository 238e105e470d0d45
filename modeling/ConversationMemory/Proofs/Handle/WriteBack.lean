import ConversationMemory.Proofs.Handle.Scene

/-!
# Status writes change nothing for the operations

* `Stage.Alike`: two stages that differ in the statuses and versions of records only.
* `step_alike`: one step of two runs that differ in what becomes of their status writes.
* **`play_alike`**: the handles do the same in both runs, and what they keep and the stores keep
  stays alike.
-/

namespace ConversationMemory

variable {ι ρ ν : Type} {timed : Prop} {env : Surroundings ι ρ ν} {fates fates' : Nat → Fate}

/-- Two stages that differ in the statuses and versions of records only, and in the time unless the
clocks go alike. -/
structure Stage.Alike (timed : Prop) (a b : Stage ι ρ ν) : Prop where
  scene : a.scene.Alike b.scene
  states : a.states = b.states
  now : timed → a.now = b.now

variable {a b : Stage ι ρ ν}

theorem Stage.Alike.refl (timed : Prop) (a : Stage ι ρ ν) : a.Alike timed a :=
  ⟨⟨.refl _, rfl, rfl, rfl, rfl⟩, rfl, fun _ => rfl⟩

theorem Stage.Alike.withStore (h : a.Alike timed b) {store store' : Store}
    (alike : store.Alike store') : (a.withStore store).Alike timed (b.withStore store') :=
  ⟨⟨alike, h.scene.circumstances, h.scene.network, h.scene.sent, h.scene.writes⟩, h.states, h.now⟩

theorem Stage.act_alike [DecidableEq ι] {before : Scene ρ ν → Scene ρ ν → Prop}
    {deed deed' : Run (Scene ρ ν) (Option (Except MemoryError Answer))} (i : ι) (scope : Scope)
    (h : a.Alike timed b) (quiet : scope.context.IsTimed timed)
    (start : before { a.scene with sent := [] } { b.scene with sent := [] })
    (coupled : Run.Coupled timed Scene.Alike before deed deed' Eq Scene.Alike) :
    (a.act i scope deed).1.undated = (b.act i scope deed').1.undated ∧
      (a.act i scope deed).2.Alike timed (b.act i scope deed').2 := by
  have ended := coupled scope
    { world := { a.scene with sent := [] }, handle := a.states i, now := a.now }
    { world := { b.scene with sent := [] }, handle := b.states i, now := b.now } quiet
    ⟨start, congrFun h.states i, rfl, rfl, h.now, fun _ => rfl⟩
  have leaves {outcome outcome' : Except Abort (Option (Except MemoryError Answer))}
      {s t : Running (Scene ρ ν)} (same : outcome = outcome') (hst : s.Alike timed Scene.Alike t) :
      Report.undated ⟨outcome, s.world.sent, s.events, s.handle⟩ =
          Report.undated ⟨outcome', t.world.sent, t.events, t.handle⟩ ∧
        Stage.Alike timed
          ⟨s.world, fun j => if j = i then s.handle else a.states j, s.now⟩
          ⟨t.world, fun j => if j = i then t.handle else b.states j, t.now⟩ := by
    refine ⟨?_, hst.world, ?_, hst.now⟩
    · simp only [Report.undated, same, hst.world.sent, hst.events, hst.handle]
    · rw [hst.handle, h.states]
  simp only [Stage.act]
  generalize deed _ _ = p at ended ⊢
  generalize deed' _ _ = q at ended ⊢
  obtain ⟨x | x, s⟩ := p <;> obtain ⟨y | y, t⟩ := q
  · exact leaves (congrArg Except.error ended.1) ended.2
  · exact ended.elim
  · exact ended.elim
  · exact leaves (congrArg Except.ok ended.1) ended.2

/-! ## Steps and runs -/

variable [DecidableEq ι]

theorem step_alike (pace : timed → ∀ k, (fates k).delay = (fates' k).delay) {step : Step ι ρ}
    (quiet : timed ∨ env.IsTimeless step) (h : a.Alike timed b)
    (below : a.scene.store.VersionsBelow) (below' : b.scene.store.VersionsBelow) :
    (env.step fates a step).1.map Report.undated =
        (env.step fates' b step).1.map Report.undated ∧
      (env.step fates a step).2.Alike timed (env.step fates' b step).2 := by
  have alike (i : ι) : World.Alike timed Scene.Fresh Scene.Alike (env.world fates i)
      (env.world fates' i) := env.world_alike i pace
  have emptied : Scene.Alike { a.scene with sent := [] } { b.scene with sent := [] } :=
    ⟨h.scene.store, h.scene.circumstances, h.scene.network, rfl, h.scene.writes⟩
  cases step with
  | operate i context dropAt operation =>
    have coupled := Run.coupled_map (f := some) (g := some)
      (Handle.coupled_perform (alike i) operation quiet) fun x y => congrArg some
    obtain ⟨report, stage⟩ := Stage.act_alike i { dropAt } h (.inr rfl)
      ⟨emptied, below, below'⟩ coupled
    exact ⟨congrArg some report, stage⟩
  | close i =>
    have closes : Run.Coupled timed Scene.Alike Scene.Alike
        ((env.handle i).close ((env.world fates i).collaborators .recording))
        ((env.handle i).close ((env.world fates' i).collaborators .recording)) Eq Scene.Alike :=
      Handle.coupled_close (alike i)
    have coupled := Run.coupled_map closes fun x y _ =>
      (rfl : (none : Option (Except MemoryError Answer)) = none)
    obtain ⟨report, stage⟩ := Stage.act_alike i {} h (.inr rfl) emptied coupled
    exact ⟨congrArg some report, stage⟩
  | put record => exact ⟨rfl, h.withStore (Store.put_alike h.scene.store below below' record)⟩
  | delete name namespaceName =>
    exact ⟨rfl, h.withStore (Store.delete_alike h.scene.store name namespaceName)⟩
  | setValue key value => exact ⟨rfl, h.withStore (Store.setValue_alike h.scene.store key value)⟩
  | turn change =>
    refine ⟨rfl, ⟨h.scene.store, ?_, h.scene.network, h.scene.sent, h.scene.writes⟩, h.states, h.now⟩
    exact congrArg change h.scene.circumstances
  | pass milliseconds =>
    exact ⟨rfl, h.scene, h.states, fun clock => congrArg (· + milliseconds) (h.now clock)⟩

theorem play_alike_of_alike (pace : timed → ∀ k, (fates k).delay = (fates' k).delay)
    {steps : List (Step ι ρ)} (quiet : ∀ step ∈ steps, timed ∨ env.IsTimeless step)
    (h : a.Alike timed b) (below : env.StaysBelow fates a steps)
    (below' : env.StaysBelow fates' b steps) :
    (env.play fates a steps).1.map (Option.map Report.undated) =
        (env.play fates' b steps).1.map (Option.map Report.undated) ∧
      (env.play fates a steps).2.Alike timed (env.play fates' b steps).2 := by
  induction steps generalizing a b with
  | nil => exact ⟨rfl, h⟩
  | cons step rest ih =>
    obtain ⟨here, later⟩ := below
    obtain ⟨here', later'⟩ := below'
    obtain ⟨report, next⟩ := step_alike pace (quiet step List.mem_cons_self) h here here'
    obtain ⟨reports, last⟩ :=
      ih (fun step hstep => quiet step (List.mem_cons_of_mem _ hstep)) next later later'
    refine ⟨?_, last⟩
    simp only [Surroundings.play, List.map_cons]
    rw [report, reports]

/-- **What becomes of status writes never counts for the operations.** Take two runs of the same
steps, from the same stage, in which the status writes meet different fates: they take the same
time, or nothing looks at the clock. While no version in the store is the last one, every operation
has the same result, sends the same requests, tells the same events up to their durations and leaves
its handle in the same state, and what the stores say differs in the statuses and versions of
records only. -/
theorem play_alike (steps : List (Step ι ρ)) (stage : Stage ι ρ ν)
    (clocks : (∀ k, (fates k).delay = (fates' k).delay) ∨ ∀ step ∈ steps, env.IsTimeless step)
    (below : env.StaysBelow fates stage steps) (below' : env.StaysBelow fates' stage steps) :
    (env.play fates stage steps).1.map (Option.map Report.undated) =
        (env.play fates' stage steps).1.map (Option.map Report.undated) ∧
      (env.play fates stage steps).2.states = (env.play fates' stage steps).2.states ∧
      (∀ name namespaceName,
        ((env.play fates stage steps).2.scene.store.get name namespaceName).1.map
            MemoryRecord.lasting =
          ((env.play fates' stage steps).2.scene.store.get name namespaceName).1.map
            MemoryRecord.lasting) ∧
      ∀ key, (env.play fates stage steps).2.scene.store.configValue key =
        (env.play fates' stage steps).2.scene.store.configValue key := by
  have quiet : ∀ step ∈ steps, (∀ k, (fates k).delay = (fates' k).delay) ∨ env.IsTimeless step := by
    intro step hstep
    rcases clocks with pace | timeless
    · exact .inl pace
    · exact .inr (timeless step hstep)
  obtain ⟨reports, last⟩ := play_alike_of_alike id quiet (.refl _ stage) below below'
  exact ⟨reports, last.states, Store.get_alike last.scene.store,
    Store.configValue_alike last.scene.store⟩

/-! ## An example -/

namespace Surroundings

/-- Whether a store in memory has room for one more version all along. -/
def keepsRoom (env : Surroundings ι ρ ν) (fates : Nat → Fate) :
    Stage ι ρ ν → List (Step ι ρ) → Bool
  | stage, [] => stage.scene.store.hasRoom
  | stage, step :: rest =>
    stage.scene.store.hasRoom && env.keepsRoom fates (env.step fates stage step).2 rest

theorem staysBelow_of_keepsRoom {stage : Stage ι ρ ν} {steps : List (Step ι ρ)}
    (h : env.keepsRoom fates stage steps = true) : env.StaysBelow fates stage steps := by
  induction steps generalizing stage with
  | nil => exact Store.versionsBelow_of_hasRoom h
  | cons step rest ih =>
    rw [keepsRoom, Bool.and_eq_true] at h
    exact ⟨Store.versionsBelow_of_hasRoom h.1, ih h.2⟩

/-- Both handles work, and the record is stored anew between them. -/
def pairSteps : List (Step Bool Unit) :=
  [.operate false {} none .get, .put (.create "notes" "team" (.literal "http://[::1]")),
    .operate true { deadline := some 40 } none .get, .close true]

/-- The versions in the store at the end. -/
def lastVersions (fates : Nat → Fate) : List Nat :=
  match (pair.play fates pairStage pairSteps).2.scene.store with
  | .memory store => store.records.map fun (_, record) => record.metadata.resourceVersion.toNat
  | .files _ => []

/-- When both status writes are refused the store ends at another version, and the handles do the
same. -/
theorem play_alike_pair :
    lastVersions kept = [3] ∧ lastVersions refused = [1] ∧
      (pair.play kept pairStage pairSteps).1.map (Option.map Report.undated) =
        (pair.play refused pairStage pairSteps).1.map (Option.map Report.undated) := by
  refine ⟨by decide +kernel, by decide +kernel, ?_⟩
  exact (play_alike pairSteps pairStage (.inl fun _ => rfl)
    (staysBelow_of_keepsRoom (by decide +kernel)) (staysBelow_of_keepsRoom (by decide +kernel))).1

end Surroundings

end ConversationMemory
