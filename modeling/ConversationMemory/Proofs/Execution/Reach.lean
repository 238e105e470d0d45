import ConversationMemory.Execution

/-!
# Runs that come to a result

* `Reply.Answers`: a call to the world gets an answer, in a world after it.
* `Run.Reaches`: a computation comes to a result in a state. `reaches_bind`, `reaches_await` and the
  like take a computation apart; nobody else unfolds `Run`.
* `World.Serves`: a world that answers every call of an operation.
* `Run.Settles`: a computation comes to a result from every state with some property, provided that
  nothing stops it (`Scope.IsQuiet`); **`settles_await`**: a call settles when it is answered.
-/

namespace ConversationMemory

variable {σ α β : Type}

/-! ## Answers -/

/-- The call is answered, in the world after it. -/
def Reply.Answers : Reply σ α → α → σ → Prop
  | .atOnce answer world, a, after => answer = a ∧ world = after
  | .afterWait _ answer world _, a, after => answer = a ∧ world = after
  | .never _, _, _ => False
  | .crash _, _, _ => False

theorem Reply.Answers.unique {reply : Reply σ α} {a b : α} {x y : σ} (ha : reply.Answers a x)
    (hb : reply.Answers b y) : a = b ∧ x = y := by
  cases reply with
  | atOnce answer world =>
    obtain ⟨rfl, rfl⟩ := ha
    exact hb
  | afterWait milliseconds answer world left =>
    obtain ⟨rfl, rfl⟩ := ha
    exact hb
  | never left => exact ha.elim
  | crash world => exact ha.elim

/-- A world that answers every call of an operation. It is `fresh` until a status is written, and
`written` after that. -/
structure World.Serves (world : World σ) (fresh written : σ → Prop) : Prop where
  get : ∀ name namespaceName x, fresh x →
    ∃ a y, (world.get name namespaceName x).Answers a y ∧ fresh y
  resolve : ∀ spec namespaceName x, fresh x →
    ∃ a y, (world.resolve spec namespaceName x).Answers a y ∧ fresh y
  updateStatus : ∀ record x, fresh x →
    ∃ a y, (world.updateStatus record x).Answers a y ∧ written y
  send : ∀ request x, fresh x ∨ written x → ∃ a y, (world.send request x).Answers a y
  log_fresh : ∀ entry x, fresh x → fresh (world.log entry x)
  log_written : ∀ entry x, written x → written (world.log entry x)

theorem World.Serves.log {world : World σ} {fresh written : σ → Prop}
    (serves : world.Serves fresh written) (entry : LogEntry) {x : σ} (h : fresh x ∨ written x) :
    fresh (world.log entry x) ∨ written (world.log entry x) :=
  h.imp (serves.log_fresh entry x) (serves.log_written entry x)

namespace Run

/-! ## Results -/

/-- The computation comes to a result, in the state after it. -/
def Reaches (x : Run σ α) (scope : Scope) (s : Running σ) (a : α) (t : Running σ) : Prop :=
  x scope s = (.ok a, t)

variable {scope : Scope} {s t : Running σ} {a a' : α} {b : β}

theorem Reaches.unique {x : Run σ α} {t' : Running σ} (h : x.Reaches scope s a t)
    (h' : x.Reaches scope s a' t') : a = a' ∧ t = t' := by
  have : ((.ok a, t) : Except Abort α × Running σ) = (.ok a', t') := h.symm.trans h'
  simpa using this

theorem reaches_pure : (pure a : Run σ α).Reaches scope s a' t ↔ a' = a ∧ t = s := by
  constructor
  · intro h
    have : ((.ok a, s) : Except Abort α × Running σ) = (.ok a', t) := h
    simp only [Prod.mk.injEq, Except.ok.injEq] at this
    exact ⟨this.1.symm, this.2.symm⟩
  · rintro ⟨rfl, rfl⟩
    rfl

theorem bind_ok {x : Run σ α} {f : α → Run σ β} (h : x scope s = (.ok a, t)) :
    (x >>= f) scope s = f a scope t := by
  simp only [Bind.bind, h]

theorem bind_error {x : Run σ α} {f : α → Run σ β} {reason : Abort}
    (h : x scope s = (.error reason, t)) : (x >>= f) scope s = (.error reason, t) := by
  simp only [Bind.bind, h]

theorem reaches_bind {x : Run σ α} {f : α → Run σ β} :
    (x >>= f).Reaches scope s b t ↔
      ∃ a u, x.Reaches scope s a u ∧ (f a).Reaches scope u b t := by
  constructor
  · intro h
    rcases hx : x scope s with ⟨reason | a, u⟩
    · rw [Reaches, bind_error hx] at h
      cases h
    · rw [Reaches, bind_ok hx] at h
      exact ⟨a, u, hx, h⟩
  · rintro ⟨a, u, hx, hf⟩
    rw [Reaches, bind_ok hx]
    exact hf

instance : LawfulMonad (Run σ) := by
  refine .mk' _ (fun x => ?_) (fun _ _ => rfl) fun x f g => ?_
  · funext scope s
    change (x >>= fun a => pure a) scope s = x scope s
    rcases h : x scope s with ⟨reason | a, t⟩
    · exact bind_error h
    · exact bind_ok h
  · funext scope s
    rcases h : x scope s with ⟨reason | a, t⟩
    · rw [bind_error h, bind_error (bind_error h)]
    · rw [bind_ok h]
      simp only [Bind.bind, h]

theorem reaches_map {x : Run σ α} {f : α → β} :
    (f <$> x).Reaches scope s b t ↔ ∃ a, x.Reaches scope s a t ∧ f a = b := by
  change (x >>= fun a => pure (f a)).Reaches scope s b t ↔ _
  rw [reaches_bind]
  constructor
  · rintro ⟨a, u, hx, hf⟩
    obtain ⟨rfl, rfl⟩ := reaches_pure.1 hf
    exact ⟨a, hx, rfl⟩
  · rintro ⟨a, hx, rfl⟩
    exact ⟨a, t, hx, reaches_pure.2 ⟨rfl, rfl⟩⟩

theorem reaches_get {handle : HandleState} :
    (getThe HandleState : Run σ HandleState).Reaches scope s handle t ↔
      handle = s.handle ∧ t = s := by
  constructor
  · intro h
    have : ((.ok s.handle, s) : Except Abort HandleState × Running σ) = (.ok handle, t) := h
    simp only [Prod.mk.injEq, Except.ok.injEq] at this
    exact ⟨this.1.symm, this.2.symm⟩
  · rintro ⟨rfl, rfl⟩
    rfl

theorem reaches_modify {f : HandleState → HandleState} {u : Unit} :
    (modifyThe HandleState f : Run σ Unit).Reaches scope s u t ↔
      t = { s with handle := f s.handle } := by
  constructor
  · intro h
    have : ((.ok (), { s with handle := f s.handle }) : Except Abort Unit × Running σ) =
        (.ok u, t) := h
    simp only [Prod.mk.injEq] at this
    exact this.2.symm
  · rintro rfl
    rfl

theorem reaches_update {f : Running σ → Running σ} {u : Unit} :
    (update f).Reaches scope s u t ↔ t = f s := by
  constructor
  · intro h
    have : ((.ok (), f s) : Except Abort Unit × Running σ) = (.ok u, t) := h
    simp only [Prod.mk.injEq] at this
    exact this.2.symm
  · rintro rfl
    rfl

theorem not_reaches_abort {reason : Abort} : ¬ (abort reason : Run σ α).Reaches scope s a t := by
  intro h
  have : ((.error reason, s) : Except Abort α × Running σ) = (.ok a, t) := h
  simp at this

/-- What a wait leaves untouched. -/
structure Waited (s t : Running σ) : Prop where
  handle : t.handle = s.handle
  events : t.events = s.events
  started : t.started = s.started

theorem reaches_waitUntil {time : Option Nat} {left : σ}
    {next : Running σ → Except Abort α × Running σ}
    (h : waitUntil time left next scope s = (.ok a, t)) :
    ∃ u, next u = (.ok a, t) ∧ Waited s u := by
  simp only [waitUntil, waitUntil.stopAt] at h
  split at h
  · cases h
  · split at h
    · split at h
      · split at h <;> cases h
      · exact ⟨_, h, rfl, rfl, rfl⟩
    · split at h <;> cases h
    · exact ⟨_, h, rfl, rfl, rfl⟩
    · cases h

theorem reaches_await {call : σ → Reply σ α} (h : (await call).Reaches scope s a t) :
    (call s.world).Answers a t.world ∧ Waited s t := by
  simp only [Reaches, await] at h
  cases hcall : call s.world with
  | atOnce answer world =>
    rw [hcall] at h
    cases h
    exact ⟨⟨rfl, rfl⟩, rfl, rfl, rfl⟩
  | afterWait milliseconds answer world left =>
    rw [hcall] at h
    obtain ⟨u, hnext, waited⟩ := reaches_waitUntil h
    cases hnext
    exact ⟨⟨rfl, rfl⟩, waited.handle, waited.events, waited.started⟩
  | never left =>
    rw [hcall] at h
    obtain ⟨u, hnext, -⟩ := reaches_waitUntil h
    cases hnext
  | crash world =>
    rw [hcall] at h
    cases h

theorem reaches_within {context : OperationContext} {timeout : Option Nat} {body : Run σ α}
    (h : (within context timeout body).Reaches scope s (.ok a) t) :
    body.Reaches { scope with context := context.orTimeout s.now timeout }
      { s with started := s.now, waits := 0 } a t := by
  simp only [Reaches, within] at h
  split at h
  · cases h
  · simp only [Prod.mk.injEq, Except.ok.injEq] at h
    exact Prod.ext h.1 h.2

/-! ## Runs that nothing stops -/

end Run

/-- Nothing ever stops an operation in the scope. -/
structure Scope.IsQuiet (scope : Scope) : Prop where
  stopsAt : scope.context.stopsAt = none
  dropAt : scope.dropAt = none

theorem OperationContext.interruptAt_eq_none {context : OperationContext}
    (h : context.stopsAt = none) (time : Nat) : context.interruptAt time = none := by
  unfold OperationContext.stopsAt at h
  split at h
  · cases h
  · cases h
  · rename_i hfires
    simp [OperationContext.interruptAt, hfires, h]

namespace Run

/-- The computation comes to a result from every state with one property of the world, provided that
nothing stops it, and the world after it has another property. -/
def Settles (before : σ → Prop) (x : Run σ α) (after : σ → Prop) : Prop :=
  ∀ (scope : Scope) (s : Running σ), scope.IsQuiet → before s.world →
    ∃ a t, x.Reaches scope s a t ∧ after t.world

variable {before between after : σ → Prop}

theorem settles_pure (a : α) (h : ∀ x, before x → after x) :
    Settles before (pure a : Run σ α) after :=
  fun _ s _ hs => ⟨a, s, rfl, h _ hs⟩

theorem settles_bind {x : Run σ α} {f : α → Run σ β} (hx : Settles before x between)
    (hf : ∀ a, Settles between (f a) after) : Settles before (x >>= f) after := by
  intro scope s quiet hs
  obtain ⟨a, u, ha, hu⟩ := hx scope s quiet hs
  obtain ⟨b, t, hb, ht⟩ := hf a scope u quiet hu
  exact ⟨b, t, reaches_bind.2 ⟨a, u, ha, hb⟩, ht⟩

theorem settles_get : Settles before (getThe HandleState : Run σ HandleState) before :=
  fun _ s _ hs => ⟨s.handle, s, rfl, hs⟩

theorem settles_modify (f : HandleState → HandleState) :
    Settles before (modifyThe HandleState f : Run σ Unit) before :=
  fun _ s _ hs => ⟨(), { s with handle := f s.handle }, rfl, hs⟩

theorem settles_update (f : Running σ → Running σ) (h : ∀ s, before s.world → after (f s).world) :
    Settles before (update f) after :=
  fun _ s _ hs => ⟨(), f s, rfl, h s hs⟩

/-- **A call settles when the world always answers it.** -/
theorem settles_await {call : σ → Reply σ α}
    (h : ∀ x, before x → ∃ a y, (call x).Answers a y ∧ after y) :
    Settles before (await call) after := by
  intro scope s quiet hs
  obtain ⟨a, y, ha, hy⟩ := h s.world hs
  simp only [Reaches, await]
  cases hcall : call s.world with
  | atOnce answer world =>
    rw [hcall] at ha
    obtain ⟨rfl, rfl⟩ := ha
    exact ⟨answer, _, rfl, hy⟩
  | afterWait milliseconds answer world left =>
    rw [hcall] at ha
    obtain ⟨rfl, rfl⟩ := ha
    simp only [waitUntil, quiet.dropAt, quiet.stopsAt]
    exact ⟨answer, _, rfl, hy⟩
  | never left =>
    rw [hcall] at ha
    exact ha.elim
  | crash world =>
    rw [hcall] at ha
    exact ha.elim

end Run

end ConversationMemory
