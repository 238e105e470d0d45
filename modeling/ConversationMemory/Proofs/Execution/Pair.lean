import ConversationMemory.Proofs.Execution.Reach

/-!
# Two runs side by side

Two runs of computations in two worlds, which answer alike. The clocks go alike too (`timed`), or
nothing in the scope looks at the clock.

* `OperationEvent.undated`: an event up to its duration.
* `Reply.Alike`, `Running.Alike`: replies and states that are alike; `waitUntil_alike`: waits in
  alike states end alike.
* `Run.Coupled`: from alike states, two computations end alike. `coupled_bind`, `coupled_await` and
  the like take computations apart.
* `Run.CoupledUnless`: they do so, or the first one breaks down where it may. **`within_unless`**:
  operations in their scopes do so if their bodies do.
-/

namespace ConversationMemory

variable {σ α β γ δ : Type}

/-- The event up to its duration. -/
def OperationEvent.undated (event : OperationEvent) : OperationEvent :=
  { event with duration := event.duration.map fun _ => ⟨0, 0⟩ }

/-- Nothing in the scope looks at the clock, unless the clocks go alike. -/
def OperationContext.IsTimed (timed : Prop) (context : OperationContext) : Prop :=
  timed ∨ context.stopsAt = none

/-- Two replies are alike: both answer after the same time, or none does. -/
def Reply.Alike (timed : Prop) (answers : α → β → Prop) (after left : σ → σ → Prop) :
    Reply σ α → Reply σ β → Prop
  | .atOnce a x, .atOnce b y => answers a b ∧ after x y
  | .afterWait m a x x', .afterWait n b y y' =>
    (timed → m = n) ∧ answers a b ∧ after x y ∧ left x' y'
  | .never x, .never y => left x y
  | .crash x, .crash y => left x y
  | _, _ => False

theorem Reply.Alike.imp {timed : Prop} {answers answers' : α → β → Prop} {after left : σ → σ → Prop}
    {x : Reply σ α} {y : Reply σ β} (h : x.Alike timed answers after left y)
    (himp : ∀ a b, answers a b → answers' a b) : x.Alike timed answers' after left y := by
  cases x <;> cases y <;> simp only [Reply.Alike] at h ⊢
  · exact ⟨himp _ _ h.1, h.2⟩
  · exact ⟨h.1, himp _ _ h.2.1, h.2.2⟩
  · exact h
  · exact h

/-- Two states of a run are alike. -/
structure Running.Alike (timed : Prop) (worlds : σ → σ → Prop) (s t : Running σ) : Prop where
  world : worlds s.world t.world
  handle : s.handle = t.handle
  waits : s.waits = t.waits
  events : s.events.map OperationEvent.undated = t.events.map OperationEvent.undated
  now : timed → s.now = t.now
  started : timed → s.started = t.started

namespace Run

variable {timed : Prop} {before between after broken : σ → σ → Prop}

/-- Two runs end alike: with results that belong together, or for the same reason. -/
def EndsAlike (timed : Prop) (results : α → β → Prop) (after broken : σ → σ → Prop) :
    Except Abort α × Running σ → Except Abort β × Running σ → Prop
  | (.ok a, s), (.ok b, t) => results a b ∧ s.Alike timed after t
  | (.error e, s), (.error f, t) => e = f ∧ s.Alike timed broken t
  | _, _ => False

theorem EndsAlike.eq {worlds : σ → σ → Prop} {p q : Except Abort α × Running σ}
    (h : EndsAlike timed Eq worlds worlds p q) : p.1 = q.1 ∧ p.2.Alike timed worlds q.2 := by
  obtain ⟨a | a, s⟩ := p <;> obtain ⟨b | b, t⟩ := q
  · exact ⟨congrArg Except.error h.1, h.2⟩
  · exact h.elim
  · exact h.elim
  · exact ⟨congrArg Except.ok h.1, h.2⟩

/-- From alike states, two computations end alike in every scope. A world that was left in the
middle is `broken`. -/
def Coupled (timed : Prop) (broken before : σ → σ → Prop) (x : Run σ α) (y : Run σ β)
    (results : α → β → Prop) (after : σ → σ → Prop) : Prop :=
  ∀ (scope : Scope) (s t : Running σ), scope.context.IsTimed timed → s.Alike timed before t →
    EndsAlike timed results after broken (x scope s) (y scope t)

variable {results : α → β → Prop} {further : γ → δ → Prop}

theorem coupled_pure {a : α} {b : β} (h : results a b) (keep : ∀ x y, before x y → after x y) :
    Coupled timed broken before (pure a : Run σ α) (pure b : Run σ β) results after :=
  fun _ _ _ _ hst => ⟨h, { hst with world := keep _ _ hst.world }⟩

theorem EndsAlike.bind {x : Run σ α} {y : Run σ β} {f : α → Run σ γ} {g : β → Run σ δ}
    {scope : Scope} {s t : Running σ}
    (ended : EndsAlike timed results between broken (x scope s) (y scope t))
    (quiet : scope.context.IsTimed timed)
    (hfg : ∀ a b, results a b → Coupled timed broken between (f a) (g b) further after) :
    EndsAlike timed further after broken ((x >>= f) scope s) ((y >>= g) scope t) := by
  rcases hx : x scope s with ⟨e | a, u⟩ <;> rcases hy : y scope t with ⟨e' | b, v⟩ <;>
    rw [hx, hy] at ended
  · rw [bind_error hx, bind_error hy]
    exact ended
  · exact ended.elim
  · exact ended.elim
  · rw [bind_ok hx, bind_ok hy]
    exact hfg a b ended.1 scope u v quiet ended.2

theorem coupled_bind {x : Run σ α} {y : Run σ β} {f : α → Run σ γ} {g : β → Run σ δ}
    (hxy : Coupled timed broken before x y results between)
    (hfg : ∀ a b, results a b → Coupled timed broken between (f a) (g b) further after) :
    Coupled timed broken before (x >>= f) (y >>= g) further after :=
  fun scope s t quiet hst => (hxy scope s t quiet hst).bind quiet hfg

theorem coupled_map {x : Run σ α} {y : Run σ β} {f : α → γ} {g : β → δ}
    (hxy : Coupled timed broken before x y results after)
    (hfg : ∀ a b, results a b → further (f a) (g b)) :
    Coupled timed broken before (f <$> x) (g <$> y) further after :=
  coupled_bind hxy fun a b h => coupled_pure (hfg a b h) fun _ _ => id

theorem coupled_get : Coupled timed broken before (getThe HandleState : Run σ HandleState)
    (getThe HandleState) Eq before :=
  fun _ _ _ _ hst => ⟨hst.handle, hst⟩

theorem coupled_modify (f : HandleState → HandleState) :
    Coupled timed broken before (modifyThe HandleState f : Run σ Unit) (modifyThe HandleState f)
      Eq before :=
  fun _ _ _ _ hst => ⟨rfl, { hst with handle := congrArg f hst.handle }⟩

theorem coupled_update {f g : Running σ → Running σ}
    (h : ∀ s t : Running σ, s.Alike timed before t → (f s).Alike timed after (g t)) :
    Coupled timed broken before (update f) (update g) Eq after :=
  fun _ s t _ hst => ⟨rfl, h s t hst⟩

theorem coupled_abort (reason : Abort) (keep : ∀ x y, before x y → broken x y) :
    Coupled timed broken before (abort reason : Run σ α) (abort reason : Run σ β) results after :=
  fun _ _ _ _ hst => ⟨rfl, { hst with world := keep _ _ hst.world }⟩

theorem waitUntil_alike {scope : Scope} {s t : Running σ} {m n : Option Nat} {x y : σ}
    {next : Running σ → Except Abort α × Running σ} {next' : Running σ → Except Abort β × Running σ}
    (quiet : scope.context.IsTimed timed) (hst : s.Alike timed before t)
    (times : m.isSome = n.isSome ∧ (timed → m = n)) (left : broken x y)
    (nexts : m.isSome → ∀ u v : Running σ, u.Alike timed before v →
      EndsAlike timed results after broken (next u) (next' v)) :
    EndsAlike timed results after broken (waitUntil m x next scope s)
      (waitUntil n y next' scope t) := by
  have leaves (abort : Abort) : EndsAlike timed results after broken
      (.error abort, { s with waits := s.waits + 1, world := x })
      (.error abort, { t with waits := t.waits + 1, world := y }) :=
    ⟨rfl, { hst with world := left, waits := by simp [hst.waits] }⟩
  -- a stop is only met with alike clocks
  have stops (clock : timed) (time : Nat) : EndsAlike timed results after broken
      (waitUntil.stopAt x scope { s with waits := s.waits + 1 } time)
      (waitUntil.stopAt y scope { t with waits := t.waits + 1 } time) := by
    have now := hst.now clock
    simp only [waitUntil.stopAt]
    split
    · exact ⟨rfl, left, hst.handle, by simp [hst.waits], hst.events, fun _ => by simp [now],
        hst.started⟩
    · exact ⟨rfl, left, hst.handle, by simp [hst.waits], hst.events, fun _ => by simp [now],
        hst.started⟩
  have goes (some : m.isSome) (m n : Nat) (same : timed → m = n) :
      EndsAlike timed results after broken (next { s with waits := s.waits + 1, now := m })
        (next' { t with waits := t.waits + 1, now := n }) :=
    nexts some _ _ { hst with waits := by simp [hst.waits], now := same }
  simp only [waitUntil, ← hst.waits]
  by_cases hdrop : scope.dropAt = some s.waits
  · rw [if_pos hdrop, if_pos hdrop]
    simpa [hst.waits] using leaves .dropped
  · rw [if_neg hdrop, if_neg hdrop, hst.waits]
    rw [hst.waits] at stops goes leaves
    cases hstop : scope.context.stopsAt with
    | none =>
      cases m <;> cases n <;> simp only [Option.isSome, Bool.false_eq_true] at times
      · exact leaves .stuck
      · simp at times
      · simp at times
      · exact goes rfl _ _ fun clock => Option.some.inj (times.2 clock)
    | some stop =>
      have clock : timed := by
        rcases quiet with clock | never
        · exact clock
        · rw [hstop] at never
          cases never
      cases m <;> cases n
      · exact stops clock stop
      · simp at times
      · simp at times
      · rename_i m n
        have same : m = n := Option.some.inj (times.2 clock)
        dsimp only
        rw [same]
        split
        · exact stops clock stop
        · exact goes rfl _ _ fun _ => rfl

/-- **Calls that are answered alike end alike.** -/
theorem coupled_await {call : σ → Reply σ α} {call' : σ → Reply σ β}
    (h : ∀ x y, before x y → (call x).Alike timed results after broken (call' y)) :
    Coupled timed broken before (await call) (await call') results after := by
  intro scope s t quiet hst
  have replied := h _ _ hst.world
  simp only [await]
  generalize call s.world = r at replied ⊢
  generalize call' t.world = q at replied ⊢
  cases r <;> cases q <;> simp only [Reply.Alike] at replied ⊢
  · exact ⟨replied.1, { hst with world := replied.2 }⟩
  · obtain ⟨pace, answers, worlds, left⟩ := replied
    refine waitUntil_alike quiet hst ⟨rfl, fun clock => ?_⟩ left ?_
    · rw [hst.now clock, pace clock]
    · intro _ u v huv
      exact ⟨answers, { huv with world := worlds }⟩
  · exact waitUntil_alike quiet hst ⟨rfl, fun _ => rfl⟩ replied fun waits => by cases waits
  · exact ⟨rfl, { hst with world := replied }⟩

/-! ## Computations that may break down -/

/-- From alike states, two computations end alike in every scope, or the first one breaks down and
the handle that it began with excuses this. -/
def CoupledUnless (timed : Prop) (excused : HandleState → Prop) (broken before : σ → σ → Prop)
    (x : Run σ α) (y : Run σ β) (results : α → β → Prop) (after : σ → σ → Prop) : Prop :=
  ∀ (scope : Scope) (s t : Running σ), scope.context.IsTimed timed → s.Alike timed before t →
    (x scope s).1 = .error .crashed ∧ excused s.handle ∨
      EndsAlike timed results after broken (x scope s) (y scope t)

variable {excused : HandleState → Prop} {x : Run σ α} {y : Run σ β} {f : α → Run σ γ}
  {g : β → Run σ δ}

theorem Coupled.unless (h : Coupled timed broken before x y results after) :
    CoupledUnless timed excused broken before x y results after :=
  fun scope s t quiet hst => .inr (h scope s t quiet hst)

theorem CoupledUnless.coupled
    (h : CoupledUnless timed (fun _ => False) broken before x y results after) :
    Coupled timed broken before x y results after :=
  fun scope s t quiet hst => (h scope s t quiet hst).resolve_left fun crashed => crashed.2

theorem coupledUnless_bind (hxy : Coupled timed broken before x y results between)
    (keeps : ∀ {scope s a u}, x.Reaches scope s a u → u.handle = s.handle)
    (hfg : ∀ a b, results a b →
      CoupledUnless timed excused broken between (f a) (g b) further after) :
    CoupledUnless timed excused broken before (x >>= f) (y >>= g) further after := by
  intro scope s t quiet hst
  have ended := hxy scope s t quiet hst
  rcases hx : x scope s with ⟨e | a, u⟩ <;> rcases hy : y scope t with ⟨e' | b, v⟩ <;>
    rw [hx, hy] at ended
  · rw [bind_error hx, bind_error hy]
    exact .inr ended
  · exact ended.elim
  · exact ended.elim
  · rw [bind_ok hx, bind_ok hy, ← keeps hx]
    exact hfg a b ended.1 scope u v quiet ended.2

theorem CoupledUnless.bind (hxy : CoupledUnless timed excused broken before x y results between)
    (hfg : ∀ a b, results a b → Coupled timed broken between (f a) (g b) further after) :
    CoupledUnless timed excused broken before (x >>= f) (y >>= g) further after := by
  intro scope s t quiet hst
  rcases hxy scope s t quiet hst with ⟨crashed, excuse⟩ | ended
  · refine .inl ⟨?_, excuse⟩
    rw [bind_error (Prod.ext crashed rfl)]
  · exact .inr (ended.bind quiet hfg)

theorem CoupledUnless.map {f : α → γ} {g : β → δ}
    (hxy : CoupledUnless timed excused broken before x y results after)
    (hfg : ∀ a b, results a b → further (f a) (g b)) :
    CoupledUnless timed excused broken before (f <$> x) (g <$> y) further after :=
  hxy.bind fun a b h => coupled_pure (hfg a b h) fun _ _ => id

theorem coupledUnless_look {f : HandleState → Run σ α} {g : HandleState → Run σ β}
    (h : ∀ state, CoupledUnless timed (fun _ => excused state) broken before (f state) (g state)
      results after) :
    CoupledUnless timed excused broken before (getThe HandleState >>= f) (getThe HandleState >>= g)
      results after := by
  intro scope s t quiet hst
  rw [bind_ok (show (getThe HandleState : Run σ HandleState) scope s = (.ok s.handle, s) from rfl),
    bind_ok (show (getThe HandleState : Run σ HandleState) scope t = (.ok t.handle, t) from rfl),
    ← hst.handle]
  exact h s.handle scope s t quiet hst

theorem coupledUnless_await {call : σ → Reply σ α} {call' : σ → Reply σ β} {excuse : Prop}
    (h : ∀ x y, before x y → (∃ z, call x = .crash z) ∧ excuse ∨
      (call x).Alike timed results after broken (call' y)) :
    CoupledUnless timed (fun _ => excuse) broken before (await call) (await call') results after := by
  intro scope s t quiet hst
  rcases h _ _ hst.world with ⟨⟨z, crashed⟩, excuse⟩ | replied
  · exact .inl ⟨by simp only [await, crashed], excuse⟩
  · have alike : Coupled timed broken (fun x y => x = s.world ∧ y = t.world) (await call)
        (await call') results after :=
      coupled_await fun x y here => by rw [here.1, here.2]; exact replied
    exact .inr (alike scope s t quiet { hst with world := ⟨rfl, rfl⟩ })

/-! ## Operations in their scopes -/

/-- What comes of two calls or operations belongs together: their results, or why there is none. -/
def Outcomes {ε : Type} (results : α → β → Prop) : Except ε α → Except ε β → Prop
  | .ok a, .ok b => results a b
  | .error e, .error f => e = f
  | _, _ => False

/-- **Operations in their scopes end alike, or the body of the first one breaks down.** -/
theorem within_unless {context : OperationContext} {timeout : Option Nat}
    (quiet : timed ∨ context.stopsAt = none ∧ timeout = none)
    (keep : ∀ x y, before x y → broken x y)
    (hxy : CoupledUnless timed excused broken before x y results broken) (scope : Scope)
    {s t : Running σ} (hst : s.Alike timed before t) :
    (∃ u, within context timeout x scope s = (.ok (.error .crashed), u)) ∧ excused s.handle ∨
      EndsAlike timed (Outcomes results) broken broken (within context timeout x scope s)
        (within context timeout y scope t) := by
  have scopes : context.orTimeout s.now timeout = context.orTimeout t.now timeout := by
    rcases quiet with clock | ⟨-, rfl⟩
    · rw [hst.now clock]
    · simp [OperationContext.orTimeout]
  have narrow : (context.orTimeout t.now timeout).IsTimed timed := by
    rcases quiet with clock | ⟨silent, rfl⟩
    · exact .inl clock
    · exact .inr (by simpa [OperationContext.orTimeout] using silent)
  have looks : (context.orTimeout t.now timeout).interruptAt s.now =
      (context.orTimeout t.now timeout).interruptAt t.now := by
    rcases narrow with clock | silent
    · rw [hst.now clock]
    · rw [OperationContext.interruptAt_eq_none silent, OperationContext.interruptAt_eq_none silent]
  simp only [within, scopes, looks]
  split
  · exact .inr ⟨rfl, keep _ _ hst.world, hst.handle, rfl, hst.events, hst.now, hst.now⟩
  · refine (hxy { scope with context := context.orTimeout t.now timeout }
      { s with started := s.now, waits := 0 } { t with started := t.now, waits := 0 } narrow
      ⟨hst.world, hst.handle, rfl, hst.events, hst.now, hst.now⟩).imp ?_ fun ended => ?_
    · rintro ⟨crashed, excuse⟩
      exact ⟨⟨_, Prod.ext (congrArg Except.ok crashed) rfl⟩, excuse⟩
    · generalize x _ _ = p at ended ⊢
      generalize y _ _ = q at ended ⊢
      obtain ⟨a | a, u⟩ := p <;> obtain ⟨b | b, v⟩ := q
      · exact ended
      · exact ended.elim
      · exact ended.elim
      · exact ended

end Run

end ConversationMemory
