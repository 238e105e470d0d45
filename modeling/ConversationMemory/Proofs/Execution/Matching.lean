import ConversationMemory.Proofs.Execution.Ensure

/-!
# Runs of two handles in one world

Two runs in the same world at the same time, which differ in what their handles keep.

* `Run.Bond`: what ties the two handles to each other, and to the world.
* `Run.Matching`: from states that differ in such handles only, two computations come to the same end,
  in states that differ in such handles only. `matching_bind`, **`matching_await`** and the like take
  computations apart.
-/

namespace ConversationMemory.Run

variable {σ α β : Type}

/-- What ties the handles of two runs to each other, and to the world in which both run. -/
abbrev Bond (σ : Type) := σ → HandleState → HandleState → Prop

/-- The run with another handle. -/
def withHandle (k : HandleState) (ended : Except Abort α × Running σ) :
    Except Abort α × Running σ :=
  (ended.1, { ended.2 with handle := k })

/-- From states that differ in such handles only, two computations come to the same end, in states
that differ in such handles only. -/
def Matching (bond : Bond σ) (x y : Run σ α) : Prop :=
  ∀ scope s k, bond s.world s.handle k →
    ∃ k', y scope { s with handle := k } = withHandle k' (x scope s) ∧
      bond (x scope s).2.world (x scope s).2.handle k'

variable {bond : Bond σ}

theorem matching_pure (a : α) : Matching bond (pure a : Run σ α) (pure a) :=
  fun _ _ k h => ⟨k, rfl, h⟩

theorem matching_bind {x y : Run σ α} {f g : α → Run σ β} (hxy : Matching bond x y)
    (hfg : ∀ a, Matching bond (f a) (g a)) : Matching bond (x >>= f) (y >>= g) := by
  intro scope s k h
  obtain ⟨k', ended, h'⟩ := hxy scope s k h
  rcases hx : x scope s with ⟨reason | a, t⟩ <;> rw [hx] at ended h'
  · rw [bind_error hx, bind_error ended]
    exact ⟨k', rfl, h'⟩
  · rw [bind_ok hx, bind_ok ended]
    exact hfg a scope t k' h'

theorem matching_map {x y : Run σ α} (f : α → β) (hxy : Matching bond x y) :
    Matching bond (f <$> x) (f <$> y) :=
  matching_bind hxy fun _ => matching_pure _

theorem matching_look {f g : HandleState → Run σ α}
    (h : ∀ w k k', bond w k k' → Matching bond (f k) (g k')) :
    Matching bond (getThe HandleState >>= f) (getThe HandleState >>= g) :=
  fun scope s k tied => h s.world s.handle k tied scope s k tied

theorem matching_modify {f : HandleState → HandleState}
    (h : ∀ w k k', bond w k k' → bond w (f k) (f k')) :
    Matching bond (modifyThe HandleState f : Run σ Unit) (modifyThe HandleState f) :=
  fun _ s k tied => ⟨f k, rfl, h s.world s.handle k tied⟩

theorem matching_update {f : Running σ → Running σ}
    (blind : ∀ s k, f { s with handle := k } = { f s with handle := k })
    (h : ∀ s k, bond s.world s.handle k → bond (f s).world (f s).handle k) :
    Matching bond (update f) (update f) :=
  fun _ s k tied => ⟨k, congrArg (Prod.mk _) (blind s k), h s k tied⟩

theorem matching_abort (reason : Abort) : Matching bond (abort reason : Run σ α) (abort reason) :=
  fun _ _ k h => ⟨k, rfl, h⟩

theorem waitUntil_withHandle {time : Option Nat} {left : σ}
    {next : Running σ → Except Abort α × Running σ} {scope : Scope} {s : Running σ} (k : HandleState)
    (blind : ∀ u : Running σ, next { u with handle := k } = withHandle k (next u)) :
    waitUntil time left next scope { s with handle := k } =
      withHandle k (waitUntil time left next scope s) := by
  have goes (now : Nat) := blind { s with waits := s.waits + 1, now }
  simp only [waitUntil, waitUntil.stopAt]
  split
  · rfl
  · split
    · split
      · split <;> rfl
      · exact goes _
    · split <;> rfl
    · exact goes _
    · rfl

theorem await_withHandle (call : σ → Reply σ α) (scope : Scope) (s : Running σ) (k : HandleState) :
    await call scope { s with handle := k } = withHandle k (await call scope s) := by
  simp only [await]
  cases call s.world with
  | atOnce | crash => rfl
  | afterWait | never => exact waitUntil_withHandle k fun _ => rfl

/-- **Calls keep the runs together** when their replies keep the bond. -/
theorem matching_await {call : σ → Reply σ α}
    (h : ∀ w k k', bond w k k' →
      (call w).Ends (fun _ w => bond w k k') (fun _ w => bond w k k')) :
    Matching bond (await call) (await call) := by
  intro scope s k tied
  refine ⟨k, await_withHandle call scope s k, ?_⟩
  have keeps : Ensures (fun w j _ => bond w j k) (await call) (fun _ w j _ => bond w j k)
      (fun _ w j _ => bond w j k) := ensures_ends fun w j _ => h w j k
  rcases keeps.cases scope (s := s) tied with ⟨a, -, tied⟩ | ⟨reason, -, tied⟩ <;> exact tied

theorem matching_within {context : OperationContext} {timeout : Option Nat} {x y : Run σ α}
    (hxy : Matching bond x y) :
    Matching bond (within context timeout x) (within context timeout y) := by
  intro scope s k tied
  simp only [within]
  cases (context.orTimeout s.now timeout).interruptAt s.now with
  | some interrupt => exact ⟨k, rfl, tied⟩
  | none =>
    obtain ⟨k', ended, tied'⟩ := hxy { scope with context := context.orTimeout s.now timeout }
      { s with started := s.now, waits := 0 } k tied
    refine ⟨k', ?_, tied'⟩
    dsimp only
    rw [ended]
    rfl

end ConversationMemory.Run
