import ConversationMemory.Proofs.Execution.Built

/-!
# Runs that take no time

* `Scope.IsOpen`: nothing stops an operation at a time, and nobody will lose interest.
* `Run.Prompt`: a computation comes to a result at once; `prompt_bind`, `prompt_await` and the like take
  it apart.
* `Run.Leaves`: what a computation leaves behind, however it ends; **`leaves_bind`**: it may begin with
  one that takes no time.
-/

namespace ConversationMemory

variable {σ α β : Type}

/-- At this time nothing stops an operation, and nobody will lose interest in it. -/
structure Scope.IsOpen (scope : Scope) (now : Nat) : Prop where
  dropAt : scope.dropAt = none
  nothing : scope.context.interruptAt now = none

namespace Run

/-- In a scope that is open the computation comes to a result, and takes no time for it. -/
def Prompt (before : σ → Prop) (x : Run σ α) (after : α → σ → Prop) : Prop :=
  ∀ (scope : Scope) (s : Running σ), scope.IsOpen s.now → before s.world →
    ∃ a t, x.Reaches scope s a t ∧ t.now = s.now ∧ after a t.world

/-- What the computation leaves behind however it ends, if its scope is open when it begins. -/
def Leaves (before : σ → Prop) (x : Run σ α) (left : σ → Prop) : Prop :=
  ∀ (scope : Scope) (s : Running σ), scope.IsOpen s.now → before s.world →
    left (x scope s).2.world

variable {before between left : σ → Prop} {after : α → σ → Prop} {further : β → σ → Prop}

/-! ## Results without delay -/

theorem prompt_pure (a : α) (h : ∀ w, before w → after a w) :
    Prompt before (pure a : Run σ α) after :=
  fun _ s _ hs => ⟨a, s, rfl, rfl, h _ hs⟩

theorem prompt_bind {x : Run σ α} {f : α → Run σ β} (hx : Prompt before x after)
    (hf : ∀ a, Prompt (after a) (f a) further) : Prompt before (x >>= f) further := by
  intro scope s opens hs
  obtain ⟨a, u, ha, now, hu⟩ := hx scope s opens hs
  obtain ⟨b, t, hb, now', ht⟩ := hf a scope u (now ▸ opens) hu
  exact ⟨b, t, reaches_bind.2 ⟨a, u, ha, hb⟩, now'.trans now, ht⟩

theorem prompt_assume {x : Run σ α} {fact : Prop} (h : fact → Prompt before x after) :
    Prompt (fun w => fact ∧ before w) x after :=
  fun scope s opens hs => h hs.1 scope s opens hs.2

theorem prompt_update (f : Running σ → Running σ) (now : ∀ s, (f s).now = s.now)
    (h : ∀ s, before s.world → between (f s).world) : Prompt before (update f) fun _ => between :=
  fun _ s _ hs => ⟨(), f s, rfl, now s, h s hs⟩

theorem prompt_emit {world : World σ} {emitter : Emitter}
    (logs : ∀ entry x, before x → before (world.log entry x)) (event : OperationEvent) :
    Prompt before ((world.collaborators emitter).emit event) fun _ => before := by
  refine prompt_update _ (fun s => ?_) fun s hs => ?_
  · cases emitter <;> rfl
  · cases emitter with
    | recording => exact hs
    | logging => exact logs event.toLog s.world hs

/-- **A call whose answer takes no time is not interrupted.** -/
theorem prompt_await {call : σ → Reply σ α}
    (h : ∀ w, before w → ∃ a y unheard, call w = .afterWait 0 a y unheard ∧ after a y) :
    Prompt before (await call) after := by
  intro scope s opens hs
  obtain ⟨a, y, unheard, answers, hy⟩ := h s.world hs
  refine ⟨a, { s with world := y, waits := s.waits + 1 }, ?_, rfl, hy⟩
  simp only [Reaches, await, answers, waitUntil, opens.dropAt, reduceCtorEq, if_false, Nat.add_zero]
  cases stops : scope.context.stopsAt with
  | none => rfl
  | some stop =>
    have early := OperationContext.interruptAt_eq_none_iff.1 opens.nothing stop stops
    simp only [if_neg (Nat.not_le.2 early)]

theorem prompt_within {context : OperationContext} {timeout : Option Nat} {body : Run σ α}
    (opens : ∀ now, (context.orTimeout now timeout).interruptAt now = none)
    (h : Prompt before body after) :
    Prompt before (within context timeout body)
      fun outcome w => ∃ a, outcome = .ok a ∧ after a w := by
  intro scope s outer hs
  obtain ⟨a, t, reached, now, ht⟩ := h { scope with context := context.orTimeout s.now timeout }
    { s with started := s.now, waits := 0 } ⟨outer.dropAt, opens s.now⟩ hs
  refine ⟨.ok a, t, ?_, now, a, rfl, ht⟩
  simp only [Reaches, within, opens]
  rw [show body _ _ = (.ok a, t) from reached]

/-! ## What is left behind -/

theorem leaves_of_preserves {x : Run σ α} (preserves : Preserves left x) : Leaves left x left := by
  intro scope s _ hs
  have ended := preserves scope s hs
  split at ended <;> rename_i heq <;> rw [heq] <;> exact ended

/-- **What comes after a computation that takes no time decides about what is left behind.** -/
theorem leaves_bind {x : Run σ α} {f : α → Run σ β} (hx : Prompt before x after)
    (hf : ∀ a, Leaves (after a) (f a) left) : Leaves before (x >>= f) left := by
  intro scope s opens hs
  obtain ⟨a, u, ha, now, hu⟩ := hx scope s opens hs
  rw [bind_ok ha]
  exact hf a scope u (now ▸ opens) hu

theorem Leaves.weaken {before' : σ → Prop} {x : Run σ α} (h : Leaves before x left)
    (himp : ∀ w, before' w → before w) : Leaves before' x left :=
  fun scope s opens hs => h scope s opens (himp _ hs)

theorem leaves_assume {x : Run σ α} {fact : Prop} (h : fact → Leaves before x left) :
    Leaves (fun w => fact ∧ before w) x left :=
  fun scope s opens hs => h hs.1 scope s opens hs.2

theorem leaves_then {x : Run σ α} {f : α → Run σ β} (hx : Leaves before x left)
    (hf : ∀ a, Preserves left (f a)) : Leaves before (x >>= f) left := by
  intro scope s opens hs
  have there := hx scope s opens hs
  rcases h : x scope s with ⟨reason | a, u⟩ <;> rw [h] at there
  · rw [bind_error h]
    exact there
  · have ended := hf a scope u there
    rw [bind_ok h]
    split at ended <;> rename_i heq <;> rw [heq] <;> exact ended

theorem leaves_within {context : OperationContext} {timeout : Option Nat} {body : Run σ α}
    (opens : ∀ now, (context.orTimeout now timeout).interruptAt now = none)
    (h : Leaves before body left) : Leaves before (within context timeout body) left := by
  intro scope s outer hs
  have there := h { scope with context := context.orTimeout s.now timeout }
    { s with started := s.now, waits := 0 } ⟨outer.dropAt, opens s.now⟩ hs
  simp only [within, opens]
  exact there

end Run

end ConversationMemory
