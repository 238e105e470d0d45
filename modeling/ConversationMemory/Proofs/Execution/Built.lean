import ConversationMemory.Proofs.Execution.Ensure

/-!
# Runs that are made of calls

The body of an operation looks neither at its scope nor at the clock: it is built from calls to the
world. Whatever every single call does to a run, a body that is built so does as well.

* `Run.Built`: computations that are made of calls, entries for the log and changes of the handle.
* `Built.silent`: they tell nothing.
* `World.Keeps`, **`Built.keeps`**: what every call keeps or leaves behind, they keep or leave behind.
* `Run.Punctual`, **`Built.punctual`**: they end by an interrupt exactly when their time has come.
-/

namespace ConversationMemory

variable {σ α β : Type}

namespace Run

/-- A computation that is made of calls to a world. -/
inductive Built (world : World σ) (emitter : Emitter) : {α : Type} → Run σ α → Prop
  | pure {α : Type} (a : α) : Built world emitter (Pure.pure a : Run σ α)
  | bind {α β : Type} {x : Run σ α} {f : α → Run σ β} (first : Built world emitter x)
    (next : ∀ a, Built world emitter (f a)) : Built world emitter (x >>= f)
  | look : Built world emitter (getThe HandleState : Run σ HandleState)
  | modify (f : HandleState → HandleState) : Built world emitter (modifyThe HandleState f)
  | log (entry : LogEntry) : Built world emitter ((world.collaborators emitter).log entry)
  | get (name namespaceName : String) :
    Built world emitter ((world.collaborators emitter).get name namespaceName)
  | resolve (spec : AddressSpec) (namespaceName : String) :
    Built world emitter ((world.collaborators emitter).resolve spec namespaceName)
  | updateStatus (record : MemoryRecord) :
    Built world emitter ((world.collaborators emitter).updateStatus record)
  | send (request : Request) : Built world emitter ((world.collaborators emitter).send request)

variable {world : World σ} {emitter : Emitter} {x : Run σ α}

theorem Built.silent (h : Built world emitter x) : Silent x := by
  induction h with
  | pure a => exact silent_pure a
  | bind _ _ first next => exact silent_bind first next
  | look => exact silent_get
  | modify f => exact silent_modify f
  | log entry => exact silent_log world emitter entry
  | get | resolve | updateStatus | send => exact silent_await _

end Run

/-! ## What every call keeps -/

/-- The call keeps something when its answer is heard, and leaves something behind otherwise. -/
abbrev Reply.Keeps (kept : σ → Prop) (left : Abort → σ → Prop) (reply : Reply σ α) : Prop :=
  reply.Ends (fun _ => kept) left

/-- Every call to the world keeps something, or leaves something behind. -/
structure World.Keeps (world : World σ) (kept : σ → Prop) (left : Abort → σ → Prop) : Prop where
  get : ∀ name namespaceName x, kept x → (world.get name namespaceName x).Keeps kept left
  resolve : ∀ spec namespaceName x, kept x → (world.resolve spec namespaceName x).Keeps kept left
  updateStatus : ∀ record x, kept x → (world.updateStatus record x).Keeps kept left
  send : ∀ request x, kept x → (world.send request x).Keeps kept left
  log : ∀ entry x, kept x → kept (world.log entry x)

namespace Run

variable {world : World σ} {emitter : Emitter} {x : Run σ α}

/-- **What every call keeps, a computation that is made of calls keeps**, and what every call leaves
behind, it leaves behind. -/
theorem Built.keeps {kept : σ → Prop} {left : Abort → σ → Prop} (keeps : world.Keeps kept left)
    (h : Built world emitter x) :
    Ensures (fun w _ _ => kept w) x (fun _ w _ _ => kept w) (fun reason w _ _ => left reason w) := by
  induction h with
  | pure a => exact ensures_pure a fun _ _ _ => id
  | bind _ _ first next => exact ensures_bind first next
  | look => exact ensures_get
  | modify f => exact ensures_modify f fun _ _ _ => id
  | log entry => exact ensures_update _ fun s => keeps.log entry s.world
  | get name namespaceName => exact ensures_ends fun w _ _ => keeps.get name namespaceName w
  | resolve spec namespaceName => exact ensures_ends fun w _ _ => keeps.resolve spec namespaceName w
  | updateStatus record => exact ensures_ends fun w _ _ => keeps.updateStatus record w
  | send request => exact ensures_ends fun w _ _ => keeps.send request w

end Run

/-! ## Interrupts in time -/

namespace OperationContext

variable {context : OperationContext}

theorem interruptAt_eq_none_iff {time : Nat} :
    context.interruptAt time = none ↔ ∀ stop, context.stopsAt = some stop → time < stop := by
  unfold interruptAt stopsAt
  cases context.firesAt with
  | none => cases context.deadline <;> simp
  | some fires =>
    cases context.deadline with
    | none => simp
    | some deadline =>
      simp
      grind

end OperationContext

namespace Run

/-- What the scope has to do with the end of a computation: an interrupt is what is found then, it is
dropped only when someone may lose interest, and it waits for ever only when nothing stops it. -/
def InTime (scope : Scope) (now : Nat) : Except Abort α → Prop
  | .ok _ => scope.context.interruptAt now = none
  | .error (.interrupted interrupt) => scope.context.interruptAt now = some interrupt
  | .error .dropped => scope.dropAt.isSome
  | .error .stuck => scope.context.stopsAt = none
  | .error .crashed => True

/-- A computation that begins when nothing is found, ends in time. -/
def Punctual (x : Run σ α) : Prop :=
  ∀ (scope : Scope) s, scope.context.interruptAt s.now = none →
    InTime scope (x scope s).2.now (x scope s).1

theorem punctual_bind {x : Run σ α} {f : α → Run σ β} (hx : Punctual x) (hf : ∀ a, Punctual (f a)) :
    Punctual (x >>= f) := by
  intro scope s nothing
  have ended := hx scope s nothing
  rcases h : x scope s with ⟨reason | a, t⟩ <;> rw [h] at ended
  · rw [bind_error h]
    cases reason <;> exact ended
  · rw [bind_ok h]
    exact hf a scope t ended

theorem punctual_of_now {x : Run σ α} (h : ∀ scope s, ∃ a, (x scope s).1 = .ok a ∧
    (x scope s).2.now = s.now) : Punctual x := by
  intro scope s nothing
  obtain ⟨a, ended, now⟩ := h scope s
  rw [ended, now]
  exact nothing

theorem punctual_stopAt {left : σ} {scope : Scope} {s : Running σ} {stop : Nat}
    (nothing : scope.context.interruptAt s.now = none) (stops : scope.context.stopsAt = some stop) :
    InTime scope (waitUntil.stopAt left scope s stop : Except Abort α × Running σ).2.now
      (waitUntil.stopAt left scope s stop : Except Abort α × Running σ).1 := by
  have later : s.now < stop := OperationContext.interruptAt_eq_none_iff.1 nothing stop stops
  have found := OperationContext.interruptAt_of_stopsAt stops
  simp only [waitUntil.stopAt]
  rw [Nat.max_eq_right (Nat.le_of_lt later)]
  split
  · assumption
  · rename_i none
    rw [none] at found
    cases found

theorem punctual_waitUntil {time : Option Nat} {left : σ}
    {next : Running σ → Except Abort α × Running σ} {scope : Scope} {s : Running σ}
    (nothing : scope.context.interruptAt s.now = none)
    (goes : ∀ u : Running σ, time.isSome → scope.context.interruptAt u.now = none →
      InTime scope (next u).2.now (next u).1) :
    InTime scope (waitUntil time left next scope s).2.now
      (waitUntil time left next scope s).1 := by
  simp only [waitUntil]
  split
  · rename_i drops
    exact Option.isSome_of_eq_some drops
  · split
    · rename_i stop time stops
      split
      · exact punctual_stopAt nothing stops
      · rename_i early
        refine goes _ rfl (OperationContext.interruptAt_eq_none_iff.2 fun other again => ?_)
        cases stops.symm.trans again
        exact Nat.lt_of_not_le early
    · rename_i stop stops
      exact punctual_stopAt nothing stops
    · rename_i time stops
      exact goes _ rfl (OperationContext.interruptAt_eq_none stops _)
    · rename_i stops
      exact stops

theorem punctual_await (call : σ → Reply σ α) : Punctual (await call) := by
  intro scope s nothing
  simp only [await]
  cases call s.world with
  | atOnce answer world => exact nothing
  | crash world => trivial
  | afterWait milliseconds answer world left => exact punctual_waitUntil nothing fun u _ => id
  | never left => exact punctual_waitUntil nothing fun u waits => by cases waits

/-- **A computation that is made of calls ends in time**: by an interrupt exactly when there is one to
be found. -/
theorem Built.punctual {world : World σ} {emitter : Emitter} {x : Run σ α}
    (h : Built world emitter x) : Punctual x := by
  induction h with
  | pure a => exact punctual_of_now fun _ _ => ⟨a, rfl, rfl⟩
  | bind _ _ first next => exact punctual_bind first next
  | look | modify | log => exact punctual_of_now fun _ _ => ⟨_, rfl, rfl⟩
  | get | resolve | updateStatus | send => exact punctual_await _

theorem inTime_within {context : OperationContext} {timeout : Option Nat} {body : Run σ α}
    (punctual : Punctual body) (scope : Scope) (s : Running σ) :
    ∃ outcome t, within context timeout body scope s = (.ok outcome, t) ∧
      InTime { scope with context := context.orTimeout s.now timeout } t.now outcome := by
  simp only [within]
  cases found : (context.orTimeout s.now timeout).interruptAt s.now with
  | some interrupt => exact ⟨_, _, rfl, found⟩
  | none => exact ⟨_, _, rfl, punctual _ _ found⟩

end Run

end ConversationMemory
