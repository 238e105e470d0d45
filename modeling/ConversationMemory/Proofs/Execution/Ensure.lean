import ConversationMemory.Proofs.Execution.Reach

/-!
# What holds however a run ends

* `Sight`: what can be said about a state of a run, apart from its clock.
* `Run.Ensures`: from states of one kind a computation leads to states of another kind when it comes
  to a result, and to a third kind when it is left, is dropped or breaks down, by the reason for this.
* `Abort.ByCaller`: the reasons that lie with the caller.
* `ensures_pure`, `ensures_bind`, **`ensures_ends`** and the like take a computation apart.
* `Run.Preserves`: something about the world is kept.
* `Run.Silent`: nothing is emitted; `ensures_silent` adds this to what else is ensured.
-/

namespace ConversationMemory

variable {σ α β : Type}

/-- What can be said about the world, the handle and the events of a run. -/
abbrev Sight (σ : Type) := σ → HandleState → List OperationEvent → Prop

/-- A sight of a state. -/
abbrev Sight.Of (p : Sight σ) (s : Running σ) : Prop := p s.world s.handle s.events

/-- The operation was stopped, or nobody waits for it any more. -/
def Abort.ByCaller : Abort → Prop
  | interrupted _ | dropped => True
  | crashed | stuck => False

/-- A call leads to one kind of world with its answer, and to another one without, which may depend
on the reason. While an answer is under way only the caller can be the reason. -/
def Reply.Leads (answered : α → σ → Prop) (left : Abort → σ → Prop) : Reply σ α → Prop
  | .atOnce answer world => answered answer world
  | .afterWait _ answer world unheard =>
    answered answer world ∧ ∀ reason, reason.ByCaller → left reason unheard
  | .never unheard => ∀ reason, left reason unheard
  | .crash world => left .crashed world

theorem Reply.Leads.imp {answered answered' : α → σ → Prop} {left left' : Abort → σ → Prop}
    {reply : Reply σ α} (h : reply.Leads answered left) (himp : ∀ a w, answered a w → answered' a w)
    (himp' : ∀ reason w, left reason w → left' reason w) : reply.Leads answered' left' := by
  cases reply with
  | atOnce answer world => exact himp _ _ h
  | afterWait milliseconds answer world unheard =>
    exact ⟨himp _ _ h.1, fun reason caller => himp' _ _ (h.2 reason caller)⟩
  | never unheard => exact fun reason => himp' _ _ (h reason)
  | crash world => exact himp' _ _ h

/-- As `Leads`, but a call without an answer is not one that breaks down. -/
def Reply.Ends (answered : α → σ → Prop) (left : Abort → σ → Prop) : Reply σ α → Prop
  | .atOnce answer world => answered answer world
  | .afterWait _ answer world unheard =>
    answered answer world ∧ ∀ reason, reason.ByCaller → left reason unheard
  | .never unheard => ∀ reason, reason ≠ .crashed → left reason unheard
  | .crash world => left .crashed world

theorem Reply.Ends.imp {answered answered' : α → σ → Prop} {left left' : Abort → σ → Prop}
    {reply : Reply σ α} (h : reply.Ends answered left) (himp : ∀ a w, answered a w → answered' a w)
    (himp' : ∀ reason w, left reason w → left' reason w) : reply.Ends answered' left' := by
  cases reply with
  | atOnce answer world => exact himp _ _ h
  | afterWait milliseconds answer world unheard =>
    exact ⟨himp _ _ h.1, fun reason caller => himp' _ _ (h.2 reason caller)⟩
  | never unheard => exact fun reason other => himp' _ _ (h reason other)
  | crash world => exact himp' _ _ h

theorem Reply.Leads.ends {answered : α → σ → Prop} {left : Abort → σ → Prop} {reply : Reply σ α}
    (h : reply.Leads answered left) : reply.Ends answered left := by
  cases reply with
  | never unheard => exact fun reason _ => h reason
  | atOnce | afterWait | crash => exact h

theorem OperationContext.interruptAt_of_stopsAt {context : OperationContext} {time : Nat}
    (h : context.stopsAt = some time) : (context.interruptAt time).isSome := by
  have come : context.firesAt.any (· ≤ time) ∨ context.deadline.any (· ≤ time) := by
    unfold stopsAt at h
    cases hfires : context.firesAt with
    | none =>
      simp only [hfires] at h
      simp [h]
    | some fired =>
      cases hdeadline : context.deadline with
      | none =>
        simp only [hfires, hdeadline, Option.some.injEq] at h
        simp [h]
      | some deadline =>
        simp only [hfires, hdeadline, Option.some.injEq] at h
        simp only [Option.any_some, decide_eq_true_eq]
        omega
  unfold interruptAt
  split
  · rfl
  · rename_i unfired
    rw [if_pos (come.resolve_left unfired)]
    rfl

namespace Run

/-- From states of one kind, a computation leads to states of another kind with its result, and to
states of a third kind without, by the reason for this. -/
def Ensures (before : Sight σ) (x : Run σ α) (after : α → Sight σ) (broken : Abort → Sight σ) :
    Prop :=
  ∀ scope s, before.Of s →
    match x scope s with
    | (.ok a, t) => (after a).Of t
    | (.error reason, t) => (broken reason).Of t

variable {before between : Sight σ} {after : α → Sight σ} {further : β → Sight σ}
  {broken : Abort → Sight σ}

/-! ## Rules -/

section

variable {before' : Sight σ} {after' : α → Sight σ} {broken' : Abort → Sight σ} {x : Run σ α}

theorem Ensures.imp (h : Ensures before x after broken)
    (hbefore : ∀ w k e, before' w k e → before w k e)
    (hafter : ∀ a w k e, after a w k e → after' a w k e)
    (hbroken : ∀ reason w k e, broken reason w k e → broken' reason w k e) :
    Ensures before' x after' broken' := by
  intro scope s hs
  have ended := h scope s (hbefore _ _ _ hs)
  split at ended
  · exact hafter _ _ _ _ ended
  · exact hbroken _ _ _ _ ended

theorem Ensures.and (h : Ensures before x after broken) (h' : Ensures before' x after' broken') :
    Ensures (fun w k e => before w k e ∧ before' w k e) x
      (fun a w k e => after a w k e ∧ after' a w k e)
      (fun reason w k e => broken reason w k e ∧ broken' reason w k e) := by
  intro scope s hs
  have ended := h scope s hs.1
  have ended' := h' scope s hs.2
  split at ended <;> rename_i heq <;> rw [heq] at ended' <;> exact ⟨ended, ended'⟩

end

theorem Ensures.cases {x : Run σ α} (h : Ensures before x after broken) (scope : Scope)
    {s : Running σ} (hs : before.Of s) :
    (∃ a, (x scope s).1 = .ok a ∧ (after a).Of (x scope s).2) ∨
      ∃ reason, (x scope s).1 = .error reason ∧ (broken reason).Of (x scope s).2 := by
  have ended := h scope s hs
  rcases hx : x scope s with ⟨reason | a, t⟩ <;> rw [hx] at ended
  · exact .inr ⟨reason, rfl, ended⟩
  · exact .inl ⟨a, rfl, ended⟩

theorem ensures_pure (a : α) (h : ∀ w k e, before w k e → after a w k e) :
    Ensures before (pure a : Run σ α) after broken :=
  fun _ _ hs => h _ _ _ hs

theorem ensures_bind {x : Run σ α} {f : α → Run σ β} (hx : Ensures before x after broken)
    (hf : ∀ a, Ensures (after a) (f a) further broken) :
    Ensures before (x >>= f) further broken := by
  intro scope s hs
  have ended := hx scope s hs
  rcases h : x scope s with ⟨reason | a, t⟩
  · rw [h] at ended
    rw [bind_error h]
    exact ended
  · rw [h] at ended
    rw [bind_ok h]
    exact hf a scope t ended

theorem ensures_assume {x : Run σ α} {fact : Prop} (h : fact → Ensures before x after broken) :
    Ensures (fun w k e => fact ∧ before w k e) x after broken :=
  fun scope s hs => h hs.1 scope s hs.2

theorem ensures_exists {ι : Type} {cases : ι → Sight σ} {x : Run σ α}
    (h : ∀ i, Ensures (cases i) x after broken) :
    Ensures (fun w k e => ∃ i, cases i w k e) x after broken :=
  fun scope s ⟨i, hs⟩ => h i scope s hs

theorem ensures_map {x : Run σ α} {f : α → β}
    (hx : Ensures before x (fun a => further (f a)) broken) :
    Ensures before (f <$> x) further broken :=
  ensures_bind hx fun _ => ensures_pure _ fun _ _ _ => id

theorem ensures_get :
    Ensures before (getThe HandleState : Run σ HandleState) (fun _ => before) broken :=
  fun _ _ hs => hs

theorem ensures_look : Ensures before (getThe HandleState : Run σ HandleState)
    (fun handle w k e => handle = k ∧ before w k e) broken :=
  fun _ _ hs => ⟨rfl, hs⟩

theorem ensures_modify (f : HandleState → HandleState)
    (h : ∀ w k e, before w k e → between w (f k) e) :
    Ensures before (modifyThe HandleState f : Run σ Unit) (fun _ => between) broken :=
  fun _ _ hs => h _ _ _ hs

theorem ensures_update (f : Running σ → Running σ) (h : ∀ s, before.Of s → between.Of (f s)) :
    Ensures before (update f) (fun _ => between) broken :=
  fun _ s hs => h s hs

theorem ensures_abort (reason : Abort) (h : ∀ w k e, before w k e → broken reason w k e) :
    Ensures before (abort reason : Run σ α) after broken :=
  fun _ _ hs => h _ _ _ hs

/-- A wait ends early, in the world that the caller leaves behind, or goes on to what comes next. A
wait for something that will come ends early only when the caller leaves. -/
theorem waitUntil_cases (time : Option Nat) (left : σ)
    (next : Running σ → Except Abort α × Running σ) (scope : Scope) (s : Running σ) :
    (∃ reason t, waitUntil time left next scope s = (.error reason, t) ∧ t.world = left ∧
      Waited s t ∧ reason ≠ .crashed ∧ (time.isSome → reason.ByCaller)) ∨
    (∃ u, waitUntil time left next scope s = next u ∧ Waited s u ∧ time.isSome) := by
  have leaves (reason : Abort) (t : Running σ) (hworld : t.world = left) (waited : Waited s t)
      (whole : reason ≠ .crashed) (caller : time.isSome → reason.ByCaller) :
      (∃ reason' t', ((.error reason, t) : Except Abort α × Running σ) = (.error reason', t') ∧
        t'.world = left ∧ Waited s t' ∧ reason' ≠ .crashed ∧ (time.isSome → reason'.ByCaller)) ∨
      (∃ u, ((.error reason, t) : Except Abort α × Running σ) = next u ∧ Waited s u ∧
        time.isSome) :=
    .inl ⟨reason, t, rfl, hworld, waited, whole, caller⟩
  simp only [waitUntil, waitUntil.stopAt]
  split
  · exact leaves _ _ rfl ⟨rfl, rfl, rfl⟩ (by rintro ⟨⟩) fun _ => trivial
  · split
    · rename_i stop time hstop
      split
      · split
        · exact leaves _ _ rfl ⟨rfl, rfl, rfl⟩ (by rintro ⟨⟩) fun _ => trivial
        · rename_i nothing
          have found := OperationContext.interruptAt_of_stopsAt hstop
          rw [nothing] at found
          cases found
      · exact .inr ⟨_, rfl, ⟨rfl, rfl, rfl⟩, rfl⟩
    · split <;> exact leaves _ _ rfl ⟨rfl, rfl, rfl⟩ (by rintro ⟨⟩) (by rintro ⟨⟩)
    · exact .inr ⟨_, rfl, ⟨rfl, rfl, rfl⟩, rfl⟩
    · exact leaves _ _ rfl ⟨rfl, rfl, rfl⟩ (by rintro ⟨⟩) (by rintro ⟨⟩)

/-- **A call ends as its reply ends, however the wait for it ends.** -/
theorem ensures_ends {call : σ → Reply σ α}
    (h : ∀ w k e, before w k e →
      (call w).Ends (fun a w => after a w k e) (fun reason w => broken reason w k e)) :
    Ensures before (await call) after broken := by
  intro scope s hs
  have ends := h _ _ _ hs
  simp only [await]
  cases hcall : call s.world with
  | atOnce answer world =>
    rw [hcall] at ends
    exact ends
  | crash world =>
    rw [hcall] at ends
    exact ends
  | afterWait milliseconds answer world left =>
    rw [hcall] at ends
    dsimp only
    rcases waitUntil_cases (some (s.now + milliseconds)) left
        (fun s => (.ok answer, { s with world })) scope s with
      ⟨reason, t, ended, hworld, waited, -, caller⟩ | ⟨u, ended, waited, -⟩
    · rw [ended]
      change broken reason t.world t.handle t.events
      rw [hworld, waited.handle, waited.events]
      exact ends.2 reason (caller rfl)
    · rw [ended]
      change after answer world u.handle u.events
      rw [waited.handle, waited.events]
      exact ends.1
  | never left =>
    rw [hcall] at ends
    dsimp only
    rcases waitUntil_cases none left (fun s => ((.error .stuck : Except Abort α), s)) scope s with
      ⟨reason, t, ended, hworld, waited, whole, -⟩ | ⟨u, -, -, timed⟩
    · rw [ended]
      change broken reason t.world t.handle t.events
      rw [hworld, waited.handle, waited.events]
      exact ends reason whole
    · cases timed

theorem ensures_await {call : σ → Reply σ α}
    (h : ∀ w k e, before w k e →
      (call w).Leads (fun a w => after a w k e) (fun reason w => broken reason w k e)) :
    Ensures before (await call) after broken :=
  ensures_ends fun w k e hw => (h w k e hw).ends

/-- An operation in its scope always has an outcome: the result of its body, or what has kept it from
one. -/
theorem ensures_within {context : OperationContext} {timeout : Option Nat} {body : Run σ α}
    (h : Ensures before body after broken)
    (enters : ∀ interrupt w k e, before w k e → broken (.interrupted interrupt) w k e)
    {never : Abort → Sight σ} :
    Ensures before (within context timeout body)
      (fun outcome w k e => match outcome with
        | .ok a => after a w k e
        | .error reason => broken reason w k e) never := by
  intro scope s hs
  simp only [within]
  cases (context.orTimeout s.now timeout).interruptAt s.now with
  | some interrupt => exact enters _ _ _ _ hs
  | none =>
    have ended := h { scope with context := context.orTimeout s.now timeout }
      { s with started := s.now, waits := 0 } hs
    dsimp only
    split at ended <;> rename_i heq <;> rw [heq] <;> exact ended

/-- A computation keeps something about the world, however it ends. -/
abbrev Preserves (kept : σ → Prop) (x : Run σ α) : Prop :=
  Ensures (fun w _ _ => kept w) x (fun _ w _ _ => kept w) fun _ w _ _ => kept w

/-! ## Silent computations -/

/-- Nothing is emitted, however the computation ends. -/
def Silent (x : Run σ α) : Prop :=
  ∀ emitted, Ensures (fun _ _ e => e = emitted) x (fun _ _ _ e => e = emitted)
    (fun _ _ _ e => e = emitted)

theorem silent_pure (a : α) : Silent (pure a : Run σ α) := fun _ => ensures_pure a fun _ _ _ => id

theorem silent_bind {x : Run σ α} {f : α → Run σ β} (hx : Silent x) (hf : ∀ a, Silent (f a)) :
    Silent (x >>= f) :=
  fun emitted => ensures_bind (hx emitted) fun a => hf a emitted

theorem silent_get : Silent (getThe HandleState : Run σ HandleState) := fun _ => ensures_get

theorem silent_modify (f : HandleState → HandleState) :
    Silent (modifyThe HandleState f : Run σ Unit) :=
  fun _ => ensures_modify f fun _ _ _ => id

theorem silent_await (call : σ → Reply σ α) : Silent (await call) := by
  intro emitted
  refine ensures_await fun w k e h => ?_
  cases call w with
  | afterWait => exact ⟨h, fun _ _ => h⟩
  | never => exact fun _ => h
  | atOnce | crash => exact h

theorem silent_log (world : World σ) (emitter : Emitter) (entry : LogEntry) :
    Silent ((world.collaborators emitter).log entry) :=
  fun _ => ensures_update _ fun _ => id

theorem ensures_silent {x : Run σ α} (silent : Silent x) (h : Ensures before x after broken)
    (emitted : List OperationEvent) :
    Ensures (fun w k e => before w k e ∧ e = emitted) x (fun a w k e => after a w k e ∧ e = emitted)
      (fun reason w k e => broken reason w k e ∧ e = emitted) :=
  h.and (silent emitted)

end Run

end ConversationMemory
