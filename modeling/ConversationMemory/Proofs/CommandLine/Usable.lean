import ConversationMemory.Proofs.CommandLine.Registered

/-!
# What a registration is good for

* `CommandLine.PointsTo`: the record of a memory that was registered with an address, and may have been
  used since.
* `CommandLine.work`: the command that adds or fetches messages. `CommandLine.prompt_connect`: it builds
  its handle at once.
* `Handle.prompt_perform`, `Handle.leaves_perform`: what an operation does with the address, before
  anything is sent.
* **`usable_of_registered`**: a memory can be used exactly when the address that it was registered with
  is one, without the blanks around it.
-/

namespace ConversationMemory

open Run

variable {ν : Type}

/-! ## Reading at a site -/

section

variable {network : Network ν} {emitter : Emitter} {site : Site ν} {calls : List Call}
  {record : MemoryRecord} {name namespaceName : String}

theorem Site.prompt_get (got : site.store.get name namespaceName = .ok record) :
    Prompt (· = (site, calls))
      (((Site.world network).watched.collaborators emitter).get name namespaceName)
      fun a w => a = .ok record ∧
        w = (site, calls ++ [.get name namespaceName (some (.ok record))]) := by
  change Prompt _ (await ((Site.world network).watched.get name namespaceName)) _
  refine prompt_await fun w here =>
    ⟨_, _, (site, calls ++ [.get name namespaceName none]), ?_, rfl, rfl⟩
  rw [here, ← got]
  rfl

theorem Site.prompt_resolve (spec : AddressSpec) (namespaceName : String) :
    Prompt (· = (site, calls))
      (((Site.world network).watched.collaborators emitter).resolve spec namespaceName)
      fun a w => a = Resolver.resolve { values := some site.store.configValue } spec namespaceName ∧
        w = (site, calls ++ [.resolve spec namespaceName (some a)]) := by
  change Prompt _ (await ((Site.world network).watched.resolve spec namespaceName)) _
  refine prompt_await fun w here =>
    ⟨_, _, (site, calls ++ [.resolve spec namespaceName none]), ?_, rfl, rfl⟩
  rw [here]
  rfl

end

theorem Reply.noted_keeps {σ α : Type} {reply : Reply σ α} {call : Option α → Call}
    {calls : List Call} {found : List String} (aside : ∀ answer, (call answer).resolved? = none)
    (h : resolvedAddresses calls = found) :
    (reply.noted call calls).Keeps (fun w => resolvedAddresses w.2 = found)
      fun _ w => resolvedAddresses w.2 = found := by
  have adds (answer : Option α) : resolvedAddresses (calls ++ [call answer]) = found := by
    rw [resolvedAddresses_append, h, resolvedAddresses, List.filterMap_cons_none (aside answer),
      List.filterMap_nil, List.append_nil]
  cases reply with
  | afterWait => exact ⟨adds _, fun _ _ => adds _⟩
  | never => exact fun _ _ => adds _
  | atOnce | crash => exact adds _

theorem World.keeps_addresses {σ : Type} (world : World σ) (written : Option MemoryRecord)
    (found : List String) :
    (world.watched.sending written).Keeps (fun w => resolvedAddresses w.2 = found)
      fun _ w => resolvedAddresses w.2 = found where
  get _ _ _ h _ _ := h
  resolve _ _ _ h _ _ := h
  updateStatus _ _ h := by
    cases written with
    | none => exact fun _ _ => h
    | some record => exact Reply.noted_keeps (fun _ => rfl) h
  send _ _ h := Reply.noted_keeps (fun _ => rfl) h
  log _ _ h := h

/-! ## What an operation does with the address -/

namespace Handle

section

variable {network : Network ν} {emitter : Emitter} {site : Site ν} {calls : List Call}
  {record : MemoryRecord} {handle : Handle} {operation : String}
  (got : site.store.get handle.name handle.namespaceName = .ok record)

include got

theorem prompt_reconcile {e : ResolveError}
    (refused : Resolver.resolve { values := some site.store.configValue } record.spec.address
      handle.namespaceName = .error e) :
    Prompt (· = (site, calls))
      (handle.reconcile ((Site.world network).watched.collaborators emitter) operation)
      fun r _ => r = .error (.resolution operation handle.target e) := by
  obtain ⟨rest, -, parts⟩ :=
    handle.reconcile_parts (Site.world network).watched emitter operation
  rw [parts]
  refine prompt_bind (Site.prompt_get got) fun read => prompt_assume fun same => ?_
  subst same
  refine prompt_bind (Site.prompt_resolve _ _) fun found => prompt_assume fun same => ?_
  rw [refused] at same
  subst same
  exact prompt_pure _ fun _ _ => rfl

theorem leaves_reconcile {address : String}
    (accepted : Resolver.resolve { values := some site.store.configValue } record.spec.address
      handle.namespaceName = .ok address) :
    Leaves (· = (site, calls))
      (handle.reconcile ((Site.world network).watched.collaborators emitter) operation)
      fun w => resolvedAddresses w.2 = resolvedAddresses calls ++ [address] := by
  obtain ⟨rest, built, parts⟩ :=
    handle.reconcile_parts (Site.world network).watched emitter operation
  rw [parts]
  refine leaves_bind (Site.prompt_get got) fun read => leaves_assume fun same => ?_
  subst same
  refine leaves_bind (Site.prompt_resolve _ _) fun found => leaves_assume fun same => ?_
  rw [accepted] at same
  subst same
  have kept : Preserves (fun w : Site ν × List Call =>
      resolvedAddresses w.2 = resolvedAddresses calls ++ [address]) (rest record address) :=
    (built record address).keeps (World.keeps_addresses _ _ _)
  refine (leaves_of_preserves kept).weaken fun w here => ?_
  rw [here, resolvedAddresses_append, resolvedAddresses_append]
  simp [resolvedAddresses, Call.resolved?]

end

theorem perform_tracks {σ : Type} {world : World σ} {emitter : Emitter} {context : OperationContext}
    (handle : Handle) {operation : Operation} (nonEmpty : operation.IsNonEmpty) :
    ∃ (α : Type) (metadata : Entries String) (finish : α → Entries String × String)
      (body : Run σ (Except MemoryError α)) (shown : α → Answer),
      handle.Begins world emitter operation.name body ∧
      handle.perform (world.collaborators emitter) context operation = (·.map shown) <$>
        handle.track (world.collaborators emitter) context operation.name metadata finish body := by
  cases operation with
  | get => exact ⟨_, _, _, _, _, handle.begins_fetchMessages, rfl⟩
  | add messages =>
    refine ⟨Unit, handle.baseMetadata.insert "messages" (toString messages.length),
      fun _ => ([], "messages added"), _, fun _ => .added, handle.begins_putMessages messages, ?_⟩
    rw [perform, addMessages, if_neg (by simpa [Operation.IsNonEmpty] using nonEmpty)]
    rfl

theorem logs_nothing {network : Network ν} {seen : Site ν × List Call} (entry : LogEntry)
    (w : Site ν × List Call) (here : w = seen) :
    (Site.world network).watched.log entry w = seen := here

theorem interruptAt_timeout (settings : MemoryConfig) (now : Nat) :
    (({} : OperationContext).orTimeout now settings.operationTimeout).interruptAt now = none := by
  refine OperationContext.interruptAt_eq_none_iff.2 fun stop stops => ?_
  unfold OperationContext.orTimeout at stops
  cases timed : settings.operationTimeout with
  | none =>
    rw [timed] at stops
    cases stops
  | some timeout =>
    have positive : 0 < timeout := by
      obtain ⟨milliseconds, given, rfl⟩ := Option.map_eq_some_iff.1 timed
      exact of_decide_eq_true (Option.filter_eq_some_iff.1 given).2
    rw [timed] at stops
    obtain rfl : now + timeout = stop := Option.some.inj stops
    omega

section

variable {network : Network ν} {emitter : Emitter} {site : Site ν} {calls : List Call}
  {record : MemoryRecord} {handle : Handle} {operation : Operation}
  (got : site.store.get handle.name handle.namespaceName = .ok record)
  (nonEmpty : operation.IsNonEmpty)

include got nonEmpty

theorem prompt_perform {e : ResolveError}
    (refused : Resolver.resolve { values := some site.store.configValue } record.spec.address
      handle.namespaceName = .error e) :
    Prompt (· = (site, calls))
      (handle.perform ((Site.world network).watched.collaborators emitter) {} operation)
      fun r _ => r = .error (.resolution operation.name handle.target e) := by
  obtain ⟨α, metadata, finish, body, shown, ⟨rest, -, fails, rfl⟩, tracks⟩ :=
    @perform_tracks _ (Site.world network).watched emitter {} handle _ nonEmpty
  rw [tracks]
  have body : Prompt (· = (site, calls))
      (handle.reconcile ((Site.world network).watched.collaborators emitter) operation.name >>= rest)
      fun q _ => q = .error (.resolution operation.name handle.target e) ∧ True := by
    refine prompt_bind (prompt_reconcile got refused) fun base => ?_
    rintro scope s opens rfl
    rw [fails]
    exact ⟨_, s, rfl, rfl, rfl, trivial⟩
  refine prompt_bind (prompt_track (interruptAt_timeout handle.settings) logs_nothing
    (fun _ _ _ => trivial) body) fun q => prompt_assume fun same => ?_
  subst same
  exact prompt_pure _ fun _ _ => rfl

theorem leaves_perform {address : String}
    (accepted : Resolver.resolve { values := some site.store.configValue } record.spec.address
      handle.namespaceName = .ok address) :
    Leaves (· = (site, calls))
      (handle.perform ((Site.world network).watched.collaborators emitter) {} operation)
      fun w => resolvedAddresses w.2 = resolvedAddresses calls ++ [address] := by
  obtain ⟨α, metadata, finish, body, shown, ⟨rest, built, -, rfl⟩, tracks⟩ :=
    @perform_tracks _ (Site.world network).watched emitter {} handle _ nonEmpty
  rw [tracks]
  have body : Leaves (· = (site, calls))
      (handle.reconcile ((Site.world network).watched.collaborators emitter) operation.name >>= rest)
      fun w => resolvedAddresses w.2 = resolvedAddresses calls ++ [address] :=
    leaves_then (leaves_reconcile got accepted)
      fun base => (built base).keeps (World.keeps_addresses _ _ _)
  exact leaves_then (leaves_track (interruptAt_timeout handle.settings) logs_nothing
    (fun _ _ here => here) body) fun _ => ensures_pure _ fun _ _ _ => id

end

end Handle

/-! ## What comes after the address -/

/-- The error of an operation that has an address: it was stopped, its request could not be sent, or the
service has refused it or given an answer that cannot be understood. -/
def MemoryError.IsAfterAddress : MemoryError → Prop
  | cancelled .. | transport .. | backend .. | decode .. => True
  | _ => False

namespace Handle

variable {handle : Handle} {operation : Operation} {e : MemoryError}

theorem isAfterAddress_of_decodeHistory {bytes : List UInt8}
    (h : handle.decodeHistory bytes = .error e) : e.IsAfterAddress := by
  unfold decodeHistory at h
  split at h
  · cases h
    trivial
  · split at h
    · cases h
      trivial
    · cases h

theorem isAfterAddress_of_resultOf {answer : Except TransportError Response}
    (h : handle.resultOf operation answer = .error e) : e.IsAfterAddress := by
  cases answer with
  | error reason =>
    cases h
    trivial
  | ok response =>
    by_cases success : response.isSuccess
    · cases operation with
      | add messages => simp [resultOf, received, success] at h
      | get =>
        simp only [resultOf, received, success, if_true, historyOf] at h
        split at h
        · cases h
          trivial
        · cases hdecode : handle.decodeHistory _ with
          | ok messages =>
            rw [hdecode] at h
            cases h
          | error reason =>
            rw [hdecode] at h
            cases h
            exact isAfterAddress_of_decodeHistory hdecode
    · simp only [resultOf, received, success] at h
      cases h
      trivial

variable {network : Network ν} {emitter : Emitter} {site : Site ν} {calls : List Call}
  {record : MemoryRecord}

theorem isAfterAddress_of_perform {scope : Scope} {s t : Running (Site ν × List Call)}
    {address : String} (here : s.world = (site, calls))
    (got : site.store.get handle.name handle.namespaceName = .ok record)
    (accepted : Resolver.resolve { values := some site.store.configValue } record.spec.address
      handle.namespaceName = .ok address)
    (h : (handle.perform ((Site.world network).watched.collaborators emitter) {} operation).Reaches
      scope s (.error e) t) : e.IsAfterAddress := by
  by_cases nonEmpty : operation.IsNonEmpty
  swap
  · -- without messages there is nothing to do
    cases operation with
    | get => exact (nonEmpty trivial).elim
    | add messages =>
      obtain rfl : messages = [] := not_not.1 nonEmpty
      obtain ⟨q, done, failed⟩ := reaches_map.1 h
      obtain rfl : q = .ok () := (reaches_pure.1 done).1
      cases failed
  obtain ⟨_, _, _, interrupted⟩ | ⟨last, y, performed, -⟩ := reaches_perform nonEmpty h
  · cases interrupted
    trivial
  have there (event : OperationEvent) :
      afterEvent (Site.world network).watched emitter event s.world = (site, calls) := by
    rw [here]
    cases emitter <;> rfl
  rw [there] at performed
  generalize hr : (.error e : Except MemoryError Answer) = r at performed
  generalize t.handle.baseUrl = base at performed
  cases performed with
  | unsent reconciled refused =>
    cases hr
    trivial
  | sent reconciled prepared answered => exact isAfterAddress_of_resultOf hr.symm
  | unreconciled reconciled =>
    -- the record is read and its address is resolved, so there is no error
    obtain ⟨read, x, hread, hresult⟩ := reconciled.result
    obtain ⟨same, hx⟩ : site.store.get handle.name handle.namespaceName = read ∧ _ = x := hread
    obtain rfl : .ok record = read := got.symm.trans same
    obtain ⟨found, z, hfound, hresult⟩ := hresult
    subst hx
    obtain ⟨same, -⟩ : Resolver.resolve { values := some site.store.configValue } record.spec.address
      handle.namespaceName = found ∧ _ = z := hfound
    obtain rfl : .ok address = found := accepted.symm.trans same
    cases hresult

end Handle

/-! ## Commands -/

namespace CommandLine

section

variable {m : Type → Type} [Monad m] [MonadStateOf HandleState m]

/-- The command that adds messages to a memory or fetches them. -/
def work (c : Collaborators m) (settings : MemoryConfig) (target : Target) (session : Option String) :
    Operation → m (Except MemoryError Unit)
  | .add messages => (·.map fun _ => ()) <$> addMessages c settings target session messages
  | .get => (·.map fun _ => ()) <$> getMessages c settings target session

theorem work_eq [LawfulMonad m] (c : Collaborators m) (settings : MemoryConfig) (target : Target)
    (session : Option String) (operation : Operation) :
    work c settings target session operation = (do
      match ← connect c settings target session with
      | .error e => return .error e
      | .ok handle =>
        match ← handle.perform c {} operation with
        | .error e => return .error e
        | .ok _ =>
          handle.close c
          return .ok ()) := by
  cases operation with
  | add messages =>
    simp only [work, addMessages, Handle.perform, map_eq_pure_bind, bind_assoc]
    refine bind_congr fun connected => ?_
    cases connected with
    | error e => simp [Except.map]
    | ok handle =>
      simp only [bind_assoc, pure_bind]
      refine bind_congr fun added => ?_
      cases added <;> simp [Except.map]
  | get =>
    simp only [work, getMessages, Handle.perform, map_eq_pure_bind, bind_assoc]
    refine bind_congr fun connected => ?_
    cases connected with
    | error e => simp [Except.map]
    | ok handle =>
      simp only [bind_assoc, pure_bind]
      refine bind_congr fun got => ?_
      cases got <;> simp [Except.map]

end

section

variable {network : Network ν} {emitter : Emitter} {site : Site ν} {calls : List ConversationMemory.Call}
  {record : MemoryRecord} {target : Target}

theorem prompt_connect (settings : MemoryConfig) (session : Option String)
    (got : site.store.get target.name target.namespaceName = .ok record) :
    Prompt (· = (site, calls))
      (connect ((Site.world network).watched.collaborators emitter) settings target session)
      fun r w => r = ((handleSpec settings target session).ofRecord record).map Prod.fst ∧
        w = (site, calls ++ [.get target.name target.namespaceName (some (.ok record))]) := by
  have accepted : (handleSpec settings target session).check true = .ok () := by
    obtain ⟨path, located, -⟩ := FileBacked.get_eq_ok.1 got
    obtain ⟨placed, named, -⟩ := FileBacked.pathOf_eq_ok.1 located
    have nonEmpty {name : String} (h : FileBacked.IsSegment name) : name ≠ "" := by
      rintro rfl
      cases h
    simp [HandleSpec.check, handleSpec, nonEmpty placed, nonEmpty named]
  have logs (entry : LogEntry) {w : Site ν × List ConversationMemory.Call} : Prompt (· = w)
      (((Site.world network).watched.collaborators emitter).log entry) fun _ => (· = w) :=
    prompt_update _ (fun _ => rfl) fun _ here => here
  have built : Prompt (· = (site, calls))
      ((handleSpec settings target session).build
        ((Site.world network).watched.collaborators emitter) true)
      fun r w => r = (handleSpec settings target session).ofRecord record ∧
        w = (site, calls ++ [.get target.name target.namespaceName (some (.ok record))]) := by
    unfold HandleSpec.build
    rw [accepted]
    refine prompt_bind (Site.prompt_get got) fun read => prompt_assume fun same => ?_
    subst same
    dsimp only
    split
    · rename_i e hmade
      rw [hmade]
      exact prompt_pure _ fun _ h => ⟨rfl, h⟩
    · rename_i handle state hmade
      rw [hmade]
      exact prompt_bind (logs _) fun _ => prompt_pure _ fun _ h => ⟨rfl, h⟩
  unfold connect
  refine prompt_bind built fun r => prompt_assume fun same => ?_
  rw [← same]
  cases r with
  | error e => exact prompt_pure _ fun _ h => ⟨rfl, h⟩
  | ok made =>
    have sets {w : Site ν × List ConversationMemory.Call} : Prompt (· = w)
        (set made.2 : Run (Site ν × List ConversationMemory.Call) Unit) fun _ => (· = w) :=
      fun _ s _ here => ⟨(), _, rfl, rfl, here⟩
    exact prompt_bind sets fun _ => prompt_pure _ fun _ h => ⟨rfl, h⟩

end

/-! ## Registered memories -/

/-- The record of a memory that was registered with an address. A command may have written what it has
resolved to the status since. -/
structure PointsTo (target : Target) (address : String) (record : MemoryRecord) : Prop where
  spec : record.spec.address = .literal address
  identity : record.metadata.uid = registeredUid target
  resolved : ∃ last, record.status.lastResolvedAddress = some last ∧ (last = address ∨ last ≠ "")

/-- One of the jobs registers the memory with the address, this is accepted, and no later one registers
it again. -/
def LastRegisters (site : Site ν) (jobs : List (Job ν)) (target : Target) (address : String) : Prop :=
  ∃ before job after stored, jobs = before ++ job :: after ∧
    job.command = .register target address ∧
    (register (performAll site before).store target address).1 = .done stored ∧
    ∀ later ∈ after, ∀ other, later.command ≠ .register target other

variable {site : Site ν} {jobs : List (Job ν)} {target : Target} {address : String}
  {record : MemoryRecord}

theorem LastRegisters.holds (h : LastRegisters site jobs target address) :
    (performAll site jobs).Holds target.namespaceName target.name (PointsTo target address) := by
  obtain ⟨before, job, after, stored, rfl, registers, accepted, last⟩ := h
  rw [performAll, List.foldl_append, List.foldl_cons]
  refine holds_performAll ?_ after (fun later there other _ again =>
    (last later there other again).elim) ?_
  · exact fun record version found nonEmpty points =>
      ⟨points.spec, points.identity, found, rfl, .inr nonEmpty⟩
  · obtain ⟨record, got, version, rfl⟩ := holds_of_register registers accepted
    exact ⟨_, got, rfl, rfl, address, rfl, .inl rfl⟩

/-- The address is one for `http` or `https`, without the blanks around it. -/
def IsUsable (address : String) : Prop := Resolver.validate (Text.trim address) = .ok ()

/-- What comes of a command when the address of its memory cannot be used. -/
inductive Refused (target : Target) (operation address : String) : MemoryError → Prop
  | notReady (empty : address = "") :
    Refused target operation address (.notReady (target.namespaceName ++ "/" ++ target.name))
  | emptySpec (empty : address = "") : Refused target operation address
    (.resolution operation (target.namespaceName ++ "/" ++ target.name) .emptySpec)
  | invalidAddress (nonEmpty : address ≠ "") (reason : String) : Refused target operation address
    (.resolution operation (target.namespaceName ++ "/" ++ target.name)
      (.invalidAddress (Text.trim address) reason))

theorem resolve_literal (resolver : Resolver) (namespaceName address : String) :
    IsUsable address ∧
        resolver.resolve (.literal address) namespaceName = .ok (Text.trim address) ∨
      ¬ IsUsable address ∧ ∃ e, resolver.resolve (.literal address) namespaceName = .error e ∧
        (address = "" ∧ e = .emptySpec ∨
          address ≠ "" ∧ ∃ reason, e = .invalidAddress (Text.trim address) reason) := by
  by_cases empty : address = ""
  · subst empty
    exact .inr ⟨by rintro ⟨⟩, .emptySpec, rfl, .inl ⟨rfl, rfl⟩⟩
  · have used := AddressSpec.first_iff.1
      (@AddressSpec.First.literal (.literal address) address rfl empty)
    rw [Resolver.resolve_of_source used, Resolver.textOf, Except.bind, IsUsable]
    have judged := Resolver.judged_judge address
    rw [Resolver.judge] at judged ⊢
    cases accepted : Resolver.validate (Text.trim address) with
    | ok _ => exact .inl ⟨rfl, rfl⟩
    | error e =>
      rw [accepted] at judged
      refine .inr ⟨by rintro ⟨⟩, e, rfl, .inr ⟨empty, ?_⟩⟩
      cases judged with
      | unreadable => exact ⟨_, rfl⟩
      | unsupported => exact ⟨_, rfl⟩

theorem PointsTo.ofRecord (points : PointsTo target address record) (settings : MemoryConfig)
    (session : Option String) :
    address = "" ∧ (handleSpec settings target session).ofRecord record =
        .error (.notReady (target.namespaceName ++ "/" ++ target.name)) ∨
      ∃ handle state, (handleSpec settings target session).ofRecord record = .ok (handle, state) ∧
        handle.name = target.name ∧ handle.namespaceName = target.namespaceName := by
  have made := (handleSpec settings target session).ofRecord_made record
  generalize (handleSpec settings target session).ofRecord record = result at made ⊢
  cases made with
  | notReady unresolved =>
    obtain ⟨last, resolved, same | nonEmpty⟩ := points.resolved
    · exact .inl ⟨same ▸ unresolved last resolved, rfl⟩
    · exact (nonEmpty (unresolved last resolved)).elim
  | noSession _ _ _ anonymous =>
    have point : registeredUid target ≠ "" := by
      intro nothing
      simpa [registeredUid] using congrArg String.toList nothing
    exact (point (points.identity.symm.trans anonymous)).elim
  | handle => exact .inr ⟨_, _, rfl, rfl, rfl⟩

/-- **What a registration is good for.** After it was accepted, and after any other commands, a command
that adds or fetches messages takes its course at once: with an address for `http` or `https` it
resolves this address, without the blanks around it, and fails for other reasons only; with any other
one it fails, since the handle cannot be built or the address not be resolved. -/
theorem usable_of_registered (registered : LastRegisters site jobs target address)
    (settings : MemoryConfig) (session : Option String) (network : Network ν)
    (operation : Operation) :
    let ended := work ((Site.world network).watched.collaborators .logging) settings target session
      operation {} { world := (performAll site jobs, []), handle := ⟨"", none⟩, now := 0 }
    (IsUsable address → (∀ e, ended.1 = .ok (.error e) → e.IsAfterAddress) ∧
      (operation.IsNonEmpty → resolvedAddresses ended.2.world.2 = [Text.trim address])) ∧
    (¬ IsUsable address → operation.IsNonEmpty →
      ∃ e, ended.1 = .ok (.error e) ∧ Refused target operation.name address e) := by
  intro ended
  obtain ⟨record, got, points⟩ := registered.holds
  obtain ⟨r, u, connects, now, made, there⟩ := @prompt_connect _ network .logging _ [] _ _ settings
    session got {} { world := (performAll site jobs, []), handle := ⟨"", none⟩, now := 0 }
    ⟨rfl, rfl⟩ rfl
  have opens : ({} : Scope).IsOpen u.now := ⟨rfl, rfl⟩
  have course : ended = work ((Site.world network).watched.collaborators .logging) settings target
    session operation {} { world := (performAll site jobs, []), handle := ⟨"", none⟩, now := 0 } := rfl
  rw [work_eq, bind_ok connects] at course
  rw [course]
  have resolves := resolve_literal
    { values := some (performAll site jobs).store.configValue } target.namespaceName address
  obtain ⟨empty, refused⟩ | ⟨handle, state, builds, named, placed⟩ := points.ofRecord settings session
  · rw [refused] at made
    subst made
    refine ⟨fun usable => ?_, fun _ _ => ⟨_, rfl, .notReady empty⟩⟩
    subst empty
    cases usable
  rw [builds] at made
  obtain rfl : r = .ok handle := made
  rw [← named, ← placed] at got
  rw [← points.spec, ← placed] at resolves
  have shown : handle.target = target.namespaceName ++ "/" ++ target.name := by
    rw [Handle.target, named, placed]
  rcases resolves with ⟨usable, accepted⟩ | ⟨useless, e, refused, why⟩
  · refine ⟨fun _ => ⟨fun e failed => ?_, fun nonEmpty => ?_⟩,
      fun useless => (useless usable).elim⟩
    · obtain ⟨q, v, performed, rest⟩ := reaches_bind.1 (Prod.ext failed rfl :
        (_ >>= _ : Run _ (Except MemoryError Unit)).Reaches {} u (.error e) _)
      cases q with
      | error reason =>
        obtain rfl : e = reason := Except.error.inj (reaches_pure.1 rest).1
        exact Handle.isAfterAddress_of_perform there got accepted performed
      | ok _ =>
        obtain ⟨_, _, -, rest⟩ := reaches_bind.1 rest
        cases (reaches_pure.1 rest).1
    · refine (leaves_then (Handle.leaves_perform got nonEmpty accepted) (fun q => ?_) {} u opens
        there).trans rfl
      cases q with
      | error e => exact ensures_pure _ fun _ _ _ => id
      | ok _ =>
        exact ensures_bind (handle.preserves_close (World.keeps_addresses _ _ _)) fun _ =>
          ensures_pure _ fun _ _ _ => id
  · refine ⟨fun usable => (useless usable).elim, fun _ nonEmpty => ?_⟩
    obtain ⟨q, v, performed, -, rfl⟩ :=
      Handle.prompt_perform got nonEmpty refused {} u opens there
    refine ⟨_, congrArg Prod.fst (bind_ok performed), ?_⟩
    rw [shown]
    obtain ⟨empty, rfl⟩ | ⟨given, reason, rfl⟩ := why
    · exact .emptySpec empty
    · exact .invalidAddress given reason

/-- Registers a memory with an address. -/
def enrolAt (target : Target) (address : String) : Job Unit :=
  { enrol target with command := .register target address }

/-- What fetching the messages of a memory comes to, after it was registered with an address. -/
def fetched (target : Target) (address : String) :
    Except Abort (Except MemoryError Unit) × Running (Site Unit × List ConversationMemory.Call) :=
  work ((Site.world Network.offline).watched.collaborators .logging) Settings.standard.memory target
    none .get {}
    { world := (performAll ⟨shelf, ()⟩ [enrolAt target address], []), handle := ⟨"", none⟩, now := 0 }

/-- Without a scheme in front of it a host and its port can be registered, but not be used. -/
theorem usable_of_registered_port :
    LastRegisters ⟨shelf, ()⟩ [enrolAt inner "localhost:8080"] inner "localhost:8080" ∧
      (∃ e, (fetched inner "localhost:8080").1 = .ok (.error e) ∧
        Refused inner Handle.getOperation "localhost:8080" e) ∧
      resolvedAddresses (fetched inner " http://[::1]").2.world.2 = ["http://[::1]"] := by
  have start : Mirrors shelf {} := mirrors_of_openAt openAt_shelf shelf_empty
  have registered (address : String) :
      LastRegisters ⟨shelf, ()⟩ [enrolAt inner address] inner address :=
    ⟨[], enrolAt inner address, [], _, rfl, rfl, (@mirrors_register _ ⟨shelf, ()⟩ {} start
      (enrolAt inner address) inner address rfl (by decide) (by decide) (by decide) _ _ rfl).1, nofun⟩
  have spaced : IsUsable " http://[::1]" := rfl
  refine ⟨registered _, ?_, ?_⟩
  · exact (usable_of_registered (registered "localhost:8080") Settings.standard.memory none
      Network.offline .get).2 nofun trivial
  · exact ((usable_of_registered (registered " http://[::1]") Settings.standard.memory none
      Network.offline .get).1 spaced).2 trivial

end CommandLine

end ConversationMemory
