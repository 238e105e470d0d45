import ConversationMemory.CommandLine
import ConversationMemory.Proofs.Handle.Build
import ConversationMemory.Proofs.Handle.Keeping
import ConversationMemory.Proofs.Handle.Session
import ConversationMemory.Proofs.Store.Identity

/-!
# Memories that have been registered

* `Site.Holds`: the record of a name is of some kind. `CommandLine.holds_performAll`: commands keep it
  so.
* `CommandLine.Job`: a command with all that it is carried out with; `performAll`: one after the other.
* `Registers.knows`: what is registered keeps its identity, whatever is done afterwards.
* `registeredUid_inj`: which memories have one identity.
* **`sessions_of_registered`**: so handles of registered memories have different sessions, unless a
  point could be the one between the namespace and the name of both.
-/

namespace ConversationMemory

open Run

variable {ν : Type}

/-! ## Operations at a site -/

/-- The record of a name at the site is of some kind. -/
def Site.Holds (site : Site ν) (namespaceName name : String) (kind : MemoryRecord → Prop) : Prop :=
  ∃ record, site.store.get name namespaceName = .ok record ∧ kind record

/-- The calls to a site keep the kind of a record that does not change with its version or when an
address is written to its status. -/
theorem Site.keeps_kind (network : Network ν) {namespaceName name : String}
    {kind : MemoryRecord → Prop} (stays : ∀ record version address, address ≠ "" → kind record →
      kind ((Handle.drifted record address).atVersion version)) :
    (Site.world network).KeepsResolved (· ≠ "") fun site => site.Holds namespaceName name kind where
  get _ _ _ h := ⟨h, fun _ _ => h⟩
  resolve _ _ _ h := ⟨⟨fun _ => Resolver.nonEmpty_of_resolve, h⟩, fun _ _ => h⟩
  updateStatus record address site nonEmpty h := by
    have written : ({ site with store := (site.store.updateStatus (Handle.drifted record address)).2 } :
        Site ν).Holds namespaceName name kind := by
      obtain ⟨r, got, holds⟩ := h
      obtain same | ⟨version, rewritten⟩ :=
        FileBacked.get_after_updateStatus (Handle.drifted record address) got
      · exact ⟨r, same, holds⟩
      · exact ⟨_, rewritten, stays r version address nonEmpty holds⟩
    simp only [Site.world]
    cases (site.store.updateStatus (Handle.drifted record address)).1 with
    | done => exact ⟨written, fun _ _ => h⟩
    | failed => exact ⟨written, fun _ _ => h⟩
    | crashed => exact written
  send request site h := by
    simp only [Site.world]
    cases network request site.network with
    | afterWait => exact ⟨h, fun _ _ => h⟩
    | never => exact fun _ _ => h
    | atOnce | crash => exact h
  log _ _ := id

/-- Behind the same base address, sessions of different names have histories of different
addresses. -/
theorem Handle.messagesUrl_inj {handle other : Handle} {base : String}
    (same : handle.settings.messagesPath = other.settings.messagesPath) :
    handle.messagesUrl base = other.messagesUrl base ↔ handle.sessionId = other.sessionId := by
  refine ⟨fun h => ?_, fun h => by rw [Handle.messagesUrl, Handle.messagesUrl, same, h]⟩
  rw [Handle.messagesUrl, Handle.messagesUrl, same] at h
  have encoded := congrArg String.toList h
  simp only [String.toList_append, List.append_cancel_left_eq, String.toList_ofList] at encoded
  exact String.toList_injective (encode_component_injective encoded)

namespace CommandLine

/-! ## Commands -/

section

variable {σ : Type} {world : World σ} {emitter : Emitter} {found : String → Prop} {kept : σ → Prop}
  (keeps : world.KeepsResolved found kept) (settings : MemoryConfig) (target : Target)
  (session : Option String)

include keeps

theorem preserves_connect :
    Preserves kept (connect (world.collaborators emitter) settings target session) := by
  unfold connect
  refine ensures_bind (keeps.preserves_build (handleSpec settings target session) true)
    fun built => ?_
  cases built with
  | error e => exact ensures_pure _ fun _ _ _ => id
  | ok made => exact ensures_bind (fun _ _ h => h) fun _ => ensures_pure _ fun _ _ _ => id

theorem preserves_addMessages (messages : List Message) :
    Preserves kept (addMessages (world.collaborators emitter) settings target session messages) := by
  unfold addMessages
  refine ensures_bind (preserves_connect keeps settings target session) fun connected => ?_
  cases connected with
  | error e => exact ensures_pure _ fun _ _ _ => id
  | ok handle =>
    have adds : Preserves kept (handle.addMessages (world.collaborators emitter) {} messages) := by
      unfold Handle.addMessages
      split
      · exact ensures_pure _ fun _ _ _ => id
      · exact (handle.begins_putMessages messages).preserves keeps
    refine ensures_bind adds fun added => ?_
    cases added with
    | error e => exact ensures_pure _ fun _ _ _ => id
    | ok _ =>
      exact ensures_bind (handle.preserves_close keeps.sending_nothing) fun _ =>
        ensures_pure _ fun _ _ _ => id

theorem preserves_getMessages :
    Preserves kept (getMessages (world.collaborators emitter) settings target session) := by
  unfold getMessages
  refine ensures_bind (preserves_connect keeps settings target session) fun connected => ?_
  cases connected with
  | error e => exact ensures_pure _ fun _ _ _ => id
  | ok handle =>
    refine ensures_bind (handle.begins_fetchMessages.preserves keeps) fun got => ?_
    cases got with
    | error e => exact ensures_pure _ fun _ _ _ => id
    | ok messages =>
      exact ensures_bind (handle.preserves_close keeps.sending_nothing) fun _ =>
        ensures_pure _ fun _ _ _ => id

end

theorem operate_keeps {α : Type} {kept : Site ν → Prop} (colours : Bool) (network : Network ν)
    {site : Site ν} {command : Collaborators (Run (Site ν)) → Run (Site ν) (Except MemoryError α)}
    (shown : α → String)
    (preserves : Preserves kept (command ((Site.world network).collaborators .logging)))
    (h : kept site) : kept (operate colours network site command shown).2 := by
  have ended := preserves {} { world := site, handle := ⟨"", none⟩, now := 0 } h
  unfold operate
  dsimp only
  split at ended <;> rename_i heq <;> rw [heq] <;> exact ended

/-- The record of a memory at a site has the identity that it gets when it is registered. -/
def Knows (target : Target) (site : Site ν) : Prop :=
  site.store.Identifies target.namespaceName target.name (registeredUid target)

/-- **A command keeps the kind of the record of a memory** that does not change when an address is
written to its status, if it does not register a record of another kind. -/
theorem holds_perform {site : Site ν} {target : Target} {kind : MemoryRecord → Prop}
    (stays : ∀ record version address, address ≠ "" → kind record →
      kind ((Handle.drifted record address).atVersion version))
    (colours : Bool) (settings : MemoryConfig) (network : Network ν) (input : String)
    (command : Command)
    (registers : ∀ address version, command = .register target address →
      kind ((registration target address).atVersion version))
    (h : site.Holds target.namespaceName target.name kind) :
    (perform colours settings network input site command).2.Holds target.namespaceName target.name
      kind := by
  let kept : Site ν → Prop := fun site => site.Holds target.namespaceName target.name kind
  have keeps : (Site.world network).KeepsResolved (· ≠ "") kept := Site.keeps_kind network stays
  change kept site at h
  cases command with
  | add other session file =>
    rw [perform]
    split
    · exact h
    · exact operate_keeps colours network _ (preserves_addMessages keeps settings other session _) h
  | get other session json =>
    exact operate_keeps colours network _ (preserves_getMessages keeps settings other session) h
  | «show» other =>
    rw [perform]
    split <;> exact h
  | register other address =>
    obtain ⟨r, got, holds⟩ := h
    obtain same | ⟨sameNamespace, sameName, version, -, stored⟩ :=
      FileBacked.get_after_put (registration other address) got
    · exact ⟨r, same, holds⟩
    · obtain rfl : other = target := by
        cases other
        cases target
        simp_all [registration, MemoryRecord.create, MemoryRecord.withUid,
          MemoryRecord.withResolvedAddress]
      exact ⟨_, stored, registers address version rfl⟩

/-! ## Runs of commands -/

/-- A command with all that it is carried out with. -/
structure Job (ν : Type) where
  command : Command
  settings : MemoryConfig := Settings.standard.memory
  network : Network ν
  input : String := ""
  colours : Bool := false

/-- What a job leaves at a site. -/
def Job.after (job : Job ν) (site : Site ν) : Site ν :=
  (perform job.colours job.settings job.network job.input site job.command).2

/-- What jobs leave at a site, one after the other. -/
def performAll (site : Site ν) (jobs : List (Job ν)) : Site ν :=
  jobs.foldl (fun site job => job.after site) site

theorem holds_performAll {site : Site ν} {target : Target} {kind : MemoryRecord → Prop}
    (stays : ∀ record version address, address ≠ "" → kind record →
      kind ((Handle.drifted record address).atVersion version))
    (jobs : List (Job ν))
    (registers : ∀ job ∈ jobs, ∀ address version, job.command = .register target address →
      kind ((registration target address).atVersion version))
    (h : site.Holds target.namespaceName target.name kind) :
    (performAll site jobs).Holds target.namespaceName target.name kind := by
  induction jobs generalizing site with
  | nil => exact h
  | cons job rest ih =>
    exact ih (fun later there => registers later (List.mem_cons_of_mem _ there))
      (holds_perform stays job.colours job.settings job.network job.input job.command
        (registers job List.mem_cons_self) h)

/-- **Jobs keep the identity of every registered memory.** -/
theorem knows_performAll {site : Site ν} {target : Target} (jobs : List (Job ν))
    (h : Knows target site) : Knows target (performAll site jobs) :=
  holds_performAll (fun _ _ _ _ => id) jobs (fun _ _ _ _ _ => rfl) h

theorem holds_of_register {site : Site ν} {job : Job ν} {target : Target} {address : String}
    {stored : MemoryRecord} (registers : job.command = .register target address)
    (accepted : (register site.store target address).1 = .done stored) :
    (job.after site).Holds target.namespaceName target.name
      fun record => ∃ version, record = (registration target address).atVersion version := by
  rcases hput : register site.store target address with ⟨ending, store⟩
  obtain rfl : ending = .done stored := by simpa [hput] using accepted
  obtain ⟨made, got⟩ := FileBacked.get_of_put hput
  have there : (job.after site).store = store := by
    rw [Job.after, registers, perform, hput]
  refine ⟨stored, ?_, made⟩
  rw [there]
  exact got

/-- One of the jobs registers the memory, and this is accepted. -/
def Registers (site : Site ν) (jobs : List (Job ν)) (target : Target) : Prop :=
  ∃ before job after address stored, jobs = before ++ job :: after ∧
    job.command = .register target address ∧
    (register (performAll site before).store target address).1 = .done stored

/-- **What has been registered keeps its identity.** -/
theorem Registers.knows {site : Site ν} {jobs : List (Job ν)} {target : Target}
    (h : Registers site jobs target) : Knows target (performAll site jobs) := by
  obtain ⟨before, job, after, address, stored, rfl, registers, accepted⟩ := h
  rw [performAll, List.foldl_append, List.foldl_cons]
  obtain ⟨record, got, version, rfl⟩ := holds_of_register registers accepted
  exact knows_performAll after ⟨_, got, rfl⟩

/-! ## Identities -/

/-- The namespace of the other memory goes on with a point and the front of the name of this one, and
its name is the rest. -/
def Target.Blends (target other : Target) : Prop :=
  ∃ middle, other.namespaceName = target.namespaceName ++ "." ++ middle ∧
    target.name = middle ++ "." ++ other.name

/-- Two texts with a point in each are the same when it is the same point, or when one of them stands
in front of a text that goes on to the other. -/
theorem append_point_inj {a b a' b' : List Char} : a ++ '.' :: b = a' ++ '.' :: b' ↔
    (a = a' ∧ b = b') ∨ (∃ m, a' = a ++ '.' :: m ∧ b = m ++ '.' :: b') ∨
      ∃ m, a = a' ++ '.' :: m ∧ b' = m ++ '.' :: b := by
  constructor
  · intro same
    obtain ⟨way, rfl, h⟩ | ⟨way, rfl, h⟩ := List.append_eq_append_iff.1 same
    · cases way with
      | nil => exact .inl ⟨(List.append_nil a).symm, List.tail_eq_of_cons_eq h⟩
      | cons c m =>
        obtain rfl : '.' = c := List.head_eq_of_cons_eq h
        exact .inr (.inl ⟨m, rfl, List.tail_eq_of_cons_eq h⟩)
    · cases way with
      | nil => exact .inl ⟨List.append_nil a', (List.tail_eq_of_cons_eq h).symm⟩
      | cons c m =>
        obtain rfl : '.' = c := List.head_eq_of_cons_eq h
        exact .inr (.inr ⟨m, rfl, List.tail_eq_of_cons_eq h⟩)
  · rintro (⟨rfl, rfl⟩ | ⟨m, rfl, rfl⟩ | ⟨m, rfl, rfl⟩) <;> simp

/-- **Two memories have one identity when they differ in which of several points stands between the
namespace and the name.** -/
theorem registeredUid_inj {target other : Target} :
    registeredUid target = registeredUid other ↔
      target = other ∨ target.Blends other ∨ other.Blends target := by
  have blends {one another : Target} : one.Blends another ↔
      ∃ m, another.namespaceName.toList = one.namespaceName.toList ++ '.' :: m ∧
        one.name.toList = m ++ '.' :: another.name.toList := by
    constructor
    · rintro ⟨m, hns, hname⟩
      exact ⟨m.toList, by simp [hns], by simp [hname]⟩
    · rintro ⟨m, hns, hname⟩
      exact ⟨String.ofList m, by simp [← String.toList_inj, hns], by simp [← String.toList_inj, hname]⟩
  have spelled (target : Target) : (registeredUid target).toList =
      target.namespaceName.toList ++ '.' :: target.name.toList := by
    simp [registeredUid]
  have same : target = other ↔ target.namespaceName.toList = other.namespaceName.toList ∧
      target.name.toList = other.name.toList := by
    obtain ⟨name, namespaceName⟩ := target
    obtain ⟨name', namespaceName'⟩ := other
    rw [String.toList_inj, String.toList_inj, Target.mk.injEq, and_comm]
  rw [blends, blends, same, ← String.toList_inj, spelled, spelled, append_point_inj]

/-! ## Handles of registered memories -/

/-- The handle is built at the site, in some way, for the memory and without a session of its own. -/
def Opens (site : Site ν) (target : Target) (handle : Handle) : Prop :=
  ∃ (network : Network ν) (emitter : Emitter) (spec : HandleSpec) (scope : Scope)
    (s t : Running (Site ν)) (state : HandleState),
    s.world = site ∧ spec.name = target.name ∧ spec.namespaceName = target.namespaceName ∧
      (∀ session, spec.sessionId = some session → session = "") ∧
      (spec.build ((Site.world network).collaborators emitter) true).Reaches scope s
        (.ok (handle, state)) t

theorem Opens.session {site : Site ν} {target : Target} {handle : Handle}
    (h : Opens site target handle) (knows : Knows target site) :
    handle.sessionId = registeredUid target := by
  obtain ⟨network, emitter, spec, scope, s, t, state, rfl, named, placed, silent, built⟩ := h
  obtain ⟨record, after, answers, made⟩ := HandleSpec.record_of_build _ _ built
  obtain ⟨known, got, identity⟩ := knows
  have read : s.world.store.get spec.name spec.namespaceName = .ok record := answers.1
  rw [named, placed, got] at read
  obtain rfl : known = record := Except.ok.inj read
  cases made with
  | handle _ _ its _ =>
    cases its with
    | given given nonEmpty => exact (nonEmpty (silent _ given)).elim
    | identity => exact identity

/-- **Which registered memories share their default session.** Handles that are built later, without a
session of their own, have the identities of their memories as their sessions: these are the same
exactly when a point of the one could be the one between namespace and name in the other, and behind
the same base address the histories of two sessions have the same address exactly when the sessions
are the same. -/
theorem sessions_of_registered {site : Site ν} {jobs jobs' : List (Job ν)} {target other : Target}
    {handle handle' : Handle} (registered : Registers site jobs target)
    (registered' : Registers site jobs' other) (opens : Opens (performAll site jobs) target handle)
    (opens' : Opens (performAll site jobs') other handle') :
    handle.sessionId = registeredUid target ∧ handle'.sessionId = registeredUid other ∧
      (handle.sessionId = handle'.sessionId ↔
        target = other ∨ target.Blends other ∨ other.Blends target) ∧
      ∀ base, handle.settings.messagesPath = handle'.settings.messagesPath →
        (handle.messagesUrl base = handle'.messagesUrl base ↔
          handle.sessionId = handle'.sessionId) := by
  have session := opens.session registered.knows
  have session' := opens'.session registered'.knows
  refine ⟨session, session', ?_, fun base => Handle.messagesUrl_inj⟩
  rw [session, session', registeredUid_inj]

theorem exists_opens {site : Site ν} {target : Target} {record : MemoryRecord} {address : String}
    (got : site.store.get target.name target.namespaceName = .ok record)
    (resolved : record.status.lastResolvedAddress = some address) (nonEmpty : address ≠ "")
    (identity : record.metadata.uid ≠ "") (named : target.name ≠ "")
    (placed : target.namespaceName ≠ "") : ∃ handle, Opens site target handle := by
  let spec : HandleSpec := { name := target.name, namespaceName := target.namespaceName }
  have accepted : spec.check true = .ok () := by simp [HandleSpec.check, spec, named, placed]
  have answers : ((Site.world Network.offline).get spec.name spec.namespaceName site).Answers
      (.ok record) site := ⟨got, rfl⟩
  obtain ⟨result, t, reached, -⟩ := HandleSpec.settles_build (Site.world Network.offline) .recording
    spec true answers {} { world := site, handle := ⟨"", none⟩, now := 0 } ⟨rfl, rfl⟩ rfl
  obtain ⟨answer, after, answers', made⟩ := HandleSpec.reaches_build _ _ accepted reached
  obtain rfl := (answers.unique answers').1
  have builds := spec.ofRecord_made record
  dsimp only at made
  rw [← made] at builds
  cases builds with
  | notReady unresolved => exact (nonEmpty (unresolved _ resolved)).elim
  | noSession _ _ _ anonymous => exact (identity anonymous).elim
  | handle =>
    exact ⟨_, Network.offline, .recording, spec, {}, _, t, _, rfl, rfl, rfl,
      fun _ given => (Option.some_ne_none _ given.symm).elim, reached⟩

/-! ## Two memories in one directory -/

/-- A memory in a namespace with a point, and one with a point in its name. -/
def inner : Target := ⟨"c", "a.b"⟩

/-- A memory with a point in its name. -/
def outer : Target := ⟨"b.c", "a"⟩

/-- Registers a memory at a service on this machine. -/
def enrol (target : Target) : Job Unit where
  command := .register target "http://[::1]"
  network := Network.offline

theorem mirrors_register {site : Site ν} {memory : InMemory} (mirrors : Mirrors site.store memory)
    {job : Job ν} {target : Target} {address : String}
    (registers : job.command = .register target address)
    (fits : FileBacked.Fits "" target.namespaceName)
    (nameFits : FileBacked.Fits ".json.tmp" target.name)
    (point : target.name ≠ ".") {stored : MemoryRecord} {after : InMemory}
    (puts : memory.put (registration target address) = (.done stored, after)) :
    (register site.store target address).1 = .done stored ∧ Mirrors (job.after site).store after := by
  obtain ⟨answers, -, mirrors'⟩ := @agree_put _ _ mirrors (registration target address) fits
    nameFits point
  rw [InMemory.take, puts] at answers mirrors'
  have accepted : (register site.store target address).1 = .done stored := by
    change StoreAnswer.ofEnding .record (register site.store target address).1 =
      .record stored at answers
    cases h : (register site.store target address).1 with
    | done other =>
      rw [h] at answers
      rw [StoreAnswer.record.inj answers]
    | failed e =>
      rw [h] at answers
      cases answers
    | crashed =>
      rw [h] at answers
      cases answers
  refine ⟨accepted, ?_⟩
  rw [Job.after, registers]
  exact mirrors' fun h => by cases h

/-- A namespace with a point and a name with one: the two memories have one session. -/
theorem sessions_of_registered_points : inner ≠ outer ∧
    ∃ handle handle', Opens (performAll ⟨shelf, ()⟩ [enrol inner, enrol outer]) inner handle ∧
      Opens (performAll ⟨shelf, ()⟩ [enrol inner, enrol outer]) outer handle' ∧
      handle.sessionId = handle'.sessionId := by
  have start : Mirrors shelf {} := mirrors_of_openAt openAt_shelf shelf_empty
  obtain ⟨accepted, mirrors⟩ := @mirrors_register _ ⟨shelf, ()⟩ {} start (enrol inner) inner _ rfl
    (by decide) (by decide) (by decide) _ _ rfl
  obtain ⟨accepted', mirrors'⟩ := @mirrors_register _ _ _ mirrors (enrol outer) outer _ rfl (by decide)
    (by decide) (by decide) _ _ rfl
  have registered : Registers ⟨shelf, ()⟩ [enrol inner, enrol outer] inner :=
    ⟨[], enrol inner, [enrol outer], "http://[::1]", _, rfl, rfl, accepted⟩
  have registered' : Registers ⟨shelf, ()⟩ [enrol inner, enrol outer] outer :=
    ⟨[enrol inner], enrol outer, [], "http://[::1]", _, rfl, rfl, accepted'⟩
  obtain ⟨handle, opens⟩ := @exists_opens _ (performAll ⟨shelf, ()⟩ [enrol inner, enrol outer]) inner _
    "http://[::1]" ((get_eq mirrors' (by decide) (by decide)).trans rfl) rfl (by decide) (by decide)
    (by decide) (by decide)
  obtain ⟨handle', opens'⟩ := @exists_opens _ (performAll ⟨shelf, ()⟩ [enrol inner, enrol outer]) outer
    _ "http://[::1]" ((get_eq mirrors' (by decide) (by decide)).trans rfl) rfl (by decide) (by decide)
    (by decide) (by decide)
  refine ⟨by decide, handle, handle', opens, opens', ?_⟩
  obtain ⟨-, -, same, -⟩ := sessions_of_registered registered registered' opens opens'
  exact same.2 (.inr (.inr ⟨"b", rfl, rfl⟩))

end CommandLine

end ConversationMemory
