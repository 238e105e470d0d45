import ConversationMemory.Proofs.Handle.Drift
import ConversationMemory.Proofs.Handle.Progress
import ConversationMemory.Proofs.Resolution

/-!
# How a handle is built

* `HandleSpec.Refuses`: what is wrong with the arguments, the first of three faults.
  `HandleSpec.OfRecord`: what a record makes of a specification.
* `HandleSpec.Builds`: the calls of a construction, and what it comes to by the answer to them.
* **`builds_of_build`**: a construction in any world is one of these. It reads the record once, when
  nothing is wrong with the arguments, and calls for nothing else; a handle that is built has a name,
  a namespace and a session.
-/

namespace ConversationMemory

theorem Reply.ends_answers {σ α : Type} (reply : Reply σ α) :
    reply.Ends reply.Answers fun _ _ => True := by
  cases reply with
  | afterWait => exact ⟨⟨rfl, rfl⟩, fun _ _ => trivial⟩
  | never => exact fun _ _ => trivial
  | crash => exact trivial
  | atOnce => exact ⟨rfl, rfl⟩

namespace HandleSpec

open Run Handle

/-! ## What the arguments and the record decide -/

/-- The first fault of the arguments, by the text of its error. -/
inductive Refuses (spec : HandleSpec) (hasLocator : Bool) : String → Prop
  | locator (missing : hasLocator = false) :
    Refuses spec hasLocator "a resource locator is required"
  | name (located : hasLocator = true) (empty : spec.name = "") :
    Refuses spec hasLocator "memory name must not be empty"
  | namespaceName (located : hasLocator = true) (named : spec.name ≠ "")
    (empty : spec.namespaceName = "") : Refuses spec hasLocator "namespace must not be empty"

/-- There is no fault with the arguments. -/
structure Accepts (spec : HandleSpec) (hasLocator : Bool) : Prop where
  located : hasLocator = true
  named : spec.name ≠ ""
  placed : spec.namespaceName ≠ ""

/-- The session of a handle: the one that was asked for, or else the identity of the record. Empty
ones are as good as none. -/
inductive Session (spec : HandleSpec) (record : MemoryRecord) : String → Prop
  | given {session} (given : spec.sessionId = some session) (nonEmpty : session ≠ "") :
    Session spec record session
  | identity (silent : ∀ session, spec.sessionId = some session → session = "")
    (nonEmpty : record.metadata.uid ≠ "") : Session spec record record.metadata.uid

/-- The address without one slash at its end. -/
def Unslashed (address base : String) : Prop :=
  address = base ++ "/" ∨ address = base ∧ ¬ ['/'] <:+ address.toList

/-- What a record makes of a specification. -/
inductive OfRecord (spec : HandleSpec) (record : MemoryRecord) :
    Except MemoryError (Handle × HandleState) → Prop
  | notReady (unresolved : ∀ address, record.status.lastResolvedAddress = some address → address = "") :
    OfRecord spec record (.error (.notReady (spec.namespaceName ++ "/" ++ spec.name)))
  | noSession {address} (resolved : record.status.lastResolvedAddress = some address)
    (nonEmpty : address ≠ "") (silent : ∀ session, spec.sessionId = some session → session = "")
    (anonymous : record.metadata.uid = "") :
    OfRecord spec record (.error (.invalidArgument
      ("memory " ++ (spec.namespaceName ++ "/" ++ spec.name) ++
        " has no uid and no session id was given")))
  | handle {address session base} (resolved : record.status.lastResolvedAddress = some address)
    (nonEmpty : address ≠ "") (its : spec.Session record session)
    (unslashed : Unslashed address base) :
    OfRecord spec record (.ok
      ({ name := spec.name, namespaceName := spec.namespaceName, sessionId := session
         settings := spec.settings.getD Settings.standard.memory, shared := spec.shared },
        { baseUrl := base, transport := spec.shared }))

/-- The calls of a construction, and what it comes to by the reply of the store. -/
inductive Builds {σ : Type} (spec : HandleSpec) (hasLocator : Bool)
    (reply : Reply σ (Except StoreError MemoryRecord)) :
    List Call → Except Abort (Except MemoryError (Handle × HandleState)) → Prop
  | refused {text} (refuses : spec.Refuses hasLocator text) :
    Builds spec hasLocator reply [] (.ok (.error (.invalidArgument text)))
  | left (accepts : spec.Accepts hasLocator) (reason : Abort) :
    Builds spec hasLocator reply [.get spec.name spec.namespaceName none] (.error reason)
  | unread (accepts : spec.Accepts hasLocator) {e after} (answers : reply.Answers (.error e) after) :
    Builds spec hasLocator reply [.get spec.name spec.namespaceName (some (.error e))]
      (.ok (.error (.configuration "NewHTTPMemory" (spec.namespaceName ++ "/" ++ spec.name) e)))
  | read (accepts : spec.Accepts hasLocator) {record after result}
    (answers : reply.Answers (.ok record) after) (made : spec.OfRecord record result) :
    Builds spec hasLocator reply [.get spec.name spec.namespaceName (some (.ok record))]
      (.ok result)

variable {σ : Type} {spec : HandleSpec} {hasLocator : Bool}

theorem check_cases (spec : HandleSpec) (hasLocator : Bool) :
    (∃ text, spec.check hasLocator = .error (.invalidArgument text) ∧ spec.Refuses hasLocator text) ∨
      spec.check hasLocator = .ok () ∧ spec.Accepts hasLocator := by
  cases hasLocator with
  | false => exact .inl ⟨_, rfl, .locator rfl⟩
  | true =>
    by_cases named : spec.name = ""
    · exact .inl ⟨_, by simp [check, named], .name rfl named⟩
    · by_cases placed : spec.namespaceName = ""
      · exact .inl ⟨_, by simp [check, named, placed], .namespaceName rfl named placed⟩
      · exact .inr ⟨by simp [check, named, placed], rfl, named, placed⟩

theorem unslashed_normalize (address : String) : Unslashed address (normalize address) := by
  by_cases slashed : ['/'] <:+ address.toList
  · obtain ⟨rest, hrest⟩ := slashed
    refine .inl (String.toList_injective ?_)
    rw [String.toList_append, normalize_concat hrest.symm, ← hrest]
    rfl
  · exact .inr ⟨(normalize_eq_self_iff.2 slashed).symm, slashed⟩

theorem nonEmpty?_cases (given : Option String) :
    (∃ text, nonEmpty? given = some text ∧ given = some text ∧ text ≠ "") ∨
      nonEmpty? given = none ∧ ∀ text, given = some text → text = "" := by
  cases h : nonEmpty? given with
  | some text => exact .inl ⟨text, rfl, AddressSpec.nonEmpty?_eq_some.1 h⟩
  | none =>
    refine .inr ⟨rfl, fun text given => ?_⟩
    by_contra nonEmpty
    rw [AddressSpec.nonEmpty?_eq_some.2 ⟨given, nonEmpty⟩] at h
    cases h

theorem session_cases (spec : HandleSpec) (record : MemoryRecord) :
    (∃ session, spec.sessionFor record = some session ∧ spec.Session record session) ∨
      spec.sessionFor record = none ∧
        (∀ session, spec.sessionId = some session → session = "") ∧ record.metadata.uid = "" := by
  rw [sessionFor]
  obtain ⟨session, found, given, nonEmpty⟩ | ⟨nothing, silent⟩ := nonEmpty?_cases spec.sessionId
  · exact .inl ⟨session, by rw [found, Option.some_or], .given given nonEmpty⟩
  · rw [nothing, Option.none_or]
    obtain ⟨uid, found, given, nonEmpty⟩ | ⟨absent, anonymous⟩ :=
      nonEmpty?_cases (some record.metadata.uid)
    · cases given
      exact .inl ⟨_, found, .identity silent nonEmpty⟩
    · exact .inr ⟨absent, silent, anonymous _ rfl⟩

/-- **What a record makes of a specification, by what it says.** -/
theorem ofRecord_made (spec : HandleSpec) (record : MemoryRecord) :
    spec.OfRecord record (spec.ofRecord record) := by
  unfold ofRecord
  obtain ⟨address, found, resolved, nonEmpty⟩ | ⟨nothing, unresolved⟩ :=
    nonEmpty?_cases record.status.lastResolvedAddress
  · rw [found]
    obtain ⟨session, hsession, its⟩ | ⟨hsession, silent, anonymous⟩ := spec.session_cases record
    · rw [hsession]
      exact .handle resolved nonEmpty its (unslashed_normalize address)
    · rw [hsession]
      exact .noSession resolved nonEmpty silent anonymous
  · rw [nothing]
    exact .notReady unresolved

theorem Session.nonEmpty {record : MemoryRecord} {session : String}
    (h : spec.Session record session) : session ≠ "" := by
  cases h with
  | given _ nonEmpty => exact nonEmpty
  | identity _ nonEmpty => exact nonEmpty

theorem Builds.nonEmpty {reply : Reply σ (Except StoreError MemoryRecord)} {calls : List Call}
    {handle : Handle} {state : HandleState}
    (h : spec.Builds hasLocator reply calls (.ok (.ok (handle, state)))) :
    handle.name ≠ "" ∧ handle.namespaceName ≠ "" ∧ handle.sessionId ≠ "" := by
  cases h with
  | read accepts _ made =>
    cases made with
    | handle _ _ its _ => exact ⟨accepts.named, accepts.placed, its.nonEmpty⟩

/-! ## A construction in a world -/

variable (world : World σ) (emitter : Emitter)

theorem ensures_reading (x : σ) (calls : List Call) (state : HandleState) :
    let reply := world.get spec.name spec.namespaceName x
    let call := Call.get spec.name spec.namespaceName
    Ensures (fun w k e => w.1 = x ∧ Noted calls state w k e)
      ((world.watched.collaborators emitter).get spec.name spec.namespaceName)
      (fun a w k e => (∃ after, reply.Answers a after) ∧ Noted (calls ++ [call (some a)]) state w k e)
      (fun _ => Noted (calls ++ [call none]) state) := by
  intro reply call
  refine ensures_ends fun w k e h => ?_
  obtain ⟨rfl, rfl, rfl⟩ := h
  exact (reply.ends_answers.noted call w.2).imp (fun a y made => ⟨⟨_, made.1⟩, made.2, rfl⟩)
    fun reason y made => ⟨made.2, rfl⟩

/-- **A construction refuses its arguments or reads the record once.** The handle that its run began
with stays as it was. -/
theorem ensures_builds (spec : HandleSpec) (hasLocator : Bool) (x : σ) (calls : List Call) (state : HandleState) :
    let ends (result : Except Abort (Except MemoryError (Handle × HandleState))) :
      Sight (σ × List Call) := fun w k e => ∃ made, Noted (calls ++ made) state w k e ∧
        spec.Builds hasLocator (world.get spec.name spec.namespaceName x) made result
    Ensures (fun w k e => w.1 = x ∧ Noted calls state w k e)
      (spec.build (world.watched.collaborators emitter) hasLocator)
      (fun r => ends (.ok r)) (fun reason => ends (.error reason)) := by
  intro ends
  unfold build
  obtain ⟨text, hcheck, refuses⟩ | ⟨hcheck, accepts⟩ := spec.check_cases hasLocator
  · rw [hcheck]
    exact ensures_pure _ fun w k e h =>
      ⟨[], ⟨h.2.1.trans (List.append_nil _).symm, h.2.2⟩, .refused refuses⟩
  · rw [hcheck]
    refine ensures_bind ((ensures_reading world emitter x calls state).imp (fun _ _ _ => id)
      (fun _ _ _ _ => id) fun reason w k e h => ⟨_, h, .left accepts reason⟩) fun read => ?_
    refine ensures_assume fun ⟨after, answers⟩ => ?_
    cases read with
    | error e => exact ensures_pure _ fun w k _ h => ⟨_, h, .unread accepts answers⟩
    | ok record =>
      have made := spec.ofRecord_made record
      dsimp only
      split
      · rename_i e hmade
        rw [hmade] at made
        exact ensures_pure _ fun w k _ h => ⟨_, h, .read accepts answers made⟩
      · rename_i handle state hmade
        rw [hmade] at made
        exact ensures_bind ensures_logged fun _ =>
          ensures_pure _ fun w k _ h => ⟨_, h, .read accepts answers made⟩

theorem settles_build (spec : HandleSpec) (hasLocator : Bool) {after : σ}
    {answer : Except StoreError MemoryRecord} {x : σ}
    (answers : (world.get spec.name spec.namespaceName x).Answers answer after) :
    Settles (fun w => w = x) (spec.build (world.collaborators emitter) hasLocator) fun _ => True := by
  have reads : Settles (fun w => w = x)
      ((world.collaborators emitter).get spec.name spec.namespaceName) fun _ => True :=
    settles_await fun w here => ⟨answer, after, here ▸ answers, trivial⟩
  have logs (entry : LogEntry) : Settles (fun _ => True) ((world.collaborators emitter).log entry)
      fun _ => True := settles_update _ fun _ _ => trivial
  unfold build
  split
  · exact settles_pure _ fun _ _ => trivial
  · refine settles_bind reads fun read => ?_
    split
    · exact settles_pure _ fun _ _ => trivial
    · split
      · exact settles_pure _ fun _ _ => trivial
      · exact settles_bind (logs _) fun _ => settles_pure _ fun _ _ => trivial

/-- The result of a construction with arguments that are accepted is made of the answer of the
store. -/
theorem reaches_build {spec : HandleSpec} {hasLocator : Bool} {scope : Scope} {s t : Running σ}
    {result : Except MemoryError (Handle × HandleState)} (accepted : spec.check hasLocator = .ok ())
    (h : (spec.build (world.collaborators emitter) hasLocator).Reaches scope s result t) :
    ∃ answer after, (world.get spec.name spec.namespaceName s.world).Answers answer after ∧
      result = match answer with
        | .error e => .error (.configuration operation spec.target e)
        | .ok record => spec.ofRecord record := by
  unfold build at h
  rw [accepted] at h
  obtain ⟨answer, u, hget, h⟩ := reaches_bind.1 h
  refine ⟨answer, _, (reaches_await hget).1, ?_⟩
  cases answer with
  | error e => exact (reaches_pure.1 h).1
  | ok record =>
    dsimp only at h ⊢
    split at h
    · rename_i hmade
      rw [hmade, (reaches_pure.1 h).1]
    · rename_i hmade
      obtain ⟨-, v, -, h⟩ := reaches_bind.1 h
      rw [hmade, (reaches_pure.1 h).1]

theorem record_of_build {spec : HandleSpec} {hasLocator : Bool} {scope : Scope} {s t : Running σ}
    {built : Handle × HandleState}
    (h : (spec.build (world.collaborators emitter) hasLocator).Reaches scope s (.ok built) t) :
    ∃ record after, (world.get spec.name spec.namespaceName s.world).Answers (.ok record) after ∧
      spec.OfRecord record (.ok built) := by
  obtain ⟨text, hcheck, -⟩ | ⟨hcheck, -⟩ := spec.check_cases hasLocator
  · unfold build at h
    rw [hcheck] at h
    cases (reaches_pure.1 h).1
  · obtain ⟨answer, after, answers, made⟩ := reaches_build world emitter hcheck h
    cases answer with
    | error e => cases made
    | ok record => exact ⟨record, after, answers, made ▸ spec.ofRecord_made record⟩

/-- **How a handle is built**, in any world and however the construction ends. It makes the calls of
`Builds` and emits nothing; when the store answers it comes to a result, unless the caller stops it. A
handle that is built has a name, a namespace and a session. -/
theorem builds_of_build (spec : HandleSpec) (hasLocator : Bool) (scope : Scope)
    (s : Running (σ × List Call)) :
    let reply := world.get spec.name spec.namespaceName s.world.1
    let ended := spec.build (world.watched.collaborators emitter) hasLocator scope s
    (∃ made, ended.2.world.2 = s.world.2 ++ made ∧ spec.Builds hasLocator reply made ended.1) ∧
      ended.2.events = s.events ∧ ended.2.handle = s.handle ∧
      (∀ answer after, reply.Answers answer after → scope.IsQuiet →
        ∃ result, ended.1 = .ok result) ∧
      ∀ handle state, ended.1 = .ok (.ok (handle, state)) →
        handle.name ≠ "" ∧ handle.namespaceName ≠ "" ∧ handle.sessionId ≠ "" := by
  intro reply ended
  obtain ⟨made, hcalls, hhandle, builds⟩ : ∃ made, ended.2.world.2 = s.world.2 ++ made ∧
      ended.2.handle = s.handle ∧ spec.Builds hasLocator reply made ended.1 := by
    have start : s.world.1 = s.world.1 ∧ s.world.2 = s.world.2 ∧ s.handle = s.handle :=
      ⟨rfl, rfl, rfl⟩
    have ensured := (ensures_builds world emitter spec hasLocator s.world.1 s.world.2 s.handle).cases
      scope start
    obtain ⟨result, hresult, made, noted, builds⟩ | ⟨reason, hreason, made, noted, builds⟩ := ensured
    · exact ⟨made, noted.1, noted.2, hresult ▸ builds⟩
    · exact ⟨made, noted.1, noted.2, hreason ▸ builds⟩
  refine ⟨⟨made, hcalls, builds⟩, (spec.built_build hasLocator).silent.events scope s, hhandle,
    fun answer after answers quiet => ?_, fun handle state hbuilt => ?_⟩
  · have noted : (world.watched.get spec.name spec.namespaceName s.world).Answers answer (after, _) :=
      Reply.answers_noted.2 ⟨answers, rfl⟩
    obtain ⟨result, t, reached, -⟩ := settles_build world.watched emitter spec hasLocator noted
      scope s quiet rfl
    exact ⟨result, congrArg Prod.fst reached⟩
  · rw [hbuilt] at builds
    exact builds.nonEmpty

end HandleSpec

end ConversationMemory
