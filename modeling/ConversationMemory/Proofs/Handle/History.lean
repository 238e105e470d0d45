import ConversationMemory.Proofs.Handle.Backend

/-!
# Histories through a run

* `Turn.Delivers`: a call in a world with a service, by a handle with a history of its own.
* `Desk.Receives`: the service receives a request in a call. `Desk.conversation`: the messages that it
  has received in a run for a session, in the order of the calls.
* `Affects`: what a call can do to the service; **`affects_of_call`**.
* `Desk.Keeps`: the service holds what was said. **`Keeps.run`**: it does so through a run.
* **`history_of_run`**: getting gives the whole conversation of the session, and nothing else.
-/

namespace ConversationMemory

open Run

variable {ι σ : Type} {backend : σ → Backend}

/-! ## Building -/

/-- The specification of a handle for a session of its own, with the standard path of messages. -/
structure HandleSpec.IsOrdinary (spec : HandleSpec) : Prop where
  path : (spec.settings.getD Settings.standard.memory).messagesPath =
    Settings.standard.memory.messagesPath
  session : ∃ session, spec.sessionId = some session ∧ session ≠ "" ∧ IsSession session

namespace HandleSpec

variable {spec : HandleSpec} (ordinary : spec.IsOrdinary)

include ordinary

theorem IsOrdinary.ofRecord {record : MemoryRecord} {handle : Handle} {state : HandleState}
    (h : spec.ofRecord record = .ok (handle, state)) : handle.IsOrdinary := by
  obtain ⟨session, given, nonEmpty, own⟩ := ordinary.session
  have found : spec.sessionFor record = some session := by
    simp [sessionFor, given, nonEmpty?, nonEmpty]
  unfold HandleSpec.ofRecord at h
  rw [found] at h
  split at h
  · cases h
  · cases h
    exact ⟨ordinary.path, own⟩

theorem ensures_build {world : World σ} {emitter : Emitter} (delivers : world.Delivers backend)
    (b : Backend) (hasLocator : Bool) :
    Ensures (Handle.At backend b) (spec.build (world.collaborators emitter) hasLocator)
      (fun r w _ _ => (∀ built, r = .ok built → built.1.IsOrdinary) ∧ backend w = b)
      fun _ => Handle.At backend b := by
  unfold build
  split
  · exact ensures_pure _ fun _ _ _ h => ⟨nofun, h⟩
  · refine ensures_bind (Handle.ensures_aside b (delivers.get _ _)) fun read => ?_
    split
    · exact ensures_pure _ fun _ _ _ h => ⟨nofun, h⟩
    · split
      · exact ensures_pure _ fun _ _ _ h => ⟨nofun, h⟩
      · rename_i handle state built
        refine ensures_bind (Handle.ensures_log delivers b _) fun _ => ensures_pure _ fun _ _ _ h =>
          ⟨?_, h⟩
        rintro _ ⟨⟩
        exact ordinary.ofRecord built

end HandleSpec

/-! ## Calls in a world with a service -/

/-- What is built is ordinary, and what is added can be carried. -/
def Errand.IsOrdinary : Errand ι → Prop
  | .build _ _ spec => spec.IsOrdinary
  | .operate _ (.add messages) => ∀ message ∈ messages, message.IsCarried
  | .operate _ .get | .close _ => True

/-- A call in a world with a service, which nothing but the calls gets to. -/
structure Turn.Delivers (turn : Turn ι σ) (backend : σ → Backend) : Prop where
  world : turn.world.Delivers backend
  before : ∀ x, backend (turn.before x) = backend x
  errand : turn.errand.IsOrdinary

theorem Turn.Delivers.fresh {turn : Turn ι σ} (delivers : turn.Delivers backend) {desk : Desk ι σ}
    (state : HandleState) : (Handle.At backend (backend desk.world)).Of
      { world := turn.before desk.world, handle := state, now := desk.now + turn.pause,
        events := desk.events } :=
  delivers.before desk.world

/-- The caller has stopped the operation. -/
def Stopped : Except Abort (Except MemoryError Answer) → Prop
  | .ok r => Interrupted r
  | .error reason => reason.ByCaller

/-- Whether it is the outcome of a handle that has got its history. -/
def Outcome.isHistoryOf (handle : Handle) : Outcome → Bool
  | .operated other .get (.ok (.ok _)) => other == handle
  | _ => false

theorem Outcome.eq_of_isHistoryOf {handle : Handle} {outcome : Outcome}
    (h : outcome.isHistoryOf handle = true) :
    ∃ answer, outcome = .operated handle .get (.ok (.ok answer)) := by
  unfold isHistoryOf at h
  split at h
  · rw [beq_iff_eq.1 h]
    exact ⟨_, rfl⟩
  · cases h

/-- What a call can do to a service that holds what was said: nothing, or what one request does. If a
request for a history gets there, the result is what was said in the session, unless the caller has
stopped the operation. -/
inductive Affects (said : String → List Message) (b b' : Backend) : Outcome → Prop
  | nothing {outcome} (same : b' = b) : Affects said b b' outcome
  | added {handle : Handle} {messages result} (carried : ∀ message ∈ messages, message.IsCarried)
    (landed : b' = b.append (historyPath handle.sessionId) (messages.map Message.stored)) :
    Affects said b b' (.operated handle (.add messages) result)
  | got {handle : Handle} {result} (landed : b' = b.append (historyPath handle.sessionId) [])
    (gives : result = .ok (.ok (.history (said handle.sessionId))) ∨ Stopped result) :
    Affects said b b' (.operated handle .get result)

namespace Desk

variable [DecidableEq ι]

/-- The service receives a request in a call. -/
def Receives (desk : Desk ι σ) (backend : σ → Backend) (turn : Turn ι σ) : Prop :=
  (backend desk.world).received < (backend (desk.call turn).2.world).received

instance (desk : Desk ι σ) (backend : σ → Backend) (turn : Turn ι σ) :
    Decidable (desk.Receives backend turn) :=
  inferInstanceAs (Decidable (_ < _))

/-- The messages that the service receives in a call for a session. -/
def added (desk : Desk ι σ) (backend : σ → Backend) (turn : Turn ι σ) (session : String) :
    List Message :=
  match (desk.call turn).1 with
  | .operated handle (.add messages) _ =>
    if handle.sessionId = session ∧ desk.Receives backend turn then messages else []
  | _ => []

/-- The messages that the service receives in a run for a session, in the order of the calls. -/
def conversation (backend : σ → Backend) (session : String) (desk : Desk ι σ) :
    List (Turn ι σ) → List Message
  | [] => []
  | turn :: rest =>
    desk.added backend turn session ++ conversation backend session (desk.call turn).2 rest

/-- The service holds what was said in each session. -/
structure Keeps (desk : Desk ι σ) (backend : σ → Backend) (said : String → List Message) :
    Prop where
  ordinary : ∀ i handle state, desk.handles i = some (handle, state) → handle.IsOrdinary
  carried : ∀ session, ∀ message ∈ said session, message.IsCarried
  held : ∀ session,
    (backend desk.world).histories (historyPath session) = (said session).map Message.stored

variable {desk : Desk ι σ} {said : String → List Message} {turn : Turn ι σ}

/-- **A call does nothing to the service, or what its one request does.** -/
theorem affects_of_call (keeps : desk.Keeps backend said) (delivers : turn.Delivers backend) :
    Affects said (backend desk.world) (backend (desk.call turn).2.world) (desk.call turn).1 := by
  have errand := delivers.errand
  unfold call
  cases herrand : turn.errand with
  | build i hasLocator spec =>
    rw [herrand] at errand
    have built : Ensures _ (spec.build (turn.world.collaborators .recording) hasLocator) _ _ :=
      spec.ensures_build errand delivers.world (backend desk.world) hasLocator
    rcases built.cases { dropAt := turn.dropAt } (delivers.fresh ⟨"", none⟩) with
      ⟨_, -, -, same⟩ | ⟨_, -, same⟩
    · exact .nothing same
    · exact .nothing same
  | operate i operation =>
    dsimp only
    split
    · exact .nothing rfl
    · rename_i handle state found
      have ordinary := keeps.ordinary _ _ _ found
      cases operation with
      | add messages =>
        rw [herrand] at errand
        have done := handle.ensures_perform_add delivers.world (backend desk.world) ordinary
          turn.context errand
        rcases done.cases { dropAt := turn.dropAt } (delivers.fresh state) with
          ⟨_, -, same | ⟨landed, -⟩⟩ | ⟨_, -, same | ⟨landed, -⟩⟩
        · exact .nothing same
        · exact .added errand landed
        · exact .nothing same
        · exact .added errand landed
      | get =>
        have done := handle.ensures_perform_get delivers.world (backend desk.world) ordinary
          turn.context (keeps.carried handle.sessionId) (keeps.held handle.sessionId)
        rcases done.cases { dropAt := turn.dropAt } (delivers.fresh state) with
          ⟨r, ended, same | ⟨landed, gives⟩⟩ | ⟨reason, ended, same | ⟨landed, caller⟩⟩
        · exact .nothing same
        · refine .got landed (gives.imp (fun heq => ?_) fun interrupted => ?_)
          · exact ended.trans (congrArg _ heq)
          · exact ended ▸ interrupted
        · exact .nothing same
        · exact .got landed (.inr (ended ▸ caller))
  | close i =>
    dsimp only
    split
    · exact .nothing rfl
    · rename_i handle state found
      have closed : Ensures _ (handle.close (turn.world.collaborators .recording)) _ _ :=
        handle.ensures_close delivers.world (backend desk.world)
      rcases closed.cases { dropAt := turn.dropAt } (delivers.fresh state) with
        ⟨_, -, same⟩ | ⟨_, -, same⟩
      · exact .nothing same
      · exact .nothing same

theorem handles_of_call {i : ι} {handle : Handle} {state : HandleState}
    (h : (desk.call turn).2.handles i = some (handle, state)) :
    (∃ earlier, desk.handles i = some (handle, earlier)) ∨
      ∃ hasLocator spec, turn.errand = .build i hasLocator spec ∧
        (desk.call turn).1 = .built (.ok (.ok (handle, state))) := by
  have kept {j : ι} {earlier later : HandleState} {old : Handle} {last : Running σ}
      (found : desk.handles j = some (old, earlier))
      (h : (desk.settle j (some (old, later)) last).handles i = some (handle, state)) :
      ∃ earlier, desk.handles i = some (handle, earlier) := by
    simp only [settle] at h
    split at h
    · rename_i same
      cases h
      exact ⟨earlier, same ▸ found⟩
    · exact ⟨state, h⟩
  unfold call at h ⊢
  cases herrand : turn.errand with
  | build j hasLocator spec =>
    simp only [herrand, settle] at h ⊢
    split at h
    · rename_i same
      split at h
      · rename_i result
        cases h
        exact .inr ⟨hasLocator, spec, by rw [same], congrArg _ result⟩
      · exact .inl ⟨state, same ▸ h⟩
    · exact .inl ⟨state, h⟩
  | operate j operation =>
    rw [herrand] at h
    dsimp only at h
    split at h
    · exact .inl ⟨state, h⟩
    · rename_i found
      exact .inl (kept found h)
  | close j =>
    rw [herrand] at h
    dsimp only at h
    split at h
    · exact .inl ⟨state, h⟩
    · rename_i found
      exact .inl (kept found h)

theorem ordinary_of_call (keeps : desk.Keeps backend said) (delivers : turn.Delivers backend)
    (i : ι) (handle : Handle) (state : HandleState)
    (h : (desk.call turn).2.handles i = some (handle, state)) : handle.IsOrdinary := by
  rcases handles_of_call h with ⟨earlier, found⟩ | ⟨hasLocator, spec, herrand, outcome⟩
  · exact keeps.ordinary i handle earlier found
  · have errand := delivers.errand
    rw [herrand] at errand
    have built : Ensures _ (spec.build (turn.world.collaborators .recording) hasLocator) _ _ :=
      spec.ensures_build errand delivers.world (backend desk.world) hasLocator
    simp only [call, herrand, Outcome.built.injEq] at outcome
    rcases built.cases { dropAt := turn.dropAt } (delivers.fresh ⟨"", none⟩) with
      ⟨result, ended, ordinary, -⟩ | ⟨reason, ended, -⟩
    · exact ordinary _ (Except.ok.inj (ended.symm.trans outcome))
    · cases ended.symm.trans outcome

/-- **A call keeps what was said, with the messages that the service has received in it.** -/
theorem Keeps.call (keeps : desk.Keeps backend said) (delivers : turn.Delivers backend) :
    (desk.call turn).2.Keeps backend
      fun session => said session ++ desk.added backend turn session := by
  have affects := affects_of_call keeps delivers
  have ordinary := ordinary_of_call keeps delivers
  -- nothing is said in a call that leaves the lists as they are
  have silent (nothing : ∀ session, desk.added backend turn session = [])
      (same : (backend (desk.call turn).2.world).histories = (backend desk.world).histories) :
      (desk.call turn).2.Keeps backend
        fun session => said session ++ desk.added backend turn session := by
    refine ⟨ordinary, fun session => ?_, fun session => ?_⟩
    · rw [nothing, List.append_nil]
      exact keeps.carried session
    · rw [nothing, List.append_nil, same]
      exact keeps.held session
  generalize houtcome : (desk.call turn).1 = outcome at affects
  cases affects with
  | nothing same =>
    refine silent (fun session => ?_) (congrArg _ same)
    have unheard : ¬ desk.Receives backend turn := by
      rw [Receives, same]
      exact Nat.lt_irrefl _
    unfold added
    split
    · exact if_neg fun h => unheard h.2
    · rfl
  | @got handle result landed gives =>
    refine silent (fun session => ?_) ?_
    · rw [added, houtcome]
    · rw [landed]
      funext path
      simp [Backend.append]
  | @added handle messages result carried landed =>
    have heard : desk.Receives backend turn := by
      rw [Receives, landed]
      exact Nat.lt_succ_self _
    have said' (session : String) : desk.added backend turn session =
        if handle.sessionId = session then messages else [] := by
      simp [added, houtcome, heard]
    refine ⟨ordinary, fun session message hmem => ?_, fun session => ?_⟩
    · rw [said', List.mem_append] at hmem
      rcases hmem with before | now
      · exact keeps.carried session message before
      · split at now
        · exact carried message now
        · cases now
    · rw [landed, said', List.map_append, ← keeps.held session]
      simp only [Backend.append, historyPath_injective.eq_iff, eq_comm]
      split <;> simp

/-- **A run keeps the conversations of all sessions.** -/
theorem Keeps.run (turns : List (Turn ι σ)) (delivers : ∀ turn ∈ turns, turn.Delivers backend) :
    ∀ {desk : Desk ι σ} {said : String → List Message}, desk.Keeps backend said →
      (desk.run turns).2.Keeps backend fun session =>
        said session ++ desk.conversation backend session turns := by
  induction turns with
  | nil =>
    intro desk said keeps
    simpa [Desk.run, conversation] using keeps
  | cons turn rest ih =>
    intro desk said keeps
    have later := ih (fun turn hmem => delivers turn (by simp [hmem]))
      (keeps.call (delivers turn (by simp)))
    simpa [Desk.run, conversation] using later

/-- **Getting gives the conversation of the session**: after any run of calls of any handles, a
history whose request gets to the service and which the caller does not stop consists of the messages
of all calls that the service has received for the session, in the order of the calls. -/
theorem history_of_run {turns : List (Turn ι σ)} {handle : Handle}
    {result : Except Abort (Except MemoryError Answer)}
    (empty : ∀ path, (backend desk.world).histories path = [])
    (ordinary : ∀ i handle state, desk.handles i = some (handle, state) → handle.IsOrdinary)
    (delivers : ∀ call ∈ turns ++ [turn], call.Delivers backend)
    (called : ((desk.run turns).2.call turn).1 = .operated handle .get result)
    (received : (desk.run turns).2.Receives backend turn) (unstopped : ¬ Stopped result) :
    result = .ok (.ok (.history (desk.conversation backend handle.sessionId turns))) := by
  have start : desk.Keeps backend fun _ => [] :=
    ⟨ordinary, fun _ => nofun, fun session => empty (historyPath session)⟩
  have keeps := start.run turns fun turn hmem => delivers turn (by simp [hmem])
  have affects := affects_of_call keeps (delivers turn (by simp))
  rw [called] at affects
  cases affects with
  | nothing same =>
    rw [Receives, same] at received
    exact (Nat.lt_irrefl _ received).elim
  | got landed gives =>
    rcases gives with gives | stopped
    · simpa using gives
    · exact (unstopped stopped).elim

/-! ## An example -/

/-- A world whose only state is a service at the loopback address. Every request gets there. -/
def loopback : World Backend where
  get _ _ b := .atOnce (.ok (.create "notes" "team" (.literal "http://[::1]:8080/"))) b
  updateStatus _ b := .afterWait 1 (.ok ()) b b
  resolve _ _ b := .afterWait 1 (.ok "http://[::1]:8080/") b b
  send request b :=
    .afterWait 5 (.ok ⟨200, .whole (Utf8.encode (b.shown request.url.pathChars).compactChars)⟩)
      (b.take request) (b.take request)
  log _ b := b

theorem delivers_loopback : loopback.Delivers id where
  get _ _ _ := rfl
  updateStatus _ _ := ⟨rfl, fun _ _ => rfl⟩
  resolve _ _ _ := by
    refine ⟨⟨?_, rfl⟩, fun _ _ => rfl⟩
    rintro _ ⟨⟩
    exact ⟨"[::1]:8080".toList,
      Url.isAuthority_of_all (by decide) (by decide) (by decide) (by decide), .inr (by decide)⟩
  log _ _ := rfl
  send _ _ := ⟨.inr ⟨rfl, fun _ => ⟨_, ⟨_, Json.compactChars_spells _, rfl⟩, rfl⟩⟩,
    fun _ caller => .inr ⟨rfl, fun _ => caller⟩⟩

/-- A handle of one of two sessions. -/
def speaker (second : Bool) : Handle where
  name := "notes"
  namespaceName := "team"
  sessionId := if second then "b" else "a"
  settings := Settings.standard.memory

/-- Two handles before their first operation. -/
def duo : Desk Bool Backend where
  world := {}
  handles second := some (speaker second, ⟨"http://old", none⟩)

/-- A call of one of the two handles. -/
def say (second : Bool) (operation : Operation) (dropAt : Option Nat := none) : Turn Bool Backend :=
  { errand := .operate second operation, dropAt, world := loopback }

/-- Both say something. The last call is dropped while it waits for the answer of the service. -/
def talk : List (Turn Bool Backend) :=
  [say false (.add [.user "hello"]), say true (.add [.user "other"]),
    say false (.add [.assistant "hi"]) (some 1)]

theorem delivers_talk : ∀ call ∈ talk ++ [say false .get], call.Delivers id := by
  have spoken {message : Message} (made : message.Made) {content : String}
      (text : message.body = Message.textBody content) : message.IsCarried :=
    ⟨made, text ▸ Message.plain_textBody content⟩
  intro call hmem
  simp only [talk, List.cons_append, List.nil_append, List.mem_cons, List.not_mem_nil,
    or_false] at hmem
  rcases hmem with rfl | rfl | rfl | rfl <;> refine ⟨delivers_loopback, fun _ => rfl, ?_⟩
  · exact fun _ hmem => List.mem_singleton.1 hmem ▸ spoken (.user _) rfl
  · exact fun _ hmem => List.mem_singleton.1 hmem ▸ spoken (.user _) rfl
  · exact fun _ hmem => List.mem_singleton.1 hmem ▸ spoken (.assistant _) rfl
  · trivial

/-- The first of the two handles gets back what it has said, and nothing of the other one. -/
theorem history_of_run_duo : ((duo.run talk).2.call (say false .get)).1 =
    .operated (speaker false) .get (.ok (.ok (.history [.user "hello", .assistant "hi"]))) := by
  have ordinary (i : Bool) (handle : Handle) (state : HandleState)
      (h : duo.handles i = some (handle, state)) : handle.IsOrdinary := by
    cases h
    exact ⟨rfl, by cases i <;> constructor <;> decide⟩
  have ended : ((duo.run talk).2.call (say false .get)).1.isHistoryOf (speaker false) = true := by
    decide +kernel
  obtain ⟨answer, called⟩ := Outcome.eq_of_isHistoryOf ended
  have unstopped : ¬ Stopped (.ok (.ok answer)) := by rintro ⟨_, _, _, ⟨⟩⟩
  have said : duo.conversation id "a" talk = [.user "hello", .assistant "hi"] := rfl
  rw [called, history_of_run (fun _ => rfl) ordinary delivers_talk called (by decide +kernel)
    unstopped, ← said]
  rfl

end Desk

end ConversationMemory
