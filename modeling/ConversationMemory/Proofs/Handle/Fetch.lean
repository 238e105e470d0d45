import ConversationMemory.Proofs.Handle.Progress
import ConversationMemory.Proofs.Message

/-!
# A history that has been fetched

* `Handle.Gives`: what raw messages give: all of them, or the first one that is none.
  **`decodeHistory_eq_iff`**: this is what becomes of the body of an answer.
* `Handle.IsBody`: the bodies with a list of raw messages, and those without.
* `Handle.Heard`: a result that is made from the answer of the service, if there is one.
  `ensures_track_calls`, **`ensures_heard`**: however getting the history ends, it is so.
* `getMessages_answered`, **`fetched_whole_or_refused`**: so an answer of the service gives the whole
  history or the place of its first fault.
-/

namespace ConversationMemory.Handle

/-! ## Raw messages -/

/-- What raw messages give: all of them, or the place of the first one that is no message. -/
inductive Gives (handle : Handle) : List Json → Except MemoryError (List Message) → Prop
  | whole {raw messages}
    (read : List.Forall₂ (fun v message => Message.ofValue v = .ok message) raw messages) :
    Gives handle raw (.ok messages)
  | broken {before v later refusal}
    (accepted : ∀ w ∈ before, ∃ message, Message.ofValue w = .ok message)
    (refused : Message.ofValue v = .error refusal) :
    Gives handle (before ++ v :: later)
      (.error (.decode getOperation handle.target (some before.length) refusal.message))

theorem messagesFrom_whole {raw : List Json} {messages : List Message}
    (read : List.Forall₂ (fun v message => Message.ofValue v = .ok message) raw messages) :
    ∀ index, messagesFrom index raw = .ok messages := by
  induction read with
  | nil => exact fun _ => rfl
  | cons first _ ih => exact fun index => by simp only [messagesFrom, first, ih]

theorem messagesFrom_broken {before later : List Json} {v : Json} {refusal : Message.Refusal}
    (accepted : ∀ w ∈ before, ∃ message, Message.ofValue w = .ok message)
    (refused : Message.ofValue v = .error refusal) :
    ∀ index, messagesFrom index (before ++ v :: later) = .error (index + before.length, refusal) := by
  induction before with
  | nil => exact fun index => by simp [messagesFrom, refused]
  | cons w before ih =>
    intro index
    obtain ⟨message, first⟩ := accepted w (by simp)
    rw [List.cons_append, messagesFrom, first]
    simp only [ih fun w hmem => accepted w (by simp [hmem])]
    rw [List.length_cons, Nat.add_right_comm, Nat.add_assoc]

variable {handle : Handle}

theorem exists_gives (raw : List Json) : ∃ result, handle.Gives raw result := by
  induction raw with
  | nil => exact ⟨_, .whole .nil⟩
  | cons v raw ih =>
    cases first : Message.ofValue v with
    | error refusal =>
      have here : handle.Gives ([] ++ v :: raw) _ := .broken (by simp) first
      exact ⟨_, here⟩
    | ok message =>
      obtain ⟨_, gives⟩ := ih
      cases gives with
      | whole read => exact ⟨_, .whole (.cons first read)⟩
      | @broken before w later refusal accepted refused =>
        have accepted' : ∀ w ∈ v :: before, ∃ message, Message.ofValue w = .ok message := by
          simpa [first] using accepted
        have there : handle.Gives ((v :: before) ++ w :: later) _ := .broken accepted' refused
        exact ⟨_, there⟩

variable {bytes : List UInt8} {raw : List Json} {result : Except MemoryError (List Message)}

/-- **The body of an answer is decoded as its raw messages give**, and as nothing else. -/
theorem decodeHistory_eq_iff (decoded : rawHistory.decodeBytes bytes = .ok raw) :
    handle.decodeHistory bytes = result ↔ handle.Gives raw result := by
  have decodes {result : Except MemoryError (List Message)} (gives : handle.Gives raw result) :
      handle.decodeHistory bytes = result := by
    rw [decodeHistory, decoded]
    cases gives with
    | whole read => simp only [messagesFrom_whole read]
    | broken accepted refused => simp only [messagesFrom_broken accepted refused, Nat.zero_add]
  refine ⟨?_, decodes⟩
  rintro rfl
  obtain ⟨result, gives⟩ := handle.exists_gives raw
  rwa [decodes gives]

theorem decodeHistory_of_fault {fault : Json.Fault}
    (unread : rawHistory.decodeBytes bytes = .error fault) :
    handle.decodeHistory bytes = .error (.decode getOperation handle.target none fault.message) := by
  rw [decodeHistory, unread]

/-- The bytes are an object with one list of these raw messages or, where there are none, without any
list. What its other fields are does not count. -/
inductive IsBody : List Json → List UInt8 → Prop
  | listed {before behind items read text}
    (spells : Json.Spells (.object (before ++ ("messages", .array items) :: behind)) text)
    (others : ∀ entry ∈ before ++ behind, entry.1 ≠ "messages")
    (reads : List.Forall₂ (Json.ReadsAs 126) items read) : IsBody read (Utf8.encode text)
  | absent {fields text} (spells : Json.Spells (.object fields) text)
    (others : ∀ entry ∈ fields, entry.1 ≠ "messages") : IsBody [] (Utf8.encode text)

theorem IsBody.decodeBytes (h : IsBody raw bytes) : rawHistory.decodeBytes bytes = .ok raw := by
  cases h with
  | listed spells others reads =>
    exact Json.Decoder.decodeBytes_of_spells spells (takes_rawHistory _ _ others reads)
  | absent spells others =>
    exact Json.Decoder.decodeBytes_of_spells spells (takes_rawHistory_nil others)

/-! ## Answers of the service -/

/-- No answer of the service has come. -/
def Unheard (made : List Call) : Prop := ∀ request answer, .send request (some answer) ∉ made

/-- The result is made from the answer of the service, if one has come. -/
def Heard (handle : Handle) (made : List Call) (r : Except MemoryError (List Message)) : Prop :=
  ∀ request answer, .send request (some answer) ∈ made →
    r = (handle.received getOperation answer).bind handle.historyOf

theorem unheard_of_requests {made : List Call} (h : requests made = []) : Unheard made := by
  intro request answer hmem
  have sent : request ∈ requests made := List.mem_filterMap.2 ⟨_, hmem, rfl⟩
  rw [h] at sent
  cases sent

theorem Unheard.heard {made : List Call} (h : Unheard made)
    {r : Except MemoryError (List Message)} : handle.Heard made r :=
  fun request answer hmem => (h request answer hmem).elim

open Run

variable {σ : Type} {world : World σ} {emitter : Emitter} {calls : List Call} {state : HandleState}

/-- What is made of an exchange is the answer of the service, and an exchange that is left has none.
-/
theorem ensures_receiving {operation : String} {method : Method} {url : String}
    {header : String × String} {body : Option String} :
    Ensures (Noted calls state)
      (handle.exchange (world.watched.collaborators emitter) operation method url header body)
      (fun r w _ _ => ∃ sent, w.2 = calls ++ sent ∧ ∀ request answer,
        .send request (some answer) ∈ sent → r = handle.received operation answer)
      (fun _ w _ _ => ∃ sent, w.2 = calls ++ sent ∧ Unheard sent) := by
  unfold exchange
  refine ensures_bind ensures_opening fun transport => ensures_assume fun _ => ?_
  dsimp only
  split
  · exact ensures_pure _ fun w k _ h => ⟨[], by rw [h.1, List.append_nil], by simp⟩
  · rename_i request _
    refine ensures_bind ((ensures_noted (world.send request) (.send request)).imp
      (fun _ _ _ => id) (fun _ _ _ _ => id)
      fun _ w k _ h => ⟨[.send request none], h.1, by simp [Unheard]⟩) fun answer => ?_
    have received (w : σ × List Call) (h : w.2 = calls ++ [.send request (some answer)])
        (r : Except MemoryError Response) (hr : r = handle.received operation answer) :
        ∃ sent, w.2 = calls ++ sent ∧ ∀ request answer,
          .send request (some answer) ∈ sent → r = handle.received operation answer := by
      refine ⟨_, h, fun request' answer' hmem => ?_⟩
      simp only [List.mem_singleton, Call.send.injEq, Option.some.injEq] at hmem
      rw [hmem.2, hr]
    cases answer with
    | error e => exact ensures_pure _ fun w _ _ h => received w h.1 _ rfl
    | ok response =>
      dsimp only
      split
      · rename_i success
        exact ensures_pure _ fun w _ _ h => received w h.1 _ (by simp [Handle.received, success])
      · rename_i failure
        exact ensures_pure _ fun w _ _ h => received w h.1 _ (by simp [Handle.received, failure])

theorem ensures_located :
    Ensures (Noted calls state)
      (handle.reconcile (world.watched.collaborators emitter) getOperation)
      (fun base w k e => match base with
        | .ok next => handle.Located .get calls state next w k e
        | .error _ => ∃ made, w.2 = calls ++ made ∧ Unheard made)
      (fun _ w _ _ => ∃ made, w.2 = calls ++ made ∧ Unheard made) := by
  refine (ensures_reconciling getOperation).imp (fun _ _ _ => id) (fun base w k _ h => ?_)
    fun _ w _ _ h => ?_
  · obtain ⟨⟨made, hmade, reconciled⟩, hk⟩ := h
    cases base with
    | error e => exact ⟨made, hmade, unheard_of_requests reconciled.requests_eq⟩
    | ok next => exact ⟨made, reconciled, hmade, hk⟩
  · obtain ⟨⟨made, hmade, left⟩, -⟩ := h
    exact ⟨made, hmade, unheard_of_requests left.sends_nothing.2⟩

theorem ensures_fetched :
    Ensures (Noted calls state) (handle.fetchMessages (world.watched.collaborators emitter))
      (fun r w _ _ => ∃ made, w.2 = calls ++ made ∧ handle.Heard made r)
      (fun _ w _ _ => ∃ made, w.2 = calls ++ made ∧ Unheard made) := by
  unfold fetchMessages
  refine ensures_bind ensures_located fun base => ?_
  cases base with
  | error e => exact ensures_pure _ fun w _ _ ⟨made, hmade, unheard⟩ => ⟨made, hmade, unheard.heard⟩
  | ok next =>
    refine ensures_exists fun made => ensures_assume fun reconciled => ?_
    have unheard : Unheard made := unheard_of_requests reconciled.requests_eq
    have extended {sent : List Call} {w : σ × List Call} (h : w.2 = calls ++ made ++ sent) :
        w.2 = calls ++ (made ++ sent) := by rw [h, List.append_assoc]
    refine ensures_bind ensures_logged fun _ => ensures_bind (ensures_receiving.imp
      (fun _ _ _ => id) (fun _ _ _ _ => id) fun _ w _ _ h => ?_) fun answer => ?_
    · obtain ⟨sent, hsent, nothing⟩ := h
      refine ⟨_, extended hsent, fun request answer hmem => ?_⟩
      exact (List.mem_append.1 hmem).elim (unheard request answer) (nothing request answer)
    have heard {r : Except MemoryError (List Message)} (hr : r = answer.bind handle.historyOf)
        (w : σ × List Call) (h : ∃ sent, w.2 = calls ++ made ++ sent ∧ ∀ request response,
          .send request (some response) ∈ sent → answer = handle.received getOperation response) :
        ∃ made, w.2 = calls ++ made ∧ handle.Heard made r := by
      obtain ⟨sent, hsent, received⟩ := h
      refine ⟨_, extended hsent, fun request response hmem => ?_⟩
      rw [hr, received request response
        ((List.mem_append.1 hmem).resolve_left (unheard request response))]
    cases answer with
    | error e => exact ensures_pure _ fun w _ _ => heard rfl w
    | ok response =>
      dsimp only
      split
      · rename_i causes lost
        exact ensures_pure _ fun w _ _ => heard (by simp [Except.bind, historyOf, lost]) w
      · rename_i bytes whole
        exact ensures_pure _ fun w _ _ => heard (by simp [Except.bind, historyOf, whole]) w

theorem ensures_track_calls {α : Type} {context : OperationContext} {operation : String}
    {metadata : Entries String} {finish : α → Entries String × String}
    {body : Run (σ × List Call) (Except MemoryError α)}
    (before left : List Call → HandleState → Prop)
    (after : Except MemoryError α → List Call → HandleState → Prop)
    (h : Ensures (fun w k _ => before w.2 k) body (fun r w k _ => after r w.2 k)
      (fun _ w k _ => left w.2 k))
    (enters : ∀ calls k, before calls k → left calls k) :
    Ensures (fun w k _ => before w.2 k)
      (handle.track (world.watched.collaborators emitter) context operation metadata finish body)
      (fun r w k _ => after r w.2 k ∨ Interrupted r ∧ left w.2 k) (fun _ w k _ => left w.2 k) := by
  have emits (event : OperationEvent) {p : List Call → HandleState → Prop}
      {never : Abort → Sight (σ × List Call)} :
      Ensures (fun w k _ => p w.2 k) ((world.watched.collaborators emitter).emit event)
        (fun _ w k _ => p w.2 k) never := by
    refine ensures_update _ fun s hs => ?_
    cases emitter <;> exact hs
  have looks {p : Sight (σ × List Call)} {never : Abort → Sight (σ × List Call)} :
      Ensures p (world.watched.collaborators emitter).elapsed (fun _ => p) never := fun _ _ hs => hs
  unfold track
  refine ensures_bind (emits _) fun _ => ensures_bind
    (ensures_within h fun _ w k _ => enters w.2 k) fun outcome => ensures_bind looks fun elapsed => ?_
  cases outcome with
  | ok r =>
    cases r with
    | ok a => exact ensures_bind (emits _) fun _ => ensures_pure _ fun _ _ _ => .inl
    | error e => exact ensures_bind (emits _) fun _ => ensures_pure _ fun _ _ _ => .inl
  | error reason =>
    cases reason with
    | interrupted interrupt =>
      exact ensures_bind (emits _) fun _ => ensures_pure _ fun _ _ _ h => .inr ⟨⟨_, _, _, rfl⟩, h⟩
    | dropped | crashed | stuck =>
      exact ensures_bind (emits _) fun _ => ensures_abort _ fun _ _ _ => id

/-- **However getting the history ends, its result is made from the answer of the service**, and
there is a result once an answer has come. -/
theorem ensures_heard (context : OperationContext) :
    Ensures (Noted calls state)
      (handle.getMessages (world.watched.collaborators emitter) context)
      (fun r w _ _ => ∃ made, w.2 = calls ++ made ∧ handle.Heard made r)
      (fun _ w _ _ => ∃ made, w.2 = calls ++ made ∧ Unheard made) := by
  refine (ensures_track_calls (fun made k => made = calls ∧ k = state)
    (fun all _ => ∃ made, all = calls ++ made ∧ Unheard made)
    (fun r all _ => ∃ made, all = calls ++ made ∧ handle.Heard made r) ensures_fetched
    fun made k h => ?_).imp (fun _ _ _ => id) (fun r w k _ h => ?_) fun _ _ _ _ => id
  · exact ⟨[], by rw [h.1, List.append_nil], by simp [Unheard]⟩
  · rcases h with heard | ⟨-, made, hmade, unheard⟩
    · exact heard
    · exact ⟨made, hmade, unheard.heard⟩

section

variable (world : World σ) (emitter : Emitter) (handle : Handle) (context : OperationContext)
  (scope : Scope) (s : Running (σ × List Call)) {made : List Call} {request : Request} {status : Nat}
  {bytes : List UInt8}
  (called : (handle.getMessages (world.watched.collaborators emitter) context scope s).2.world.2 =
    s.world.2 ++ made)
  (answered : .send request (some (.ok ⟨status, .whole bytes⟩)) ∈ made)
  (success : 200 ≤ status ∧ status ≤ 299)

include called answered success

theorem getMessages_answered :
    (handle.getMessages (world.watched.collaborators emitter) context scope s).1 =
      .ok (handle.decodeHistory bytes) := by
  have ends : Ensures (Noted s.world.2 s.handle)
      (handle.getMessages (world.watched.collaborators emitter) context) _ _ := ensures_heard context
  have here : (Noted s.world.2 s.handle).Of s := ⟨rfl, rfl⟩
  rcases ends.cases scope here with ⟨r, hr, made', hmade, heard⟩ | ⟨_, -, made', hmade, unheard⟩
  · obtain rfl := List.append_cancel_left (called.symm.trans hmade)
    have succeeds : (Response.mk status (.whole bytes)).isSuccess = true := by
      simp only [Response.isSuccess, Bool.and_eq_true, decide_eq_true_eq]
      omega
    rw [hr, heard _ _ answered]
    simp [received, succeeds, Except.bind, historyOf]
  · obtain rfl := List.append_cancel_left (called.symm.trans hmade)
    exact (unheard _ _ answered).elim

/-- **Getting the history gives all of it or nothing**, once a successful answer with a body has come.
A body that cannot be read is refused as such; otherwise its raw messages are all given or the first
one that is no message is named, and there is nothing else that can come of them. -/
theorem fetched_whole_or_refused :
    ∃ result,
      (handle.getMessages (world.watched.collaborators emitter) context scope s).1 = .ok result ∧
      (∀ fault, rawHistory.decodeBytes bytes = .error fault →
        result = .error (.decode getOperation handle.target none fault.message)) ∧
      (∀ raw, rawHistory.decodeBytes bytes = .ok raw →
        ∀ other, result = other ↔ handle.Gives raw other) ∧
      ∀ raw, IsBody raw bytes → handle.Gives raw result :=
  ⟨_, getMessages_answered world emitter handle context scope s called answered success,
    fun _ => decodeHistory_of_fault, fun _ read _ => decodeHistory_eq_iff read,
    fun _ body => (decodeHistory_eq_iff body.decodeBytes).1 rfl⟩

end

/-! ## An example -/

/-- A world whose service answers every request with the same body. -/
def answering (bytes : List UInt8) : World Unit where
  get _ _ w := .atOnce (.ok (.create "notes" "team" (.literal "http://[::1]:8080"))) w
  updateStatus _ w := .atOnce (.ok ()) w
  resolve _ _ w := .afterWait 1 (.ok "http://[::1]:8080") w w
  send _ w := .afterWait 5 (.ok ⟨200, .whole bytes⟩) w w
  log _ w := w

/-- A handle in this world. -/
def reader : Handle where
  name := "notes"
  namespaceName := "team"
  sessionId := "a"
  settings := Settings.standard.memory

/-- Nothing has been called yet. -/
def readerStart : Running (Unit × List Call) where
  world := ((), [])
  handle := ⟨"http://[::1]:8080", none⟩
  now := 0

/-- The handle gets its history. -/
def readerRun (bytes : List UInt8) :
    Except Abort (Except MemoryError (List Message)) × Running (Unit × List Call) :=
  reader.getMessages ((answering bytes).watched.collaborators .logging) {} {} readerStart

/-- Whether the call is a request with this answer. -/
def bringsAnswer (response : Response) : Call → Bool
  | .send _ (some (.ok answer)) => answer == response
  | _ => false

theorem exists_request {response : Response} (h : calls.any (bringsAnswer response) = true) :
    ∃ request, .send request (some (.ok response)) ∈ calls := by
  obtain ⟨call, hmem, brings⟩ := List.any_eq_true.1 h
  unfold bringsAnswer at brings
  split at brings
  · rename_i request answer
    rw [beq_iff_eq.1 brings] at hmem
    exact ⟨request, hmem⟩
  · cases brings

/-- Something else stands behind the first message. -/
def mixedHistory : List Json :=
  [.object [("content", .string "hello"), ("role", .string "user")], .nat 7, .object []]

/-- A body that also tells how many there are. -/
def mixedBody : Json := .object [("messages", .array mixedHistory), ("total", .nat 3)]

theorem isBody_mixed : IsBody mixedHistory (Utf8.encode mixedBody.compactChars) := by
  have plain : ∀ v ∈ mixedHistory, Json.Plain 1 v := by
    intro v hmem
    simp only [mixedHistory, List.mem_cons, List.not_mem_nil, or_false] at hmem
    rcases hmem with rfl | rfl | rfl
    · refine .object (by unfold Entries.Sorted; decide) fun field hmem => ?_
      simp only [List.mem_cons, List.not_mem_nil, or_false] at hmem
      rcases hmem with rfl | rfl <;> exact .string _
    · exact .integer (by decide) (by decide)
    · exact .object .nil nofun
  have spells : Json.Spells (.object ([] ++ ("messages", .array mixedHistory) :: [("total", .nat 3)]))
      mixedBody.compactChars := Json.compactChars_spells mixedBody
  exact .listed spells (by decide) <| List.forall₂_same.2 fun v hmem =>
    Json.readsAs_of_plain (plain v hmem) (by decide)

/-- The second value is named, although the third one is no message either. -/
theorem fetched_whole_or_refused_mixed :
    (∃ request, .send request (some (.ok ⟨200, .whole (Utf8.encode mixedBody.compactChars)⟩)) ∈
      (readerRun (Utf8.encode mixedBody.compactChars)).2.world.2) ∧
    (readerRun (Utf8.encode mixedBody.compactChars)).1 =
      .ok (.error (.decode getOperation "team/notes" (some 1) "message must be a JSON object")) := by
  have sent := exists_request (show (readerRun (Utf8.encode mixedBody.compactChars)).2.world.2.any
    (bringsAnswer ⟨200, .whole (Utf8.encode mixedBody.compactChars)⟩) = true by decide +kernel)
  refine ⟨sent, ?_⟩
  obtain ⟨request, hmem⟩ := sent
  unfold readerRun at hmem ⊢
  obtain ⟨result, ended, -, gives, -⟩ := fetched_whole_or_refused _ .logging reader {} {} readerStart
    (List.nil_append _).symm hmem ⟨by decide, by decide⟩
  have first : Message.ofValue (.object [("content", .string "hello"), ("role", .string "user")]) =
      .ok (.user "hello") := rfl
  have refused : Message.ofValue (.nat 7) = .error .notObject := rfl
  have second : reader.Gives ([_] ++ .nat 7 :: [.object []]) _ :=
    .broken (by simpa using ⟨_, first⟩) refused
  rw [ended, (gives _ isBody_mixed.decodeBytes _).2 second]
  rfl

end ConversationMemory.Handle
