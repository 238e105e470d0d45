import ConversationMemory.Proofs.Handle.Fetch
import ConversationMemory.Proofs.Json.Refusal
import ConversationMemory.Proofs.Message.Grammar

/-!
# Messages that are stored and fetched again

A text of messages has one level of its own around them, the body of an answer has two.

* `Message.IsRead`: a message that was read with so many levels left. `isRead_of_decodeText`,
  `decodeText_of_isRead`: the messages of a text are such, and a text that says such is read.
* `IsRead.readsAs`, `IsRead.refused`: such a message is read back from its written form, unless it is
  nested too deep for that.
* `decodeHistory_addBody`, `decodeHistory_tooDeep`: the body that adds messages, as an answer.
* **`refetched_iff`**: what was read and stored is fetched again, unless a message has the one level
  more; then nothing is.
-/

namespace ConversationMemory

namespace Message

variable {message : Message} {levels : Nat}

/-! ## Messages that were read -/

/-- A message that was read with so many levels left. -/
structure IsRead (levels : Nat) (message : Message) : Prop where
  made : Made message
  canonical : Json.Canonical (.object message.body)
  nesting : message.toJson.nesting < levels

theorem Made.nesting_toJson (made : Made message) :
    message.toJson.nesting = (Json.object message.body).nesting := by
  simp [toJson, Entries.erase_of_has made.noRole, Json.nesting, Json.fieldsNesting]

theorem isRead_of_ofValue {v : Json} (readable : Json.Readable levels v)
    (h : ofValue v = .ok message) : IsRead levels message := by
  obtain ⟨canonical, nesting⟩ := readable
  cases canonical with
  | @object fields sorted inside =>
    have made : Made message := .fromValue h
    obtain ⟨role, -, parts⟩ := ofValue_object.1 h
    obtain rfl := ofParts_eq parts
    have sub {field : String × Json} (hmem : field ∈ fields.erase "role") : field ∈ fields :=
      (List.mem_filter.1 hmem).1
    refine ⟨made, .object (sorted.filter _) fun field hmem => inside field (sub hmem), ?_⟩
    have shallower : Json.fieldsNesting (fields.erase "role") < Json.fieldsNesting fields + 1 :=
      (Json.fieldsNesting_lt_iff (Nat.succ_pos _)).2 fun field hmem =>
        (Json.fieldsNesting_lt_iff (Nat.succ_pos _)).1 (Nat.lt_succ_self _) field (sub hmem)
    rw [made.nesting_toJson]
    simp only [Json.nesting] at nesting ⊢
    omega
  | _ => cases h

/-- **The messages of a text were read with one level less than a text has.** -/
theorem isRead_of_decodeText {text : String} {messages : List Message}
    (read : decoder.list.decodeText text = .ok messages) :
    ∀ message ∈ messages, IsRead (Json.depthLimit - 1) message := by
  obtain ⟨⟨taken, after⟩, htaken, read⟩ := Json.ok_of_bind read
  obtain ⟨_, -, read⟩ := Json.ok_of_bind read
  cases read
  refine Json.Decoder.list_forall (fun c message after h => ?_) htaken
  obtain ⟨⟨v, rest⟩, hv, h⟩ := Json.ok_of_bind h
  dsimp only at h
  split at h
  · rename_i accepted
    cases h
    refine isRead_of_ofValue (Json.readable_of_readValue (by decide) hv) ?_
    cases hvalue : ofValue v with
    | error refusal => simp [hvalue, Except.mapError] at accepted
    | ok read =>
      rw [hvalue] at accepted
      cases accepted
      rfl
  · cases h

section

variable {n : Nat} (read : IsRead n message) (integral : Json.Integral message.toJson)

include read

theorem IsRead.sorted : message.body.Sorted := by
  cases read.canonical with
  | object sorted _ => exact sorted

theorem IsRead.canonical_of_mem {field : String × Json}
    (hmem : field ∈ ("role", Json.string message.role.name) :: message.body.erase "role") :
    Json.Canonical field.2 := by
  cases read.canonical with
  | object _ inside =>
    rcases List.mem_cons.1 hmem with rfl | hmem
    · exact .string _
    · exact inside field (List.mem_filter.1 hmem).1

include integral

theorem IsRead.readsAs (fits : message.toJson.nesting < levels) :
    Json.ReadsAs levels message.toJson message.stored := by
  obtain ⟨l, rfl⟩ := Nat.exists_eq_succ_of_ne_zero (by omega : levels ≠ 0)
  have flat : Json.fieldsNesting
      (("role", .string message.role.name) :: message.body.erase "role") < l :=
    Nat.lt_of_succ_lt_succ fits
  have hl : 0 < l := by omega
  rw [read.made.stored_eq]
  cases integral with
  | object integral =>
    refine readsAs_kept hl fun field hmem => Json.readsAs_of_readable ⟨?_, ?_⟩ ?_
    all_goals
      rw [← Entries.erase_of_has read.made.noRole] at hmem
    · exact read.canonical_of_mem (List.mem_cons_of_mem _ hmem)
    · exact (Json.fieldsNesting_lt_iff hl).1 flat field (List.mem_cons_of_mem _ hmem)
    · exact integral field (List.mem_cons_of_mem _ hmem)

theorem IsRead.refused (hlevels : 0 < levels) (deep : levels ≤ message.toJson.nesting) :
    Json.RefusedAs levels .nestedTooDeep message.toJson := by
  cases integral with
  | object integral =>
    exact Json.refused_object_of_nesting (fun field hmem => read.canonical_of_mem hmem) integral
      (fun field hmem _ hl first => Json.refused_of_nesting (read.canonical_of_mem hmem)
        (integral field hmem) hl first) hlevels deep

end

/-- **A text that says messages of so many levels is read as these messages.** -/
theorem decodeText_of_isRead {messages : List Message} {text : String}
    (spells : Json.Spells (.array (messages.map toJson)) text.toList)
    (read : ∀ message ∈ messages, IsRead (Json.depthLimit - 1) message)
    (integral : ∀ message ∈ messages, Json.Integral message.toJson) :
    decoder.list.decodeText text = .ok messages := by
  have takes (message : Message) (hmem : message ∈ messages) :
      decoder.Takes (Json.depthLimit - 1) message.toJson message := by
    intro cs blanks rest c spells blank number hc
    have reads := (read message hmem).readsAs (integral message hmem) (read message hmem).nesting
    obtain ⟨after, hafter, hread⟩ := Json.Decoder.takes_value reads cs blanks rest c spells blank
      number hc
    refine ⟨after, hafter, ?_⟩
    simp [decoder, Json.Decoder.check, hread,
      (read message hmem).made.ofValue_stored (read message hmem).sorted, Except.mapError, bind,
      Except.bind, pure, Except.pure]
  refine Json.Decoder.decodeAll_of_spells spells (Json.Decoder.takes_list (by decide) ?_)
  rw [List.forall₂_map_left_iff]
  exact List.forall₂_same.2 takes

/-! ## The body that adds messages -/

variable {messages : List Message} {n : Nat} (handle : Handle)
  (read : ∀ message ∈ messages, IsRead n message)
  (integral : ∀ message ∈ messages, Json.Integral message.toJson)

theorem spells_addBody (messages : List Message) :
    Json.Spells (Handle.addBody messages) (Handle.addBody messages).compact.toList := by
  simpa [Json.compact] using Json.compactChars_spells _

include read integral

theorem decodeHistory_addBody (flat : ∀ message ∈ messages, message.toJson.nesting ≤ maxNesting) :
    handle.decodeHistory (Utf8.encode (Handle.addBody messages).compact.toList) = .ok messages := by
  have reads : List.Forall₂ (Json.ReadsAs 126) (messages.map toJson) (messages.map stored) := by
    rw [List.forall₂_map_left_iff, List.forall₂_map_right_iff]
    exact List.forall₂_same.2 fun message hmem =>
      (read message hmem).readsAs (integral message hmem) (Nat.lt_succ_of_le (flat message hmem))
  have raw : List.Forall₂ (fun v message => ofValue v = .ok message) (messages.map stored)
      messages := by
    rw [List.forall₂_map_left_iff]
    exact List.forall₂_same.2 fun message hmem =>
      (read message hmem).made.ofValue_stored (read message hmem).sorted
  have decoded := Json.Decoder.decodeBytes_of_spells (spells_addBody messages)
    (Handle.takes_rawHistory [] [] (by simp) reads)
  exact (Handle.decodeHistory_eq_iff decoded).2 (.whole raw)

theorem decodeHistory_tooDeep (deep : ∃ message ∈ messages, maxNesting < message.toJson.nesting) :
    ∃ place, handle.decodeHistory (Utf8.encode (Handle.addBody messages).compact.toList) =
      .error (.decode Handle.getOperation handle.target none
        (Json.Fault.atPosition .nestedTooDeep place).message) := by
  obtain ⟨before, message, later, rfl, flat, first⟩ := Json.exists_first deep
  have takes : List.Forall₂ (Json.Decoder.value.Takes 126) (before.map toJson)
      (before.map stored) := by
    rw [List.forall₂_map_left_iff, List.forall₂_map_right_iff]
    exact List.forall₂_same.2 fun message hmem => Json.Decoder.takes_value <|
      (read message (by simp [hmem])).readsAs (integral message (by simp [hmem]))
        (Nat.lt_succ_of_le (Nat.not_lt.1 (flat message hmem)))
  have refuses : Json.Decoder.value.Refuses 126 .nestedTooDeep message.toJson :=
    Json.Decoder.refuses_value <|
      (read message (by simp)).refused (integral message (by simp)) (by decide) first
  have list : Json.Decoder.value.list.Refuses 127 .nestedTooDeep
      (.array (before.map toJson ++ message.toJson :: later.map toJson)) :=
    Json.Decoder.refuses_list (by decide) takes refuses
  have record : Handle.rawHistory.Refuses Json.depthLimit .nestedTooDeep
      (Handle.addBody (before ++ message :: later)) := by
    rw [Handle.addBody, List.map_append, List.map_cons]
    exact Json.Decoder.refuses_record (by decide) rfl (list.map _)
  obtain ⟨place, unread⟩ := Json.Decoder.decodeBytes_refused (spells_addBody _) record
  exact ⟨place, Handle.decodeHistory_of_fault unread⟩

/-! ## What was read is fetched again -/

omit read integral

open Handle in
/-- **Messages of a text that are stored are fetched again as they were, unless one of them has as
many levels as a text leaves it**: a text has one level around its messages, and the body of an
answer has two. Then no message is given back, however many others there are. -/
theorem refetched_iff {σ : Type} (world : World σ) (emitter : Emitter) (handle : Handle)
    (context : OperationContext) (scope : Scope) (s : Running (σ × List Call)) {text body : String}
    {messages : List Message} {made : List Call} {request : Request}
    (read : decoder.list.decodeText text = .ok messages)
    (integral : ∀ message ∈ messages, Json.Integral message.toJson)
    (stored : (Operation.add messages).body = some body)
    (called : (handle.getMessages (world.watched.collaborators emitter) context scope s).2.world.2 =
      s.world.2 ++ made)
    (answered : .send request (some (.ok ⟨200, .whole (Utf8.encode body.toList)⟩)) ∈ made) :
    (∀ message ∈ messages, message.toJson.nesting ≤ maxNesting + 1) ∧
    ((handle.getMessages (world.watched.collaborators emitter) context scope s).1 =
        .ok (.ok messages) ↔
      ∀ message ∈ messages, message.toJson.nesting ≤ maxNesting) ∧
    ((∃ message ∈ messages, maxNesting < message.toJson.nesting) → ∃ place,
      (handle.getMessages (world.watched.collaborators emitter) context scope s).1 =
        .ok (.error (.decode getOperation handle.target none
          (Json.Fault.atPosition .nestedTooDeep place).message))) := by
  obtain rfl := Option.some.inj stored
  have isRead := isRead_of_decodeText read
  rw [getMessages_answered world emitter handle context scope s called answered (by decide)]
  have refused (deep : ∃ message ∈ messages, maxNesting < message.toJson.nesting) :=
    decodeHistory_tooDeep handle isRead integral deep
  refine ⟨fun message hmem => Nat.le_of_lt_succ (isRead message hmem).nesting, ⟨fun again => ?_,
    fun flat => congrArg Except.ok (decodeHistory_addBody handle isRead integral flat)⟩,
    fun deep => ?_⟩
  · by_contra deep
    simp only [not_forall, not_le] at deep
    obtain ⟨message, hmem, deep⟩ := deep
    obtain ⟨place, lost⟩ := refused ⟨message, hmem, deep⟩
    cases (Except.ok.inj again).symm.trans lost
  · obtain ⟨place, lost⟩ := refused deep
    exact ⟨place, congrArg Except.ok lost⟩

/-! ## A message that is too deep -/

/-- So many arrays around nothing. -/
def nested : Nat → Json
  | 0 => .null
  | n + 1 => .array [nested n]

/-- A message with as many levels as a text of messages leaves it. -/
def deepMessage : Message := ⟨.user, [("content", nested 125)]⟩

/-- A text with this message. -/
def deepText : String := (Json.array [deepMessage.toJson]).compact

theorem nesting_nested (n : Nat) : (nested n).nesting = n := by
  induction n with
  | zero => rfl
  | succ n ih => simp [nested, Json.nesting, Json.itemsNesting, ih]

theorem plain_nested (n : Nat) : Json.Plain n (nested n) := by
  induction n with
  | zero => exact .null
  | succ n ih => exact .array fun item hmem => List.mem_singleton.1 hmem ▸ ih

theorem toJson_deepMessage :
    deepMessage.toJson = .object [("role", .string "user"), ("content", nested 125)] := rfl

theorem nesting_deepMessage : deepMessage.toJson.nesting = maxNesting + 1 := by
  simp [toJson_deepMessage, Json.nesting, Json.fieldsNesting, nesting_nested, maxNesting]

theorem integral_deepMessage : Json.Integral deepMessage.toJson := by
  rw [toJson_deepMessage]
  refine .object fun field hmem => ?_
  simp only [List.mem_cons, List.not_mem_nil, or_false] at hmem
  rcases hmem with rfl | rfl
  · exact .string _
  · exact (plain_nested 125).integral

theorem isRead_deepMessage : IsRead (Json.depthLimit - 1) deepMessage where
  made := .fromParts (show ofParts .user [("content", nested 125)] = .ok deepMessage from rfl)
  canonical := .object (List.pairwise_singleton _ _) fun field hmem =>
    List.mem_singleton.1 hmem ▸ (plain_nested 125).readable.canonical
  nesting := by
    rw [nesting_deepMessage]
    decide

/-- It is read, but once it is stored nothing is given back. -/
theorem refetched_iff_deep :
    decoder.list.decodeText deepText = .ok [deepMessage] ∧
    ∃ place, (Handle.readerRun (Utf8.encode (Handle.addBody [deepMessage]).compact.toList)).1 =
      .ok (.error (.decode Handle.getOperation "team/notes" none
        (Json.Fault.atPosition .nestedTooDeep place).message)) := by
  have only {p : Message → Prop} (h : p deepMessage) : ∀ message ∈ [deepMessage], p message :=
    fun message hmem => List.mem_singleton.1 hmem ▸ h
  have read : decoder.list.decodeText deepText = .ok [deepMessage] := by
    refine decodeText_of_isRead ?_ (only isRead_deepMessage) (only integral_deepMessage)
    simpa [deepText, Json.compact] using Json.compactChars_spells _
  obtain ⟨request, hmem⟩ : ∃ request, .send request (some (.ok ⟨200, .whole
      (Utf8.encode (Handle.addBody [deepMessage]).compact.toList)⟩)) ∈
        (Handle.readerRun (Utf8.encode (Handle.addBody [deepMessage]).compact.toList)).2.world.2 := by
    rw [show (Handle.addBody [deepMessage]).compact.toList =
      (Handle.addBody [deepMessage]).compactChars by simp [Json.compact]]
    exact Handle.exists_request (by decide +kernel)
  unfold Handle.readerRun at hmem ⊢
  refine ⟨read, (refetched_iff _ .logging Handle.reader {} {} Handle.readerStart read
    (only integral_deepMessage) rfl (List.nil_append _).symm hmem).2.2 ⟨deepMessage, ?_, ?_⟩⟩
  · exact List.mem_singleton_self _
  · rw [nesting_deepMessage]
    exact Nat.lt_succ_self _

end Message

end ConversationMemory
