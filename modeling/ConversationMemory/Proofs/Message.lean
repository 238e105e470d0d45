import ConversationMemory.Handle.Messages
import ConversationMemory.Proofs.Json.ReadBack
import ConversationMemory.Proofs.Text.Encoding

/-!
# Messages read back

* `Message.Made`: a message that comes from one of the ways in.
* `Json.kept`: an object with its fields sorted. **`ofValue_kept_toJson`**: what is written is read as
  the parts that it was written from.
* `Message.stored`: the object that is read from the written form of a message.
* **`ofValue_stored`**: it holds the message, with every field. `messagesFrom_stored`: the same for a
  history.
* **`parse_addBody`**: the body of a request that adds messages is read as the list of these objects;
  `takes_rawHistory`: a body with a list is decoded as the list, whatever stands beside it;
  **`decodeHistory_stored`**: an answer with this list gives the messages back.
-/

namespace ConversationMemory

/-- An object as it is kept: its fields are sorted by name. -/
def Json.kept : Json → Json
  | .object fields => .object (Entries.ofList fields)
  | v => v

namespace Message

/-- A message that comes from one of the ways in. -/
inductive Made : Message → Prop
  | fromValue {v message} (h : ofValue v = .ok message) : Made message
  | fromParts {role body message} (h : ofParts role body = .ok message) : Made message
  | system (content : String) : Made (system content)
  | user (content : String) : Made (user content)
  | assistant (content : String) : Made (assistant content)
  | tool (toolCallId content : String) : Made (tool toolCallId content)

variable {message : Message}

theorem ofParts_eq {role : Role} {body : Fields} (h : ofParts role body = .ok message) :
    message = ⟨role, body⟩ := by
  unfold ofParts at h
  split at h
  · cases h
  split at h
  · cases h
  split at h <;> cases h
  rfl

theorem Made.ofParts_self (made : Made message) :
    ofParts message.role message.body = .ok message := by
  have again {role : Role} {body : Fields} (h : ofParts role body = .ok message) :
      ofParts message.role message.body = .ok message := by
    obtain rfl := ofParts_eq h
    exact h
  cases made with
  | fromParts h => exact again h
  | fromValue h =>
    unfold ofValue at h
    split at h
    · split at h
      · split at h
        · exact again h
        · cases h
      · cases h
      · cases h
    · cases h
  | system content => rfl
  | user content => rfl
  | assistant content => rfl
  | tool toolCallId content => rfl

theorem Made.noRole (made : Made message) : message.body.has "role" = false := by
  have h := made.ofParts_self
  unfold ofParts at h
  split at h
  · cases h
  · rename_i hrole
    simpa using hrole

/-! ## The object that is read -/

/-- The object that is read from the written form: its fields are sorted. -/
def stored (message : Message) : Json :=
  .object (Entries.ofList (("role", .string message.role.name) :: message.body))

theorem ofName?_name (role : Role) : Role.ofName? role.name = some role := by
  cases role <;> decide

theorem perm_written (sorted : message.body.Sorted) :
    (Entries.ofList (("role", Json.string message.role.name) :: message.body.erase "role")).Perm
      (("role", .string message.role.name) :: message.body.erase "role") := by
  apply Entries.perm_ofList
  rw [List.pairwise_cons]
  constructor
  · intro field hmem
    have other := (List.mem_filter.1 hmem).2
    exact (bne_iff_ne.1 other).symm
  · exact (sorted.filter _).imp fun before => String.ne_of_lt before

/-- **What is written is read as the parts that it was written from**, without a role in the body. -/
theorem ofValue_kept_toJson (sorted : message.body.Sorted) :
    ofValue message.toJson.kept = ofParts message.role (message.body.erase "role") := by
  have perm := perm_written sorted
  have rises := Entries.sorted_ofList (("role", Json.string message.role.name) ::
    message.body.erase "role")
  have named := rises.get?_of_mem (perm.mem_iff.2 List.mem_cons_self)
  have rest : Entries.erase (Entries.ofList (("role", Json.string message.role.name) ::
      message.body.erase "role")) "role" = message.body.erase "role" := by
    apply Entries.Sorted.eq_of_perm (rises.filter _) (sorted.filter _)
    refine (perm.filter _).trans ?_
    rw [List.filter_cons_of_neg (by simp)]
    exact .of_eq (Entries.erase_of_has (Entries.has_erase_self _ _))
  simp only [toJson, Json.kept, ofValue, named, ofName?_name, rest]

theorem readsAs_kept {levels : Nat} (hlevels : 0 < levels)
    (reads : ∀ field ∈ message.body, Json.ReadsAs levels field.2 field.2) :
    Json.ReadsAs (levels + 1) message.toJson message.toJson.kept := by
  refine Json.readsAs_object hlevels (List.forall₂_same.2 fun field hmem => ⟨rfl, ?_⟩)
  rcases List.mem_cons.1 hmem with rfl | hmem
  · exact Json.readsAs_string _
  · exact reads field (List.mem_filter.1 hmem).1

section

variable {levels n : Nat} (made : Made message)

include made

theorem Made.stored_eq : message.stored = message.toJson.kept := by
  rw [stored, toJson, Json.kept, Entries.erase_of_has made.noRole]

theorem Made.perm_stored (sorted : message.body.Sorted) :
    (Entries.ofList (("role", .string message.role.name) :: message.body)).Perm
      (("role", Json.string message.role.name) :: message.body) := by
  have perm := perm_written sorted
  rwa [Entries.erase_of_has made.noRole] at perm

/-- **The stored object holds the message**, with every field. -/
theorem Made.ofValue_stored (sorted : message.body.Sorted) :
    ofValue message.stored = .ok message := by
  rw [made.stored_eq, ofValue_kept_toJson sorted, Entries.erase_of_has made.noRole]
  exact made.ofParts_self

theorem Made.readsAs_toJson (plain : Json.Plain n (.object message.body)) (hlevels : n < levels) :
    Json.ReadsAs levels message.toJson message.stored := by
  cases plain with
  | @object n _ sorted inside =>
    obtain ⟨levels, rfl⟩ := Nat.exists_eq_succ_of_ne_zero (by omega : levels ≠ 0)
    rw [made.stored_eq]
    exact readsAs_kept (by omega) fun field hmem =>
      Json.readsAs_of_plain (inside field hmem) (by omega)

theorem Made.plain_stored (plain : Json.Plain n (.object message.body)) :
    Json.Plain n message.stored := by
  cases plain with
  | object sorted inside =>
    refine .object (Entries.sorted_ofList _) fun field hmem => ?_
    rcases List.mem_cons.1 ((made.perm_stored sorted).mem_iff.1 hmem) with rfl | hmem
    · exact .string _
    · exact inside field hmem

end

/-! ## Histories -/

end Message

namespace Handle

open Json Decoder

variable {items read : List Json}

theorem find?_rawHistory {key : String} (h : key ≠ "messages") :
    [defaulted "messages" value.list fun (raw _ : List Json) => raw].find?
      (fun field => field.key == key) = none := by
  simpa [defaulted] using h.symm

theorem takes_rawHistory (before behind : List (String × Json))
    (others : ∀ entry ∈ before ++ behind, entry.1 ≠ "messages")
    (reads : List.Forall₂ (ReadsAs 126) items read) :
    rawHistory.Takes depthLimit (.object (before ++ ("messages", .array items) :: behind)) read := by
  have list : value.list.Takes 127 (.array items) read :=
    takes_list (by decide) (reads.imp fun _ _ => takes_value)
  have rest : Assembles [defaulted "messages" value.list fun raw _ => raw] 127 ["messages"] read
      (behind ++ []) read :=
    .behind (.done rfl) fun entry hmem => find?_rawHistory (others entry (by simp [hmem]))
  rw [List.append_nil] at rest
  exact takes_record (by decide) <| .behind (.take rfl rfl (list.map _) rest) fun entry hmem =>
    find?_rawHistory (others entry (by simp [hmem]))

theorem takes_rawHistory_nil {fields : List (String × Json)}
    (others : ∀ entry ∈ fields, entry.1 ≠ "messages") :
    rawHistory.Takes depthLimit (.object fields) [] := by
  have rest : Assembles [defaulted "messages" value.list fun raw _ => raw] 127 [] []
      (fields ++ []) [] :=
    .behind (.done rfl) fun entry hmem => find?_rawHistory (others entry hmem)
  rw [List.append_nil] at rest
  exact takes_record (by decide) rest

end Handle

namespace Message

variable {message : Message}

/-- The most levels of arrays and objects that a message in a history can have. -/
def maxNesting : Nat := 125

/-- A message that a history can carry. -/
structure IsCarried (message : Message) : Prop where
  made : Made message
  plain : Json.Plain maxNesting (.object message.body)

theorem IsCarried.sorted (h : IsCarried message) : message.body.Sorted := by
  cases h.plain with
  | object sorted _ => exact sorted

theorem plain_textBody (content : String) : Json.Plain maxNesting (.object (textBody content)) := by
  refine .object (List.pairwise_singleton _ _) fun field hmem => ?_
  obtain rfl := List.mem_singleton.1 hmem
  exact .string content

variable {messages : List Message} (carried : ∀ message ∈ messages, message.IsCarried)

include carried

theorem messagesFrom_stored (index : Nat) :
    Handle.messagesFrom index (messages.map stored) = .ok messages := by
  induction messages generalizing index with
  | nil => rfl
  | cons message messages ih =>
    have first := carried message (by simp)
    have later := ih (fun message hmem => carried message (by simp [hmem])) (index + 1)
    simp only [List.map_cons, Handle.messagesFrom, first.made.ofValue_stored first.sorted, later]

/-- **The body of a request that adds messages is read as the list of these messages.** -/
theorem parse_addBody :
    Json.parse (Handle.addBody messages).compact =
      .ok (.object [("messages", .array (messages.map stored))]) := by
  have items : List.Forall₂ (Json.ReadsAs 126) (messages.map toJson) (messages.map stored) := by
    rw [List.forall₂_map_left_iff, List.forall₂_map_right_iff]
    exact List.forall₂_same.2 fun message hmem =>
      (carried message hmem).made.readsAs_toJson (carried message hmem).plain (by decide)
  have list : Json.ReadsAs 127 (.array (messages.map toJson)) (.array (messages.map stored)) :=
    Json.readsAs_array (by decide) items
  have body : Json.ReadsAs 128 (Handle.addBody messages)
      (.object (Entries.ofList [("messages", .array (messages.map stored))])) :=
    Json.readsAs_object (by decide) (.cons ⟨rfl, list⟩ .nil)
  refine Json.parse_of_spells ?_ body
  simpa [Json.compact] using Json.compactChars_spells _

/-- **An answer with the stored messages is decoded as these messages**, however it is written. -/
theorem decodeHistory_stored (handle : Handle) {text : List Char}
    (spells : Json.Spells (.object [("messages", .array (messages.map stored))]) text) :
    handle.decodeHistory (Utf8.encode text) = .ok messages := by
  have reads : List.Forall₂ (Json.ReadsAs 126) (messages.map stored) (messages.map stored) := by
    refine List.forall₂_same.2 fun v hmem => ?_
    obtain ⟨message, hmessage, rfl⟩ := List.mem_map.1 hmem
    have plain := (carried message hmessage).made.plain_stored (carried message hmessage).plain
    exact Json.readsAs_of_plain plain (by decide)
  have decoded := Json.Decoder.decodeBytes_of_spells spells
    (Handle.takes_rawHistory [] [] (by simp) reads)
  simp only [Handle.decodeHistory, decoded, messagesFrom_stored carried]

end Message

end ConversationMemory
