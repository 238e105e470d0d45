import ConversationMemory.Proofs.Message

/-!
# The grammar of messages

* `Message.IsMessage`: the values that are messages, told by the names of their fields alone.
* `exists_ofParts_iff`, **`exists_ofValue_iff`**: these values are read, and no others.
* `filter_toJson`: what is written has one role. **`kept_toJson_of_ofValue`**: a value that is read is
  written as it was.
* **`reads_what_it_writes`**: all of this, and what is written is read again.
-/

namespace ConversationMemory

namespace Message

/-- The values that are messages. -/
inductive IsMessage : Json → Prop
  | speech {fields : Fields} {name : String} (known : name ∈ ["system", "developer", "user"])
    (role : fields.get? "role" = some (.string name)) (content : fields.has "content") :
    IsMessage (.object fields)
  | toolResult {fields : Fields} (role : fields.get? "role" = some (.string "tool"))
    (content : fields.has "content") (call : fields.has "tool_call_id") : IsMessage (.object fields)
  | functionResult {fields : Fields} (role : fields.get? "role" = some (.string "function"))
    (content : fields.has "content") (name : fields.has "name") : IsMessage (.object fields)
  | assistant {fields : Fields} (role : fields.get? "role" = some (.string "assistant"))
    (speaks : fields.has "content" ∨ fields.has "tool_calls" ∨ fields.has "function_call") :
    IsMessage (.object fields)

/-! ## Which values are read -/

/-- The fields that a message of a role needs. -/
def Carries (body : Fields) : Role → Prop
  | .system | .developer | .user => body.has "content"
  | .tool => body.has "content" ∧ body.has "tool_call_id"
  | .function => body.has "content" ∧ body.has "name"
  | .assistant => body.has "content" ∨ body.has "tool_calls" ∨ body.has "function_call"

theorem ofParts_eq_ok {role : Role} {body : Fields} {message : Message} :
    ofParts role body = .ok message ↔ body.has "role" = false ∧
      (∀ field ∈ role.requiredFields, body.has field) ∧
      (role.alternatives ≠ [] → ∃ field ∈ role.alternatives, body.has field) ∧
      message = ⟨role, body⟩ := by
  unfold ofParts
  by_cases own : body.has "role" = true
  · simp [own]
  · rw [if_neg own]
    cases missing : role.requiredFields.find? fun field => !body.has field with
    | some field =>
      have absent := List.find?_some missing
      have needed := List.mem_of_find?_eq_some missing
      simp only [reduceCtorEq, false_iff]
      rintro ⟨-, required, -⟩
      simp [required field needed] at absent
    | none =>
      have required : ∀ field ∈ role.requiredFields, body.has field := by
        simpa using missing
      by_cases silent : (!role.alternatives.isEmpty && !role.alternatives.any body.has) = true
      · have silent' := silent
        simp only [Bool.and_eq_true, Bool.not_eq_true', List.isEmpty_eq_false_iff,
          List.any_eq_false] at silent'
        simp only [silent, if_true, reduceCtorEq, false_iff]
        rintro ⟨-, -, speaks, -⟩
        obtain ⟨field, hmem, present⟩ := speaks silent'.1
        exact silent'.2 field hmem present
      · have speaks : role.alternatives ≠ [] → ∃ field ∈ role.alternatives, body.has field := by
          intro needed
          simpa [needed] using silent
        rw [if_neg silent]
        constructor
        · rintro ⟨⟩
          exact ⟨by simpa using own, required, speaks, rfl⟩
        · rintro ⟨-, -, -, rfl⟩
          rfl

theorem exists_ofParts_iff {role : Role} {body : Fields} :
    (∃ message, ofParts role body = .ok message) ↔ body.has "role" = false ∧ Carries body role := by
  simp only [ofParts_eq_ok, exists_and_left, exists_eq, and_true]
  cases role <;> simp [Carries, Role.requiredFields, Role.alternatives]

theorem ofName?_eq_some {name : String} {role : Role} :
    Role.ofName? name = some role ↔ role.name = name := by
  constructor
  · intro h
    simpa using List.find?_some h
  · rintro rfl
    exact ofName?_name role

theorem ofValue_object {fields : Fields} {message : Message} :
    ofValue (.object fields) = .ok message ↔ ∃ role : Role,
      fields.get? "role" = some (.string role.name) ∧
        ofParts role (fields.erase "role") = .ok message := by
  simp only [ofValue]
  split
  · rename_i name hrole
    cases hname : Role.ofName? name with
    | none =>
      have unknown (role : Role) : ¬ name = role.name := by
        intro h
        rw [ofName?_eq_some.2 h.symm] at hname
        cases hname
      simp [hrole, unknown]
    | some role =>
      have known : role.name = name := ofName?_eq_some.1 hname
      constructor
      · intro h
        exact ⟨role, by rw [known, hrole], h⟩
      · rintro ⟨other, hother, h⟩
        have same : name = other.name := by simpa [hrole] using hother
        rw [ofName?_eq_some.2 same.symm] at hname
        cases hname
        exact h
  · rename_i other hother hrole
    constructor
    · rintro ⟨⟩
    · rintro ⟨role, h, -⟩
      rw [hrole] at h
      exact (hother _ (Option.some.inj h)).elim
  · rename_i hnone
    simp [hnone]

theorem carries_erase {fields : Fields} {role : Role} :
    Carries (fields.erase "role") role ↔ Carries fields role := by
  have same {field : String} (h : field ≠ "role") := Entries.has_erase_of_ne fields h
  cases role <;> simp [Carries, same]

/-- **The values of the grammar are read, and no others.** -/
theorem exists_ofValue_iff {v : Json} : (∃ message, ofValue v = .ok message) ↔ IsMessage v := by
  constructor
  · rintro ⟨message, h⟩
    cases v with
    | object fields =>
      obtain ⟨role, named, parts⟩ := ofValue_object.1 h
      have carries : Carries fields role := carries_erase.1 (exists_ofParts_iff.1 ⟨_, parts⟩).2
      cases role with
      | system | developer | user => exact .speech (by simp [Role.name]) named carries
      | tool => exact .toolResult named carries.1 carries.2
      | function => exact .functionResult named carries.1 carries.2
      | assistant => exact .assistant named carries
    | _ => cases h
  · have reads {fields : Fields} (role : Role) (named : fields.get? "role" = some (.string role.name))
        (carries : Carries fields role) : ∃ message, ofValue (.object fields) = .ok message := by
      obtain ⟨message, parts⟩ := exists_ofParts_iff.2
        ⟨Entries.has_erase_self fields "role", carries_erase.2 carries⟩
      exact ⟨message, ofValue_object.2 ⟨role, named, parts⟩⟩
    rintro (⟨known, role, content⟩ | ⟨role, content, call⟩ | ⟨role, content, name⟩ | ⟨role, speaks⟩)
    · simp only [List.mem_cons, List.not_mem_nil, or_false] at known
      rcases known with rfl | rfl | rfl
      · exact reads .system role content
      · exact reads .developer role content
      · exact reads .user role content
    · exact reads .tool role ⟨content, call⟩
    · exact reads .function role ⟨content, name⟩
    · exact reads .assistant role speaks

/-! ## What is written -/

variable {message : Message}

theorem filter_toJson (message : Message) :
    ∃ fields, message.toJson = .object fields ∧
      fields.filter (fun field => field.1 == "role") = [("role", .string message.role.name)] := by
  refine ⟨_, rfl, ?_⟩
  rw [List.filter_cons_of_pos (by simp), Entries.erase, List.filter_filter]
  simp

/-- **A value that is read is written as it was**, with every field. -/
theorem kept_toJson_of_ofValue {fields : Fields} (sorted : fields.Sorted)
    (h : ofValue (.object fields) = .ok message) : message.toJson.kept = .object fields := by
  obtain ⟨role, named, parts⟩ := ofValue_object.1 h
  obtain rfl := ofParts_eq parts
  have present := Entries.mem_of_get? named
  have again : (fields.erase "role").erase "role" = fields.erase "role" :=
    Entries.erase_of_has (Entries.has_erase_self fields "role")
  have written := @perm_written ⟨role, fields.erase "role"⟩ (sorted.filter _)
  rw [again] at written
  have perm := written.trans (sorted.perm_erase present)
  rw [toJson, again, Json.kept, Entries.Sorted.eq_of_perm (Entries.sorted_ofList _) sorted perm]

/-- **The codec accepts its grammar and loses nothing**: the values of the grammar are read, and each is
written as it was; every message is written with the role that it has and read as its parts, which is
the message itself when it came from one of the ways in. -/
theorem reads_what_it_writes :
    (∀ v, (∃ message, ofValue v = .ok message) ↔ IsMessage v) ∧
    (∀ (fields : Fields) message, fields.Sorted → ofValue (.object fields) = .ok message →
      message.toJson.kept = .object fields) ∧
    (∀ message : Message, message.body.Sorted →
      (∃ fields, message.toJson = .object fields ∧
        fields.filter (fun field => field.1 == "role") = [("role", .string message.role.name)]) ∧
      ofValue message.toJson.kept = ofParts message.role (message.body.erase "role") ∧
      (Made message → ofValue message.toJson.kept = .ok message)) := by
  refine ⟨fun v => exists_ofValue_iff, fun fields message sorted h => kept_toJson_of_ofValue sorted h,
    fun message sorted => ⟨filter_toJson message, ofValue_kept_toJson sorted, fun made => ?_⟩⟩
  rw [← made.stored_eq]
  exact made.ofValue_stored sorted

/-- A call of a tool with a field that no role knows, and a user whose body carries a role. -/
theorem reads_what_it_writes_call :
    let call : Fields := [("content", .null), ("role", .string "assistant"),
      ("tool_calls", .array [.object [("id", .string "call_1")]]),
      ("x_backend_trace", .object [("span", .nat 7)])]
    let posing : Message := ⟨.user, [("content", .string "hi"), ("role", .string "assistant")]⟩
    IsMessage (.object call) ∧
    (⟨.assistant, call.erase "role"⟩ : Message).toJson.kept = .object call ∧
    ofValue posing.toJson.kept = .ok (user "hi") ∧
    ofValue (user "hi").toJson.kept = .ok (user "hi") := by
  intro call posing
  have read : ofValue (.object call) = .ok ⟨.assistant, call.erase "role"⟩ := by rfl
  have sorted : call.Sorted := by
    unfold Entries.Sorted
    decide
  have posing_sorted : posing.body.Sorted := by
    unfold Entries.Sorted
    decide
  have user_sorted : (user "hi").body.Sorted := List.pairwise_singleton _ _
  refine ⟨(reads_what_it_writes.1 _).1 ⟨_, read⟩, reads_what_it_writes.2.1 call _ sorted read, ?_,
    (reads_what_it_writes.2.2 _ user_sorted).2.2 (.user "hi")⟩
  rw [(reads_what_it_writes.2.2 _ posing_sorted).2.1]
  rfl

end Message

end ConversationMemory
