import ConversationMemory.Json.Decoder

/-!
# Messages of a conversation

* `Role`: who speaks. `Message`: a role with all other fields of the message, kept as they came.
* `Message.ofParts`, `Message.ofValue`: the only ways in that check the fields a role requires.
* `Message.toJson`: the object of a message, `role` first; reading it again gives the message back.
* `Message.contentText`, `Message.name`, `Message.toolCallId`: typed views of the fields.
-/

namespace ConversationMemory

/-- Who speaks. -/
inductive Role
  | system
  | developer
  | user
  | assistant
  | tool
  | function
  deriving DecidableEq, Repr

namespace Role

/-- The role as it is written. -/
def name : Role → String
  | system => "system"
  | developer => "developer"
  | user => "user"
  | assistant => "assistant"
  | tool => "tool"
  | function => "function"

/-- All roles. -/
def all : List Role := [system, developer, user, assistant, tool, function]

/-- The role written so, if there is one. -/
def ofName? (name : String) : Option Role := all.find? fun role => role.name == name

/-- The fields that a message of the role must carry. -/
def requiredFields : Role → List String
  | system | developer | user => ["content"]
  | assistant => []
  | tool => ["content", "tool_call_id"]
  | function => ["content", "name"]

/-- Fields of which a message of the role must carry one; no such demand when the list is empty. -/
def alternatives : Role → List String
  | assistant => ["content", "tool_calls", "function_call"]
  | _ => []

end Role

/-- One turn of a conversation: its role, and every other field as it came. -/
structure Message where
  role : Role
  body : Fields
  deriving Repr

namespace Message

/-- Why a value is no message. -/
inductive Refusal
  | notObject
  | roleNotText
  | roleMissing
  | unknownRole (name : String)
  | roleInBody
  | missingField (role : Role) (field : String)
  | nothingSaid
  deriving DecidableEq, Repr

/-- The refusal in words. -/
def Refusal.message : Refusal → String
  | notObject => "message must be a JSON object"
  | roleNotText => "`role` must be a string"
  | roleMissing => "message is missing field `role`"
  | unknownRole name => "unknown role `" ++ name ++ "`"
  | roleInBody => "message body must not carry its own `role`"
  | missingField role field => role.name ++ " message is missing field `" ++ field ++ "`"
  | nothingSaid => "assistant message needs content or tool_calls"

/-! ## Checked construction -/

/-- A message from its role and its other fields. -/
def ofParts (role : Role) (body : Fields) : Except Refusal Message :=
  if body.has "role" then .error .roleInBody
  else
    match role.requiredFields.find? fun field => !body.has field with
    | some field => .error (.missingField role field)
    | none =>
      if !role.alternatives.isEmpty && !role.alternatives.any body.has then .error .nothingSaid
      else .ok ⟨role, body⟩

/-- A message from the object that holds it. -/
def ofValue : Json → Except Refusal Message
  | .object fields =>
    match Entries.get? fields "role" with
    | some (.string name) =>
      match Role.ofName? name with
      | some role => ofParts role (Entries.erase fields "role")
      | none => .error (.unknownRole name)
    | some _ => .error .roleNotText
    | none => .error .roleMissing
  | _ => .error .notObject

/-- A body that holds a text. -/
def textBody (content : String) : Fields := [("content", .string content)]

/-- A message of the system. -/
def system (content : String) : Message := ⟨.system, textBody content⟩

/-- A message of the user. -/
def user (content : String) : Message := ⟨.user, textBody content⟩

/-- A message of the assistant. -/
def assistant (content : String) : Message := ⟨.assistant, textBody content⟩

/-- The result of a tool call. -/
def tool (toolCallId content : String) : Message :=
  ⟨.tool, (textBody content).insert "tool_call_id" (.string toolCallId)⟩

/-! ## Fields -/

/-- A field of the body. -/
def get? (message : Message) (field : String) : Option Json := message.body.get? field

/-- The text of the message; of content in parts, the texts of the parts one after the other. -/
def contentText (message : Message) : Option String :=
  match message.get? "content" with
  | some (.string text) => some text
  | some (.array parts) =>
    some (String.join (parts.filterMap fun part => (part.field? "text").bind Json.text?))
  | _ => none

/-- The name that the message carries. -/
def name (message : Message) : Option String := (message.get? "name").bind Json.text?

/-- The tool call that the message answers. -/
def toolCallId (message : Message) : Option String :=
  (message.get? "tool_call_id").bind Json.text?

/-! ## Written form -/

/-- The object of a message. A `role` in the body does not count. -/
def toJson (message : Message) : Json :=
  .object (("role", .string message.role.name) :: message.body.erase "role")

/-- Reads any value first and then asks whether it is a message. -/
def decoder : Json.Decoder Message :=
  Json.Decoder.value.check fun v => (ofValue v).mapError Refusal.message

end Message

end ConversationMemory
