import ConversationMemory.Json.Decoder
import ConversationMemory.Settings
import ConversationMemory.Settings.Layer

/-!
# Reading settings from their layers

* `Settings.read`: the settings that the layers amount to.
* `Setting.Parts`: the parts of a section, by name or, when a list stands for the section, by
  position.
* `SettingsError`: why there are no settings.
-/

namespace ConversationMemory

/-- Why there are no settings. -/
inductive SettingsError
  /-- The value under a key cannot be used. -/
  | misfit (cause : Given.Misfit) (key : String) (origin : Option Origin)
  /-- A value stands where a section should be. -/
  | noSection (found : Given) (expected : String)
  /-- A list in place of a section is too short. -/
  | tooShort (length : Nat) (expected : String)
  | missing (name : String)
  /-- A file cannot be understood. -/
  | badFile (reason path : String)

/-- The error in words. -/
def SettingsError.message : SettingsError → String
  | misfit cause key origin =>
    cause.message ++ s!" for key `{key}`" ++ origin.elim "" fun origin => s!" in {origin.describe}"
  | noSection found expected =>
    "invalid type: " ++ found.describe ++ ", expected struct " ++ expected
  | tooShort length expected => s!"invalid length {length}, expected " ++ expected
  | missing name => s!"missing field `{name}`"
  | badFile reason path => s!"{reason} in {path}"

namespace Setting

/-- A value with the key and the source that complaints about it name. -/
structure Located where
  given : Given
  key : String
  origin : Option Origin

/-- A part of a section as a value; a list or a section within it is only known to be one. -/
def located (key : String) : Setting → Located
  | value given origin => ⟨given, key, origin⟩
  | list _ origin => ⟨.list [], key, origin⟩
  | group _ origin => ⟨.table [], key, origin⟩

/-- A function on a value, whose complaints name the key. -/
def Located.read {α : Type} (located : Located) (f : Given → Except Given.Misfit α) :
    Except SettingsError α :=
  match f located.given with
  | .ok a => .ok a
  | .error cause => .error (.misfit cause located.key located.origin)

/-- The kinds of sections. -/
structure Shape where
  /-- The name of the section. -/
  name : String
  /-- What complaints call it. -/
  title : String
  /-- The names of its parts in order. -/
  parts : List String

/-- The parts of a section that are there. A list stands for the parts in order. -/
structure Parts where
  find : String → Option Located
  /-- The complaint about a part that is not there. -/
  missing : String → SettingsError

/-- The parts of a section. -/
def Shape.parts? (shape : Shape) : Setting → Except SettingsError Parts
  | group entries _ =>
    .ok
      { find := fun part => (Table.get? entries part).map (located (shape.name ++ "." ++ part))
        missing := .missing }
  | list items _ =>
    .ok
      { find := fun part =>
          let i := shape.parts.idxOf part
          items[i]?.map (located s!"{shape.name}[{i}]")
        missing := fun _ =>
          .tooShort items.length (Json.Decoder.lengthOf shape.title shape.parts.length) }
  | value given _ => .error (.noSection given shape.title)

/-- A part that must be there. -/
def Parts.required {α : Type} (parts : Parts) (name : String) (f : Given → Except Given.Misfit α) :
    Except SettingsError α :=
  match parts.find name with
  | some located => located.read f
  | none => .error (parts.missing name)

/-- A number that need not be there, nor have a value. -/
def optionalNat64 : Given → Except Given.Misfit (Option UInt64)
  | .nothing => .ok none
  | given => given.toNat64.map some

/-- A part that need not be there. -/
def Parts.optional {α : Type} (parts : Parts) (name : String)
    (f : Given → Except Given.Misfit (Option α)) :
    Except SettingsError (Option α) :=
  match parts.find name with
  | some located => located.read f
  | none => .ok none

/-- The section of the memory. -/
def memoryShape : Shape :=
  ⟨"memory", "MemoryConfig",
    ["messages_path", "user_agent", "request_timeout_ms", "operation_timeout_ms"]⟩

/-- The section of the store. -/
def storeShape : Shape := ⟨"store", "StoreConfig", ["root"]⟩

/-- The section of the log. -/
def loggingShape : Shape := ⟨"logging", "LoggingConfig", ["level"]⟩

/-- The parts of a section among all settings. -/
def section? (all : Setting) (shape : Shape) : Except SettingsError Parts :=
  match (entries (some all)).get? shape.name with
  | some setting => shape.parts? setting
  | none => .error (.missing shape.name)

end Setting

open Setting in
/-- The settings that the layers amount to. -/
def Settings.read (all : Setting) : Except SettingsError Settings := do
  let memory ← all.section? memoryShape
  let config : MemoryConfig :=
    { messagesPath := ← memory.required "messages_path" Given.toText
      userAgent := ← memory.required "user_agent" Given.toText
      requestTimeoutMs := ← memory.required "request_timeout_ms" Given.toNat64
      operationTimeoutMs := ← memory.optional "operation_timeout_ms" optionalNat64 }
  let store ← all.section? storeShape
  let storeRoot ← store.required "root" Given.toText
  let logging ← all.section? loggingShape
  let logLevel ← logging.required "level" Given.toText
  return { memory := config, storeRoot, logLevel }

end ConversationMemory
