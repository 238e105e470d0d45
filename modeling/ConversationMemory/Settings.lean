import ConversationMemory.Json.Decoder

/-!
# Settings

* `MemoryConfig`: how the service of a memory is used. `Settings`: all settings.
* `Settings.standard`: the settings that hold where nothing else is said.
* `MemoryConfig.requestTimeout`, `MemoryConfig.operationTimeout`: the timeouts, of which zero means
  none.
* `Settings.toJson`, `Settings.decoder`: written form and reading.
-/

namespace ConversationMemory

/-- How the service of a memory is used. -/
structure MemoryConfig where
  messagesPath : String
  userAgent : String
  requestTimeoutMs : UInt64
  /-- The time for a whole operation that has no deadline of its own. -/
  operationTimeoutMs : Option UInt64
  deriving DecidableEq, Repr

namespace MemoryConfig

/-- The milliseconds that a request may take. -/
def requestTimeout (config : MemoryConfig) : Option Nat :=
  if 0 < config.requestTimeoutMs then some config.requestTimeoutMs.toNat else none

/-- The milliseconds that an operation may take when nobody says otherwise. -/
def operationTimeout (config : MemoryConfig) : Option Nat :=
  (config.operationTimeoutMs.filter (0 < ·)).map UInt64.toNat

/-- The configuration as an object. -/
def toJson (config : MemoryConfig) : Json :=
  .object [("messages_path", .string config.messagesPath), ("user_agent", .string config.userAgent),
    ("request_timeout_ms", .nat config.requestTimeoutMs.toNat),
    ("operation_timeout_ms", config.operationTimeoutMs.elim .null fun ms => .nat ms.toNat)]

open Json.Decoder in
/-- Reads a configuration. -/
def decoder : Json.Decoder MemoryConfig :=
  record "MemoryConfig"
    [required "messages_path" text fun messagesPath config => { config with messagesPath },
      required "user_agent" text fun userAgent config => { config with userAgent },
      required "request_timeout_ms" nat64
        fun requestTimeoutMs config => { config with requestTimeoutMs },
      defaulted "operation_timeout_ms" nat64.optional
        fun operationTimeoutMs config => { config with operationTimeoutMs }]
    ⟨"", "", 0, none⟩

end MemoryConfig

/-- All settings. -/
structure Settings where
  memory : MemoryConfig
  /-- The directory of the store in files. -/
  storeRoot : String
  logLevel : String
  deriving DecidableEq, Repr

namespace Settings

/-- The settings that hold where nothing else is said. -/
def standard : Settings where
  memory := ⟨"/messages", "remote-memory/0.1.0", 30000, none⟩
  storeRoot := "./memory-store"
  logLevel := "info"

/-- The settings as an object, in sections. -/
def toJson (settings : Settings) : Json :=
  .object [("memory", settings.memory.toJson),
    ("store", .object [("root", .string settings.storeRoot)]),
    ("logging", .object [("level", .string settings.logLevel)])]

open Json.Decoder in
/-- Reads all settings. -/
def decoder : Json.Decoder Settings :=
  record "Settings"
    [required "memory" MemoryConfig.decoder fun memory settings => { settings with memory },
      required "store" (record "StoreConfig" [required "root" text fun root _ => root] "")
        fun storeRoot settings => { settings with storeRoot },
      required "logging" (record "LoggingConfig" [required "level" text fun level _ => level] "")
        fun logLevel settings => { settings with logLevel }]
    standard

end Settings

end ConversationMemory
