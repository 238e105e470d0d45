import ConversationMemory.FileTree.Written
import ConversationMemory.Json.Reader
import ConversationMemory.Settings.Section
import ConversationMemory.Settings.Toml

/-!
# Where settings are from

Three layers: the standard settings, one file, and the environment.

* `Settings.source`: settings as a source. `Settings.environmentSource`: what the environment sets.
* `Settings.foundAt?`: where the file of a name is in the directory `config`. `Settings.findFile?`: its
  text; `Settings.File.readSource` reads it.
* `Settings.layers`, `Settings.load`: all three layers, and the settings that they amount to.
-/

namespace ConversationMemory.Settings

/-! ## Settings as a source -/

/-- Settings as a source. -/
def source (settings : Settings) : List (String × Given) :=
  [("memory.messages_path", .text settings.memory.messagesPath),
    ("memory.user_agent", .text settings.memory.userAgent),
    ("memory.request_timeout_ms", .integer settings.memory.requestTimeoutMs.toNat),
    ("store.root", .text settings.storeRoot),
    ("logging.level", .text settings.logLevel)] ++
  settings.memory.operationTimeoutMs.toList.map fun ms =>
    ("memory.operation_timeout_ms", .integer ms.toNat)

/-! ## The file -/

/-- The formats of files with settings. -/
inductive Format
  | toml
  | json
  deriving DecidableEq, Repr

/-- The end of the name of a file in a format. -/
def Format.extension : Format → String
  | toml => "toml"
  | json => "json"

/-- All formats, in the order in which files are looked for. -/
def Format.all : List Format := [toml, json]

/-- What stands after the last point of a name, unless that is its first character. -/
def extension? (name : String) : Option String :=
  match (name.toList.reverse.span (· != '.')) with
  | (_, []) | (_, [_]) => none
  | (reversed, _) => some (String.ofList reversed.reverse)

/-- A file with settings. -/
structure File where
  format : Format
  path : WrittenPath
  text : String

/-- The bytes of a file, if there is one. -/
def bytesAt? (tree : FileTree) (path : WrittenPath) : Option (List UInt8) :=
  (path.readBytes tree).toOption

/-- The path of a name in the directory `config`. -/
def pathOf (name : String) : WrittenPath := .ofText ("config/" ++ name)

/-- The last name of a path; a path that leads above has none. -/
def lastName? (path : WrittenPath) : Option String :=
  (WrittenPath.trimmed path.names).getLast?.filter WrittenPath.isProper

/-- The path of a name with the extension of a format in addition. -/
def Format.pathOf (format : Format) (name : String) : WrittenPath :=
  let path := Settings.pathOf name
  match lastName? path with
  | some last =>
    ⟨(WrittenPath.trimmed path.names).dropLast ++ [last ++ "." ++ format.extension]⟩
  | none => path

/-- The paths where the file of a name is looked for. -/
def candidates (name : String) : List WrittenPath := pathOf name :: Format.all.map (·.pathOf name)

/-- The format of a file by its extension. -/
def formatOf? (path : WrittenPath) : Option Format :=
  Format.all.find? fun format => (lastName? path).bind extension? = some format.extension

/-- Where the file of a name is in the directory `config`, with its bytes: the one of exactly this name
if it is of a known format, or else the first that has the extension of a format in addition. -/
def foundAt? (tree : FileTree) (name : String) : Option (Format × WrittenPath × List UInt8) :=
  match bytesAt? tree (pathOf name) with
  | some bytes => (formatOf? (pathOf name)).map (·, pathOf name, bytes)
  | none =>
    Format.all.findSome? fun format =>
      (bytesAt? tree (format.pathOf name)).map (format, format.pathOf name, ·)

/-- The file of a name in the directory `config`. As none is needed, one that is no text counts as
none. -/
def findFile? (tree : FileTree) (name : String) : Option File := do
  let (format, path, bytes) ← foundAt? tree name
  return ⟨format, path, ← Utf8.textOf? bytes⟩

/-- What a complaint calls a value that is no table. -/
def describeRoot : Given → String
  | .integer i => s!"64-bit integer `{i}`"
  | .real x => "floating point `" ++ Given.plain x ++ "`"
  | given => given.describe

/-- The entries of a text in a format, or what is wrong with it. -/
def Format.entries (format : Format) (path text : String) : Except String (List (String × Given)) :=
  match format with
  | toml => Toml.parse text
  | json =>
    match Json.parse text with
    | .error fault => .error fault.message
    | .ok value =>
      match Given.ofJson value with
      | .table entries => .ok entries
      | given => .error ("invalid type: " ++ describeRoot given ++ ", expected a map in " ++ path)

/-- The file as a source. -/
def File.readSource (file : File) : Except SettingsError (Origin × List (String × Given)) :=
  let path := TreePath.text (.ofText file.path.text)
  match file.format.entries path file.text with
  | .ok entries => .ok (.file path, entries)
  | .error reason => .error (.badFile reason path)

/-! ## The environment -/

/-- The name of the variable that names the file. -/
def fileVariable : String := "CONFIG_ENV"

/-- The name of the file that an environment asks for. -/
def fileName (environment : Entries String) : String :=
  (environment.get? fileVariable).getD "default"

/-- The front of the names of variables that are settings. -/
def variableMark : List Char := "app__".toList

/-- A point for each two underscores. -/
def withPoints : List Char → List Char
  | '_' :: '_' :: rest => '.' :: withPoints rest
  | c :: rest => c :: withPoints rest
  | [] => []

/-- The setting that a variable is, if it is one. -/
def settingOf? (name : String) : Option String :=
  let letters := name.toList.map Char.toLower
  if variableMark.isPrefixOf letters then
    some (String.ofList (withPoints (letters.drop variableMark.length)))
  else none

/-- What the environment sets. -/
def environmentSource (environment : Entries String) : List (String × Given) :=
  environment.filterMap fun (name, text) => (settingOf? name).map (·, .text text)

/-! ## All layers -/

/-- The file that the environment asks for, as a source. -/
def fileSource (tree : FileTree) (environment : Entries String) :
    Except SettingsError (Option (Origin × List (String × Given))) :=
  match findFile? tree (fileName environment) with
  | none => .ok none
  | some file => file.readSource.map some

/-- The standard settings under what a file and the environment set. -/
def layers (file : Option (Origin × List (String × Given))) (environment : Entries String) :
    Setting :=
  let bottom := Setting.laySource none standard.source (.group [] none)
  let middle := file.elim bottom fun (origin, entries) =>
    Setting.laySource (some origin) entries bottom
  Setting.laySource (some .environment) (environmentSource environment) middle

/-- The settings in a directory and an environment. -/
def load (tree : FileTree) (environment : Entries String) : Except SettingsError Settings := do
  read (layers (← fileSource tree environment) environment)

end ConversationMemory.Settings
