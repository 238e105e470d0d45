/-!
# How the program is called

* `CommandLine.Flag`: an option that may or must be given. `CommandLine.Verb`: a command and its
  options.
* `CommandLine.verbs`: all commands. `CommandLine.globalFlags`: the options that may stand before a
  command, too.
* `CommandLine.programHelp`, `CommandLine.Verb.help`, `CommandLine.helpHelp`: the texts that explain
  them.
-/

namespace ConversationMemory.CommandLine

/-- An option by its names. With a placeholder for its value it takes one. -/
structure Flag where
  long : String
  short : Option Char := none
  placeholder : Option String := none
  about : String := ""
  required : Bool := false
  standard : Option String := none
  deriving DecidableEq, Repr

/-- A command with its own options. -/
structure Verb where
  name : String
  about : String
  flags : List Flag
  deriving DecidableEq, Repr

/-! ## Options -/

/-- The directory of the store. -/
def storeFlag : Flag where
  long := "store"
  placeholder := some "STORE"
  about := "Directory of the file-backed resource store (default: store.root setting)"

/-- The name of the memory. -/
def nameFlag : Flag where
  long := "name"
  short := some 'n'
  placeholder := some "NAME"
  about := "Name of the memory resource"
  required := true

/-- The namespace of the memory. -/
def namespaceFlag : Flag where
  long := "namespace"
  placeholder := some "NAMESPACE"
  standard := some "default"

/-- The session. -/
def sessionFlag (about : String) : Flag where
  long := "session"
  short := some 's'
  placeholder := some "SESSION"
  about := about

/-- The file with messages. -/
def fileFlag : Flag where
  long := "file"
  short := some 'f'
  placeholder := some "FILE"
  required := true

/-- The choice of the raw form. -/
def jsonFlag : Flag where
  long := "json"
  about := "Print raw JSON instead of a transcript"

/-- The address of the service. -/
def addressFlag : Flag where
  long := "address"
  short := some 'a'
  placeholder := some "ADDRESS"
  about := "Backend address, e.g. http://localhost:8080"
  required := true

/-- The request for help. -/
def helpFlag : Flag where
  long := "help"
  short := some 'h'
  about := "Print help"

/-- The request for the version. -/
def versionFlag : Flag where
  long := "version"
  short := some 'V'
  about := "Print version"

/-- The options of the program, which may also stand among those of a command. -/
def globalFlags : List Flag := [storeFlag]

/-! ## Commands -/

/-- Appends messages. -/
def addVerb : Verb where
  name := "add"
  about := "Append messages from a JSON array file (\"-\" reads stdin)"
  flags := [nameFlag, namespaceFlag, sessionFlag "Session ID (default: the memory's uid)", fileFlag]

/-- Prints messages. -/
def getVerb : Verb where
  name := "get"
  about := "Print the message history of a session"
  flags := [nameFlag, namespaceFlag, sessionFlag "", jsonFlag]

/-- Shows a record. -/
def showVerb : Verb where
  name := "show"
  about := "Show the memory resource and its status"
  flags := [nameFlag, namespaceFlag]

/-- Stores a record. -/
def registerVerb : Verb where
  name := "register"
  about := "Create or replace a memory resource with a literal address"
  flags := [nameFlag, namespaceFlag, addressFlag]

/-- All commands. -/
def verbs : List Verb := [addVerb, getVerb, showVerb, registerVerb]

/-- The name of the program. -/
def programName : String := "remote-memory"

/-- The version of the program. -/
def version : String := "0.1.0"

/-- The program and its version. -/
def versionText : String := programName ++ " " ++ version ++ "\n"

/-! ## Help -/

/-- The long name and the place of the value. -/
def Flag.shown (flag : Flag) : String :=
  "--" ++ flag.long ++ flag.placeholder.elim "" fun placeholder => s!" <{placeholder}>"

/-- The explanation of an option, with the value that holds without it. -/
def Flag.explained (flag : Flag) : String :=
  let standard := flag.standard.elim "" fun standard => s!"[default: {standard}]"
  if flag.about.isEmpty ∨ standard.isEmpty then flag.about ++ standard
  else flag.about ++ " " ++ standard

/-- A text filled up with blanks. -/
def padTo (width : Nat) (text : String) : String :=
  text ++ String.ofList (List.replicate (width - text.length) ' ')

/-- Lines of two columns. -/
def columns (rows : List (String × String)) : List String :=
  let width := (rows.map fun row => row.1.length).foldl max 0
  rows.map fun (left, right) => "  " ++ padTo (width + 2) left ++ right

/-- The lines about options. -/
def flagLines (flags : List Flag) : List String :=
  columns (flags.map fun flag =>
    let short := flag.short.elim "    " fun c => String.ofList ['-', c, ',', ' ']
    (short ++ flag.shown, flag.explained))

/-- A help text from its parts; the last line has no blanks at its end. -/
def helpText (about usage : String) (sections : List (String × List String)) : String :=
  let shown := sections.map fun (title, lines) => "\n".intercalate ((title ++ ":") :: lines)
  "\n\n".intercalate (about :: ("Usage: " ++ usage) :: shown) ++ "\n"

/-- The command that explains the others. -/
def helpName : String := "help"

/-- What the command that explains the others does. -/
def helpAbout : String := "Print this message or the help of the given subcommand(s)"

/-- What explains the program. -/
def programHelp : String :=
  helpText "Read and write conversation memory on a remote memory service"
    (programName ++ " [OPTIONS] <COMMAND>")
    [("Commands", columns (verbs.map (fun verb => (verb.name, verb.about)) ++
        [(helpName, helpAbout)])),
      ("Options", flagLines (globalFlags ++ [helpFlag, versionFlag]))]

/-- What explains the command that explains the others. -/
def helpHelp : String :=
  helpText helpAbout (programName ++ " " ++ helpName ++ " [COMMAND]...")
    [("Arguments", columns [("[COMMAND]...", "Print help for the subcommand(s)")])]

/-- The options of a command in the order in which they are explained: the first one, those of the
program, the others. -/
def Verb.explained (verb : Verb) : List Flag :=
  verb.flags.take 1 ++ globalFlags ++ verb.flags.drop 1 ++ [helpFlag]

/-- What explains a command. -/
def Verb.help (verb : Verb) : String :=
  let required := (verb.flags.filter Flag.required).map fun flag => " " ++ flag.shown
  helpText verb.about (programName ++ " " ++ verb.name ++ " [OPTIONS]" ++ String.join required)
    [("Options", flagLines verb.explained)]

end ConversationMemory.CommandLine
