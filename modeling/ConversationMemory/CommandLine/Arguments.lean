import ConversationMemory.CommandLine.Usage
import ConversationMemory.Entries

/-!
# The arguments of a call

* `CommandLine.Invocation`: what a call asks for. `CommandLine.Command`: a command with its
  arguments.
* `CommandLine.readFlags`: options with their values, from the front of a list of arguments.
* `CommandLine.read`: the whole call, or why it ends before anything has been done.
-/

namespace ConversationMemory.CommandLine

/-! ## What a call asks for -/

/-- The memory that a command is about. -/
structure Target where
  name : String
  namespaceName : String
  deriving DecidableEq, Repr

/-- A command with its arguments. -/
inductive Command
  | add (target : Target) (session : Option String) (file : String)
  | get (target : Target) (session : Option String) (json : Bool)
  | show (target : Target)
  | register (target : Target) (address : String)
  deriving DecidableEq, Repr

/-- The memory that a command is about. -/
def Command.target : Command → Target
  | add target .. | get target .. | «show» target | register target _ => target

/-- What a call asks for. -/
structure Invocation where
  /-- The directory of the store, unless the settings name it. -/
  store : Option String
  command : Command
  deriving DecidableEq, Repr

/-- Why a call makes no sense. -/
inductive Misuse
  | unexpected (argument : String)
  | noCommand
  | noValue (flag : Flag)
  | tooMany (flag : Flag)
  | missing (flag : Flag)
  deriving DecidableEq, Repr

/-- The misuse in words. -/
def Misuse.message : Misuse → String
  | unexpected argument => s!"unexpected argument '{argument}' found"
  | noCommand => s!"'{programName}' requires a subcommand but one was not provided"
  | noValue flag => s!"a value is required for '{flag.shown}' but none was supplied"
  | tooMany flag => s!"the argument '{flag.shown}' cannot be used multiple times"
  | missing flag => s!"the following required arguments were not provided: {flag.shown}"

/-- Why a call ends before anything has been done. -/
inductive Stop
  /-- It only asks for a text. -/
  | shows (text : String)
  | misuse (reason : Misuse)
  deriving DecidableEq, Repr

/-! ## Options -/

/-- The values of options by their long names; an option without a value has an empty one. -/
abbrev Values := Entries String

/-- The options among which those of a call are looked up, and the texts that it can ask for. -/
structure Vocabulary where
  flags : List Flag
  help : String
  version : Option String := none

/-- Adds an option with its value; each may be given once. -/
def addFlag (given : Values) (flag : Flag) (value : String) : Except Stop Values :=
  if given.has flag.long then .error (.misuse (.tooMany flag))
  else .ok ((flag.long, value) :: given)

/-- What an argument that begins with a stroke gives: options with values, and one whose value is
the next argument. -/
abbrev Step := Values × Option Flag

/-- An option that is recognised, with the value that is attached to it. -/
def takeFlag (vocabulary : Vocabulary) (given : Values) (argument : String) (flag : Flag)
    (attached : Option String) : Except Stop Step := do
  match flag.placeholder, attached with
  | some _, some value => return (← addFlag given flag value, none)
  | some _, none => return (given, some flag)
  | none, some _ => .error (.misuse (.unexpected argument))
  | none, none =>
    if flag = helpFlag then .error (.shows vocabulary.help)
    else if flag = versionFlag then .error (.shows (vocabulary.version.getD ""))
    else return (← addFlag given flag "", none)

/-- All options of a vocabulary. -/
def Vocabulary.all (vocabulary : Vocabulary) : List Flag :=
  vocabulary.flags ++ [helpFlag] ++ vocabulary.version.toList.map fun _ => versionFlag

/-- An argument `--name` or `--name=value`, without its strokes. -/
def readLong (vocabulary : Vocabulary) (given : Values) (argument : String) (letters : List Char) :
    Except Stop Step :=
  let name := String.ofList (letters.takeWhile (· != '='))
  let attached := match letters.dropWhile (· != '=') with
    | [] => none
    | _ :: value => some (String.ofList value)
  match vocabulary.all.find? fun flag => flag.long == name with
  | some flag => takeFlag vocabulary given argument flag attached
  | none => .error (.misuse (.unexpected argument))

/-- An argument `-abc`, without its stroke: the rest after an option with a value is the value. -/
def readShort (vocabulary : Vocabulary) (given : Values) (argument : String) :
    List Char → Except Stop Step
  | [] => .ok (given, none)
  | c :: rest =>
    match vocabulary.all.find? fun flag => flag.short == some c with
    | none => .error (.misuse (.unexpected argument))
    | some flag =>
      match flag.placeholder, rest with
      | some _, '=' :: value =>
        takeFlag vocabulary given argument flag (some (String.ofList value))
      | some _, x :: value =>
        takeFlag vocabulary given argument flag (some (String.ofList (x :: value)))
      | _, _ => do
        let (given, pending) ← takeFlag vocabulary given argument flag none
        match pending with
        | some flag => return (given, some flag)
        | none => readShort vocabulary given argument rest

/-- Options from the front of a list of arguments, up to the first argument that is none. After a
double stroke there are no options. -/
def readFlags (vocabulary : Vocabulary) (given : Values) (pending : Option Flag) :
    List String → Except Stop (Values × List String)
  | [] =>
    match pending with
    | some flag => .error (.misuse (.noValue flag))
    | none => .ok (given, [])
  | argument :: rest =>
    match argument.toList, pending with
    | '-' :: _ :: _, some flag => .error (.misuse (.noValue flag))
    | ['-', '-'], none =>
      match rest with
      | [] => .ok (given, [])
      | extra :: _ => .error (.misuse (.unexpected extra))
    | '-' :: '-' :: letters, none => do
      let (given, pending) ← readLong vocabulary given argument letters
      readFlags vocabulary given pending rest
    | '-' :: c :: letters, none => do
      let (given, pending) ← readShort vocabulary given argument (c :: letters)
      readFlags vocabulary given pending rest
    | _, some flag => do readFlags vocabulary (← addFlag given flag argument) none rest
    | _, none => .ok (given, argument :: rest)

/-! ## Commands -/

/-- The value of an option that must be given. -/
def required (given : Values) (flag : Flag) : Except Stop String :=
  match given.get? flag.long with
  | some value => .ok value
  | none => .error (.misuse (.missing flag))

/-- The memory that a command is about. -/
def readTarget (given : Values) : Except Stop Target := do
  let name ← required given nameFlag
  return ⟨name, (given.get? namespaceFlag.long).getD (namespaceFlag.standard.getD "")⟩

/-- The command of a name with its options. -/
def commandOf (verb : Verb) (given : Values) : Except Stop Command := do
  let target ← readTarget given
  let session := given.get? "session"
  if verb = addVerb then return .add target session (← required given fileFlag)
  else if verb = getVerb then return .get target session (given.has jsonFlag.long)
  else if verb = showVerb then return .show target
  else return .register target (← required given addressFlag)

/-- The options of a command, after its name. -/
def Verb.vocabulary (verb : Verb) : Vocabulary := ⟨verb.flags ++ globalFlags, verb.help, none⟩

/-- The options of the program. -/
def programVocabulary : Vocabulary := ⟨globalFlags, programHelp, some versionText⟩

/-- The request to explain one command, or the program. -/
def readHelp : List String → Stop
  | [] => .shows programHelp
  | [name] =>
    if name = helpName then .shows helpHelp
    else match verbs.find? fun verb => verb.name == name with
      | some verb => .shows verb.help
      | none => .misuse (.unexpected name)
  | _ :: extra :: _ => .misuse (.unexpected extra)

/-- A whole call. An option of the program counts where it stands last. -/
def read (arguments : List String) : Except Stop Invocation := do
  let (before, rest) ← readFlags programVocabulary [] none arguments
  match rest with
  | [] => .error (.misuse .noCommand)
  | name :: rest =>
    match verbs.find? fun verb => verb.name == name with
    | none => .error (if name = helpName then readHelp rest else .misuse (.unexpected name))
    | some verb =>
      let (given, extra) ← readFlags verb.vocabulary [] none rest
      match extra with
      | [] =>
        let command ← commandOf verb given
        return ⟨(given.get? storeFlag.long).or (before.get? storeFlag.long), command⟩
      | argument :: _ => .error (.misuse (.unexpected argument))

end ConversationMemory.CommandLine
