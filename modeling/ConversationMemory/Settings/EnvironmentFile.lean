import ConversationMemory.Entries
import ConversationMemory.Text.Alphanumeric
import ConversationMemory.Text.Character
import ConversationMemory.Text.Utf8

/-!
# Files that add to the environment

Such a file gives variables to an environment that does not have them yet, one in each line, as
`NAME=value`.

* `EnvironmentFile.lines`: the lines of a text; an open quote takes in the next line.
* `EnvironmentFile.readLine`: the variable of a line. `EnvironmentFile.readValue`: a value with
  quotes, escapes and references to other variables.
* `EnvironmentFile.extend`: the environment with the variables of a file, up to the first line that
  is none.
-/

namespace ConversationMemory.EnvironmentFile

/-! ## Lines -/

/-- What stands before a place in a line, as far as quotes go. -/
inductive Quoting
  | outside
  | afterBlank
  | escaped
  | quoted (quote : Char)
  | escapedIn (quote : Char)
  deriving DecidableEq, Repr

/-- Past one character; nothing at the beginning of a comment. -/
def Quoting.past : Quoting → Char → Option Quoting
  | quoted quote, c =>
    some (if c = '\\' then escapedIn quote else if c = quote then outside else quoted quote)
  | escapedIn quote, _ => some (quoted quote)
  | escaped, _ => some outside
  | state, c =>
    if c = '#' ∧ state = afterBlank then none
    else if c = '\\' then some escaped
    else if c = '"' ∨ c = '\'' then some (quoted c)
    else if state = outside ∧ Text.isBlank c ∧ c ≠ '\n' ∧ c ≠ '\r' then some afterBlank
    else some outside

/-- Whether a line goes on after what has been read of it. The end of a line is no blank, so that a
blank comes last only in a text without such an end. -/
def Quoting.isOpen (state : Quoting) : Bool := state ≠ outside

/-- Past a part of a line: what stands before a comment, and the quoting reached, if there is no
comment. -/
def pastPart (state : Quoting) : List Char → List Char × Option Quoting
  | [] => ([], some state)
  | c :: rest =>
    match state.past c with
    | none => ([], none)
    | some state =>
      let (kept, reached) := pastPart state rest
      (c :: kept, reached)

/-- The line without its end. -/
def withoutEnd (line : List Char) : List Char :=
  match line.reverse with
  | '\n' :: '\r' :: rest => rest.reverse
  | '\n' :: rest => rest.reverse
  | _ => line

/-- Whether nothing but a comment stands in a line. -/
def isComment (line : List Char) : Bool := (line.dropWhile Text.isBlank).head? == some '#'

/-- Lines that are joined while a quote is open, after the beginning of one. What is left open at
the end is no line, and shows as nothing. -/
def join (begun : List Char) (state : Quoting) : List (List Char) → List (Option (List Char))
  | [] => if begun.isEmpty then [] else [none]
  | part :: rest =>
    if isComment (begun ++ part) then join [] .outside rest
    else
      match pastPart state part with
      | (kept, none) => some (begun ++ kept) :: join [] .outside rest
      | (kept, some state) =>
        if state.isOpen then join (begun ++ kept) state rest
        else some (withoutEnd (begun ++ kept)) :: join [] .outside rest

/-- The parts of a list that end with an item at which a part ends. -/
def parts {α : Type} (ends : α → Bool) : List α → List (List α)
  | [] => []
  | a :: rest =>
    match ends a, parts ends rest with
    | true, more => [a] :: more
    | false, [] => [[a]]
    | false, part :: more => (a :: part) :: more

/-- The lines of a text. -/
def lines (text : List Char) : List (Option (List Char)) := join [] .outside (parts (· == '\n') text)

/-- The text of a file, up to the first line that is none. -/
def readable (bytes : List UInt8) : List Char :=
  let lines := (parts (· == 0x0A) bytes).map Utf8.decode?
  ((lines.takeWhile Option.isSome).filterMap id).flatten

/-! ## Values -/

/-- How the next character of a value is read. -/
inductive Mode
  | plain
  | literal
  | escaped
  /-- After a dollar sign and the beginning of a name, last character first. -/
  | reference (name : List Char)
  | braced (name : List Char)
  /-- Only a comment may follow. -/
  | ended
  | comment
  deriving DecidableEq, Repr

/-- A value as far as it has been read, last character first. -/
structure Scan where
  mode : Mode := .plain
  /-- Whether a double quote is open. -/
  quoted : Bool := false
  output : List Char := []

namespace Scan

/-- Adds a character. -/
def push (scan : Scan) (c : Char) : Scan := { scan with mode := .plain, output := c :: scan.output }

/-- Adds what a variable stands for. -/
def substitute (scan : Scan) (environment : Entries String) (name : List Char) : Scan :=
  let value := (environment.get? (String.ofList name.reverse)).getD ""
  { scan with mode := .plain, output := value.toList.reverse ++ scan.output }

/-- A character outside of single quotes that stands for itself or begins something. -/
def begin (scan : Scan) (c : Char) : Scan :=
  if c = '$' then { scan with mode := .reference [] }
  else if c = '\\' then { scan with mode := .escaped }
  else if scan.quoted then if c = '"' then { scan with quoted := false } else scan.push c
  else if c = '\'' then { scan with mode := .literal }
  else if c = '"' then { scan with quoted := true }
  else if c = ' ' ∨ c = '\t' then { scan with mode := .ended }
  else scan.push c

/-- Reads one character; nothing if it must not stand there. -/
def step (environment : Entries String) (scan : Scan) (c : Char) : Option Scan :=
  match scan.mode with
  | .plain => some (scan.begin c)
  | .literal =>
    some (if c = '\'' then { scan with mode := .plain } else { scan.push c with mode := .literal })
  | .escaped =>
    if ['\\', '\'', '"', '$', ' '].contains c then some (scan.push c)
    else if c = 'n' then some (scan.push '\n')
    else none
  | .reference name =>
    if Text.isAlphanumeric c then some { scan with mode := .reference (c :: name) }
    else if c = '\x7b' ∧ name = [] then some { scan with mode := .braced [] }
    else
      let scan := scan.substitute environment name
      some (if c = '$' then { scan with mode := .reference [] } else scan.push c)
  | .braced name =>
    some (if c = '\x7d' then scan.substitute environment name
      else { scan with mode := .braced (c :: name) })
  | .ended =>
    if c = ' ' ∨ c = '\t' then some scan
    else if c = '#' then some { scan with mode := .comment }
    else none
  | .comment => some scan

/-- The whole value, unless a quote or a brace is open. -/
def finish (environment : Entries String) (scan : Scan) : Option String :=
  if scan.quoted then none
  else
    match scan.mode with
    | .literal | .braced _ => none
    | .reference name => some (String.ofList (scan.substitute environment name).output.reverse)
    | _ => some (String.ofList scan.output.reverse)

end Scan

/-- A value, in which references stand for the variables of an environment. -/
def readValue (environment : Entries String) (cs : List Char) : Option String :=
  (cs.foldlM (Scan.step environment) {}).bind (Scan.finish environment)

/-! ## Variables -/

/-- A name, and what follows after blanks. -/
def readName (cs : List Char) : Option (String × List Char) :=
  match cs with
  | [] => none
  | c :: _ =>
    if c.isAlpha ∨ c = '_' then
      let name := cs.takeWhile fun c => c.isAlphanum || c == '_' || c == '.'
      some (String.ofList name, (cs.drop name.length).dropWhile Text.isBlank)
    else none

/-- What follows an equals sign and blanks. -/
def pastEquals : List Char → Option (List Char)
  | '=' :: rest => some (rest.dropWhile Text.isBlank)
  | _ => none

/-- The name and the text of the value; the word `export` may stand in front. -/
def readSides (cs : List Char) : Option (String × List Char) := do
  let (name, rest) ← readName cs
  match pastEquals rest with
  | some value => return (name, value)
  | none =>
    if name = "export" then
      let (name, rest) ← readName rest
      return (name, ← pastEquals rest)
    else none

/-- The variable of a line; a line may be empty, or may be none at all. -/
def readLine (environment : Entries String) (line : List Char) :
    Option (Option (String × String)) :=
  match Text.strip Text.isBlank line with
  | [] | '#' :: _ => some none
  | cs => do
    let (name, value) ← readSides cs
    match value with
    | [] | '#' :: _ => return some (name, "")
    | _ => return some (name, ← readValue environment value)

/-- The environment with the variables of lines that it does not have, up to the first line that is
none. -/
def extendBy (environment : Entries String) : List (Option (List Char)) → Entries String
  | [] => environment
  | line :: rest =>
    match line.bind (readLine environment) with
    | none => environment
    | some none => extendBy environment rest
    | some (some (name, value)) =>
      extendBy (if environment.has name then environment else environment.insert name value) rest

/-- The environment with the variables of a file that it does not have. A mark of the byte order may
stand in front. -/
def extend (environment : Entries String) (bytes : List UInt8) : Entries String :=
  match readable bytes with
  | '\ufeff' :: rest => extendBy environment (lines rest)
  | cs => extendBy environment (lines cs)

end ConversationMemory.EnvironmentFile
