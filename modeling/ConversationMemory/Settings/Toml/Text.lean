import ConversationMemory.Settings.Toml.Blank
import ConversationMemory.Text.Character

/-!
# TOML strings and keys

* `Toml.text`: a string in one of its four forms, of one line or of many, with escapes or without.
* `Toml.escape`: the character that an escape stands for.
* `Toml.Key`: a key, whose names have points between them. `Toml.key` reads one.
-/

namespace ConversationMemory.Toml

open Reader

/-! ## Escapes -/

/-- The character of a number, if there is one. -/
def charOf (n : Nat) : Except Cause Char :=
  if h : n.isValidChar then .ok (Char.ofNatAux n h) else .error .outOfRange

/-- A character by a number of hexadecimal digits. -/
def codePoint (count : Nat) : Reader Char :=
  (((exactly count fun c => (Text.hexDigit? c).isSome).convert
    fun digits => charOf (Text.hexValue digits)).commit).named s!"unicode {count}-digit hex code"

/-- The escapes of one letter. -/
def letterEscapes : List (Char × Char) :=
  [('b', '\x08'), ('f', '\x0c'), ('n', '\n'), ('r', '\r'), ('t', '\t'), ('\\', '\\'), ('"', '"')]

/-- Refuses a letter after a backslash. A letter of one byte has been passed when this shows. -/
def noEscape (c : Char) : Reader Char := fun rest =>
  (fail.commit.named "escape sequence").expecting
    ["`b`", "`f`", "`n`", "`r`", "`t`", "`u`", "`U`", "`\\`", "`\"`"]
    (if c.utf8Size = 1 then rest else c :: rest)

/-- The character that an escape stands for. -/
def escape : Reader Char := do
  mark '\\'
  let c ← any
  match letterEscapes.lookup c with
  | some x => return x
  | none => if c = 'u' then codePoint 4 else if c = 'U' then codePoint 8 else noEscape c

/-! ## Strings of one line -/

/-- Whether a character stands for itself between double quotes. -/
def isBasic (c : Char) : Bool := isVisible c && c != '"' && c != '\\'

/-- Whether a character stands for itself between single quotes. -/
def isLiteral (c : Char) : Bool := isVisible c && c != '\''

/-- A string with escapes. -/
def basic : Reader (List Char) := do
  mark '"'
  let parts ← many ((run1 isBasic).orElse (([·]) <$> escape))
  (mark '"').commit.named "basic string"
  return parts.flatten

/-- A string without escapes. -/
def literal : Reader (List Char) :=
  Reader.named "literal string" do
    mark '\''
    let cs ← run isLiteral
    (mark '\'').commit
    return cs

/-! ## Strings of many lines -/

/-- How a string of many lines is delimited, and whether it has escapes. -/
structure Block where
  quote : Char
  escapes : Bool
  name : String

namespace Block

/-- A string of many lines with escapes. -/
def basic : Block := ⟨'"', true, "multiline basic string"⟩

/-- A string of many lines without escapes. -/
def literal : Block := ⟨'\'', false, "multiline literal string"⟩

/-- A number of quotes. -/
def quotes (block : Block) (count : Nat) : Reader (List Char) := exactly count (· == block.quote)

/-- One or two quotes in front of something, to which they do not belong. -/
def inside (block : Block) (follows : Reader Unit) : Reader (List Char) :=
  (block.quotes 2 <* ahead follows).orElse (block.quotes 1 <* ahead follows)

/-- A backslash at the end of a line, with all blanks and ends of lines after it. -/
def continuation : Reader Unit := do
  mark '\\'
  spaces
  newline
  discard (many (newline.orElse (discard (run1 isSpace))))

/-- A part of a string that has no quotes. -/
def part (block : Block) : Reader (List Char) :=
  if block.escapes then
    (run1 isBasic).orElse <| (continuation *> pure []).orElse <| (([·]) <$> escape).orElse
      (newline *> pure ['\n'])
  else (run1 isLiteral).orElse (newline *> pure ['\n'])

/-- Quotes inside a string and the parts after them. With escapes the quotes count as read even when
no part follows. -/
def quoted (block : Block) : Reader (List Char) := do
  let quotes ← block.inside (discard (char (· != block.quote)))
  let parts ← many block.part
  if parts.isEmpty then if block.escapes then fail.commit else fail
  return quotes ++ parts.flatten

/-- A string of many lines. An end of line right at its front does not count; quotes right before
its end do. -/
def read (block : Block) : Reader (List Char) :=
  Reader.named block.name do
    discard (block.quotes 3)
    discard newline.maybe
    let parts ← (many block.part).commit
    let more ← (many block.quoted).commit
    let last ← (block.inside (discard (block.quotes 3))).maybe
    discard (block.quotes 3).commit
    return parts.flatten ++ more.flatten ++ last.getD []

end Block

/-! ## Strings of all forms -/

/-- A string. -/
def text : Reader String :=
  String.ofList <$>
    (Block.basic.read.orElse <| basic.orElse <| Block.literal.read.orElse literal)

/-! ## Keys -/

/-- A key, as its names. -/
structure Key where
  first : String
  rest : List String
  deriving DecidableEq, Repr

/-- The names before the last one. -/
def Key.path (key : Key) : List String := (key.first :: key.rest).dropLast

/-- The last name. -/
def Key.last (key : Key) : String := key.rest.getLastD key.first

/-- How deep tables and lists may stand within each other. -/
def depth : Nat := 79

/-- A name. -/
def name : Reader String := do
  match ← next with
  | some '"' => String.ofList <$> basic
  | some '\'' => String.ofList <$> literal
  | _ => String.ofList <$> run1 isBare

/-- A key and the blanks around it. -/
def key : Reader Key :=
  ((separated (spaces *> name <* spaces) '.').named "key").convert fun names =>
    if names.2.length < depth then .ok ⟨names.1, names.2⟩ else .error .tooDeep

/-- The sign between a key and its value. -/
def equals : Reader Unit := (mark '=').expecting ["`.`", "`=`"]

end ConversationMemory.Toml
