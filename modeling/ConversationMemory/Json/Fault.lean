import ConversationMemory.Json.Printer

/-!
# What can be wrong with JSON

* `Json.Cursor`: the rest of a text with the line and column reached.
* `Json.Cause`: what is wrong; `Cause.message` puts it into words.
* `Json.Fault`: a cause with its place. A fault in the syntax has a fixed place; a fault found in a
  value that has been read stays open until the array or object around it has been left.
-/

namespace ConversationMemory.Json

/-- A kind of value, as a complaint about it names it. -/
inductive Found
  | null
  | bool (value : Bool)
  | number (value : Number)
  | string (value : String)
  | sequence
  | map

/-- The kind of a value. -/
def found : Json → Found
  | .null => .null
  | .bool b => .bool b
  | .number n => .number n
  | .string s => .string s
  | .array _ => .sequence
  | .object _ => .map

/-- The kind in words. -/
def Found.describe : Found → String
  | null => "null"
  | bool true => "boolean `true`"
  | bool false => "boolean `false`"
  | number (.integer i) => s!"integer `{i}`"
  | number (.float x) => "floating point `" ++ String.ofList x.jsonChars ++ "`"
  | string s => "string " ++ Text.quoted s
  | sequence => "sequence"
  | map => "map"

/-- What is wrong with a text or a value. -/
inductive Cause
  | endInValue
  | endInString
  | endInList
  | endInObject
  | expectedColon
  | expectedListCommaOrEnd
  | expectedObjectCommaOrEnd
  | expectedWord
  | expectedValue
  | keyNotString
  | trailingComma
  | trailingCharacters
  | invalidNumber
  | numberOutOfRange
  | invalidEscape
  | invalidCodePoint
  | controlCharacter
  | loneSurrogate
  | halfSurrogatePair
  | nestedTooDeep
  | wrongType (found : Found) (expected : String)
  | wrongValue (found : Found) (expected : String)
  | wrongLength (length : Nat) (expected : String)
  | missingField (key : String)
  | duplicateField (key : String)
  /-- A rule of the value's own, in its words. -/
  | rule (text : String)

/-- The cause in words. -/
def Cause.message : Cause → String
  | endInValue => "EOF while parsing a value"
  | endInString => "EOF while parsing a string"
  | endInList => "EOF while parsing a list"
  | endInObject => "EOF while parsing an object"
  | expectedColon => "expected `:`"
  | expectedListCommaOrEnd => "expected `,` or `]`"
  | expectedObjectCommaOrEnd => "expected `,` or `\x7d`"
  | expectedWord => "expected ident"
  | expectedValue => "expected value"
  | keyNotString => "key must be a string"
  | trailingComma => "trailing comma"
  | trailingCharacters => "trailing characters"
  | invalidNumber => "invalid number"
  | numberOutOfRange => "number out of range"
  | invalidEscape => "invalid escape"
  | invalidCodePoint => "invalid unicode code point"
  | controlCharacter => "control character (\\u0000-\\u001F) found while parsing a string"
  | loneSurrogate => "lone leading surrogate in hex escape"
  | halfSurrogatePair => "unexpected end of hex escape"
  | nestedTooDeep => "recursion limit exceeded"
  | wrongType found expected => "invalid type: " ++ found.describe ++ ", expected " ++ expected
  | wrongValue found expected => "invalid value: " ++ found.describe ++ ", expected " ++ expected
  | wrongLength length expected => s!"invalid length {length}, expected " ++ expected
  | missingField key => "missing field `" ++ key ++ "`"
  | duplicateField key => "duplicate field `" ++ key ++ "`"
  | rule text => text

/-- A line, counted from one, and the bytes before the place in that line. -/
structure Position where
  line : Nat
  column : Nat
  deriving DecidableEq, Repr

/-- The rest of a text, and where it starts in the whole. -/
structure Cursor where
  rest : List Char
  position : Position

namespace Cursor

/-- What stands in the rest of a text for a byte that belongs to no character. -/
def stray : Char := '\x00'

/-- What stands for a part of a text. A character that would be taken for a stray byte is as good as
the next one: a control character that no text may hold. -/
def symbol : Option Char → Char
  | none => stray
  | some c => if c = stray then '\x01' else c

/-- The whole text, in which some bytes may belong to no character. -/
def ofParts (parts : List (Option Char)) : Cursor := ⟨parts.map symbol, ⟨1, 0⟩⟩

/-- The whole text. -/
def ofChars (cs : List Char) : Cursor := ofParts (cs.map some)

/-- The place after one character. -/
def past (p : Position) (c : Char) : Position :=
  if c = '\n' then ⟨p.line + 1, 0⟩ else ⟨p.line, p.column + c.utf8Size⟩

/-- The place after one byte of a character. -/
def pastByte (p : Position) (c : Char) : Position :=
  if c = '\n' then ⟨p.line + 1, 0⟩ else ⟨p.line, p.column + 1⟩

/-- The place after a run of characters. -/
def pastAll (p : Position) (cs : List Char) : Position := cs.foldl past p

/-- The place after the first byte of the rest; the end of the text is its own successor. -/
def ahead (c : Cursor) : Position :=
  match c.rest with
  | [] => c.position
  | x :: _ => pastByte c.position x

/-- Past the first character of the rest. -/
def skip (c : Cursor) : Cursor :=
  match c.rest with
  | [] => c
  | x :: rest => ⟨rest, past c.position x⟩

/-- Past the first characters of the rest. -/
def drop (n : Nat) (c : Cursor) : Cursor :=
  ⟨c.rest.drop n, pastAll c.position (c.rest.take n)⟩

/-- The blanks between the tokens. -/
def isBlank (c : Char) : Bool := c == ' ' || c == '\n' || c == '\t' || c == '\r'

/-- Past the blanks at the front. -/
def skipBlanks (c : Cursor) : Cursor :=
  ⟨c.rest.dropWhile isBlank, pastAll c.position (c.rest.takeWhile isBlank)⟩

end Cursor

/-- Where a fault is reported. -/
inductive Place
  | fixed (position : Position)
  | left (cursor : Cursor)

/-- A cause and where it is reported. -/
structure Fault where
  cause : Cause
  place : Place

namespace Fault

/-- A fault at a known place. -/
def atPosition (cause : Cause) (position : Position) : Fault := ⟨cause, .fixed position⟩

/-- The fault in words; the place is part of it once it is fixed. -/
def message (fault : Fault) : String :=
  match fault.place with
  | .fixed ⟨line, column⟩ => fault.cause.message ++ s!" at line {line} column {column}"
  | .left _ => fault.cause.message

end Fault

namespace Cursor

/-- Refuses at the place reached. -/
def failHere {α : Type} (c : Cursor) (cause : Cause) : Except Fault α :=
  .error (.atPosition cause c.position)

/-- Refuses at the place after the next byte. -/
def failAhead {α : Type} (c : Cursor) (cause : Cause) : Except Fault α :=
  .error (.atPosition cause c.ahead)

/-- Refuses a value that has been read; the place is still open. -/
def failOpen {α : Type} (c : Cursor) (cause : Cause) : Except Fault α :=
  .error ⟨cause, .left c⟩

end Cursor

end ConversationMemory.Json
