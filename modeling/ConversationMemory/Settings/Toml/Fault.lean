import ConversationMemory.Settings.Toml.Clash

/-!
# What can be wrong with a TOML text

* `Toml.Fault`: what is wrong, and the rest of the text from the place where it is.
* `Toml.Fault.message`: the fault in words, under the line that it is in.
-/

namespace ConversationMemory.Toml

/-- Why something well formed is refused. -/
inductive Cause
  | outOfRange
  | tooLarge
  | tooSmall
  | tooDeep
  | clash (why : Clash)
  deriving DecidableEq, Repr

/-- The cause in words. -/
def Cause.message : Cause → String
  | outOfRange => "value is out of range"
  | tooLarge => "number too large to fit in target type"
  | tooSmall => "number too small to fit in target type"
  | tooDeep => "recursion limit exceeded"
  | clash why => why.message

/-- What is wrong, and the rest of the text from the place where it is. -/
structure Fault where
  rest : List Char
  /-- Whether nothing else may be tried in place of what was being read. -/
  final : Bool := false
  /-- What was being read. -/
  reading : Option String := none
  /-- What could have stood there. -/
  expected : List String := []
  cause : Option Cause := none
  deriving DecidableEq, Repr

namespace Fault

/-- Says what was being read, unless it is already known more closely. -/
def named (what : String) (fault : Fault) : Fault :=
  { fault with reading := fault.reading <|> some what }

/-- Adds what could have stood there. -/
def expecting (what : List String) (fault : Fault) : Fault :=
  { fault with expected := fault.expected ++ what }

/-- Rules out that something else is tried. -/
def committed (fault : Fault) : Fault := { fault with final := true }

/-! ## In words -/

/-- The lines that say what is wrong. -/
def lines (fault : Fault) : List String :=
  (fault.reading.map ("invalid " ++ ·)).toList ++
  (if fault.expected.isEmpty then [] else ["expected " ++ ", ".intercalate fault.expected]) ++
  (fault.cause.map Cause.message).toList

/-- The number of characters in front of a place in its line. A character of several bytes has the
number of bytes in front of it for a place. -/
def columnOf (line : List Char) : List Char → Nat
  | c :: _ => if c.utf8Size = 1 then line.length else (String.ofList line).utf8ByteSize
  | [] => line.length

/-- A line of a text and a place in it, both counted from zero. The end of a text is one place after
its last character, in the same line. -/
def placeOf (before rest : List Char) : Nat × Nat :=
  let reached := if rest = [] then before.dropLast else before
  let inLine := reached.reverse.takeWhile (· != '\n')
  (reached.count '\n', columnOf inLine rest + if rest = [] then min before.length 1 else 0)

/-- The fault of a text in words. -/
def message (fault : Fault) (text : String) : String :=
  let whole := text.toList
  let (line, column) := placeOf (whole.take (whole.length - fault.rest.length)) fault.rest
  let content := (text.splitOn "\n")[line]?.getD ""
  let marked := min (fault.rest.head?.elim 0 Char.utf8Size) (content.utf8ByteSize - column)
  let number := toString (line + 1)
  let gutter := String.ofList (List.replicate (number.length + 1) ' ') ++ "|"
  let mark := List.replicate (column + 1) ' ' ++ List.replicate (max marked 1) '^'
  let shown :=
    [s!"TOML parse error at line {number}, column {column + 1}", gutter, number ++ " | " ++ content,
      gutter ++ String.ofList mark]
  "\n".intercalate (shown ++ ["\n".intercalate fault.lines]) ++ "\n"

end Fault

end ConversationMemory.Toml
