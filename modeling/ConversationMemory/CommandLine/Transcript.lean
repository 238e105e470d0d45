import ConversationMemory.Entries
import ConversationMemory.Json.Printer
import ConversationMemory.Message

/-!
# What the program prints

* `CommandLine.Paint`: how a text is shown on a terminal. `CommandLine.paint` shows it so, or
  plainly.
* `CommandLine.header`, `CommandLine.success`, `CommandLine.info`, `CommandLine.failure`: the kinds
  of lines.
* `CommandLine.messageLine`: a message in a transcript.
* `CommandLine.coloured`: whether an environment asks for colours.
-/

namespace ConversationMemory.CommandLine

/-! ## Colours -/

/-- The colours that are used, by their numbers. -/
inductive Colour
  | red
  | green
  | yellow
  | blue
  | magenta
  | cyan
  | brightCyan
  deriving DecidableEq, Repr

/-- The number of a colour. -/
def Colour.code : Colour → Nat
  | red => 31
  | green => 32
  | yellow => 33
  | blue => 34
  | magenta => 35
  | cyan => 36
  | brightCyan => 96

/-- How a text is shown. -/
structure Paint where
  colour : Colour
  bold : Bool := false
  deriving DecidableEq, Repr

/-- What begins a text of this kind. -/
def Paint.start (style : Paint) : String :=
  "\x1b[" ++ (if style.bold then "1;" else "") ++ toString style.colour.code ++ "m"

/-- What ends a painted text. -/
def paintEnd : String := "\x1b[0m"

/-- Shows a text in a style, if colours are used. An end of style within the text begins the style
again. -/
def paint (colours : Bool) (style : Paint) (text : String) : String :=
  if colours then
    style.start ++ (paintEnd ++ style.start).intercalate (text.splitOn paintEnd) ++ paintEnd
  else text

/-- Whether an environment asks for colours where the output is no terminal. -/
def coloured (environment : Entries String) : Bool :=
  (environment.get? "CLICOLOR_FORCE").any (· != "0")

/-! ## Lines -/

/-- A title with a rule as long as its text in bytes, after an empty line. -/
def header (colours : Bool) (text : String) : String :=
  let rule := String.ofList (List.replicate text.utf8ByteSize '=')
  "\n" ++ paint colours ⟨.brightCyan, true⟩ text ++ "\n" ++
    paint colours ⟨.brightCyan, false⟩ rule ++ "\n"

/-- A line that says what was done. -/
def success (colours : Bool) (text : String) : String := paint colours ⟨.green, false⟩ text ++ "\n"

/-- A line that says how things are. -/
def info (colours : Bool) (text : String) : String := paint colours ⟨.blue, false⟩ text ++ "\n"

/-- A line that says what went wrong. -/
def failure (colours : Bool) (text : String) : String := paint colours ⟨.red, true⟩ text ++ "\n"

/-- How the label of a role is shown. -/
def paintOf : Role → Paint
  | .system | .developer => ⟨.magenta, false⟩
  | .user => ⟨.yellow, true⟩
  | .assistant => ⟨.green, true⟩
  | .tool | .function => ⟨.cyan, false⟩

/-- What a message says: its text, or else the calls that it makes. -/
def spoken (message : Message) : String :=
  match message.contentText with
  | some text => text
  | none =>
    match message.get? "tool_calls" with
    | some calls => "[tool calls] " ++ calls.compact
    | none => ""

/-- A message in a transcript. -/
def messageLine (colours : Bool) (message : Message) : String :=
  paint colours (paintOf message.role) (message.role.name ++ ":") ++ " " ++ spoken message ++ "\n"

/-- Messages as a transcript under the name of their session. -/
def transcript (colours : Bool) (sessionId : String) (messages : List Message) : String :=
  header colours ("Session " ++ sessionId) ++
    (if messages.isEmpty then info colours "No messages" else "") ++
    String.join (messages.map (messageLine colours))

end ConversationMemory.CommandLine
