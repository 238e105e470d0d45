import ConversationMemory.Settings.Toml.Reader

/-!
# Blanks, comments and ends of lines

* `Toml.lineEnd`: the end of a line, after which the text may end or go on.
* `Toml.gap`: blanks, ends of lines and comments between the items of a list.
-/

namespace ConversationMemory.Toml

open Reader

/-- The characters that may stand in a line. -/
def isVisible (c : Char) : Bool := c == '\t' || (0x20 ≤ c.toNat && c.toNat != 0x7F)

/-- The blanks within a line. -/
def isSpace (c : Char) : Bool := c == ' ' || c == '\t'

/-- Blanks within a line. -/
def spaces : Reader Unit := discard (run isSpace)

/-- A line feed, which may follow a carriage return. -/
def newline : Reader Unit := (mark '\n').orElse (mark '\r' *> mark '\n')

/-- A comment. -/
def comment : Reader Unit := mark '#' *> discard (run isVisible)

/-- The end of a line, or of the text. -/
def lineEnd : Reader Unit := newline.orElse ended

/-- Nothing more in a line but a comment. -/
def restOfLine : Reader Unit := spaces *> discard comment.maybe *> lineEnd

/-- What may follow in a line. -/
def afterAll : List String := ["newline", "`#`"]

/-- Blanks, ends of lines and comments, no more lines than a list is long. A comment must end with
its line. -/
def gapWithin : List Char → Reader Unit
  | [] => spaces
  | _ :: bound => do
    spaces
    match ← next with
    | some '#' => comment *> newline *> gapWithin bound
    | some '\n' | some '\r' => newline *> gapWithin bound
    | _ => pure ()

/-- Blanks, ends of lines and comments. -/
def gap : Reader Unit := fun cs => gapWithin (' ' :: cs) cs

end ConversationMemory.Toml
