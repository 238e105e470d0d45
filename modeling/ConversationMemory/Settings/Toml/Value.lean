import ConversationMemory.Settings.Toml.Moment
import ConversationMemory.Settings.Toml.Number
import ConversationMemory.Settings.Toml.Table

/-!
# TOML values

* `Toml.value`: a value; lists and tables in braces hold values in turn, down to a depth.
* `Toml.list`, `Toml.braces`: lists and tables in braces.
-/

namespace ConversationMemory.Toml

open Reader

/-! ## Values of one piece -/

/-- Reads values of a kind. -/
def ofKind (kind : Kind) (read : Reader Given) : Reader Value := (⟨kind, ·⟩) <$> read

/-- Reads what is taken for a string when it cannot be read. -/
def likeString (read : Reader Value) : Reader Value :=
  (read.named "string").expecting ["`\"`", "`'`"]

/-- A word for a value. -/
def constant (w : String) (kind : Kind) (given : Given) : Reader Value :=
  likeString (word w *> pure ⟨kind, given⟩)

/-- A whole number. -/
def integerValue : Reader Value := ofKind .integer integer

/-- A double. -/
def floatValue : Reader Value := ofKind .float float

/-- A number or a date. -/
def number : Reader Value :=
  (ofKind .moment ((fun m => .text m.text) <$> moment)).orElse (floatValue.orElse integerValue)

/-- A value without others in it, or what another reader reads in its brackets. -/
def valueOr (inBrackets : Reader Value) : Reader Value := do
  match ← next with
  | none => fail
  | some c =>
    if c = '"' ∨ c = '\'' then ofKind .string (Given.text <$> text)
    else if c = '[' ∨ c = '\x7b' then inBrackets
    else if c = '+' ∨ c = '-' ∨ c.isDigit then number
    else if c = '_' then integerValue.expecting ["leading digit"]
    else if c = '.' then floatValue.expecting ["leading digit"]
    else if c = 't' then (constant "true" .boolean (.bool true)).commit
    else if c = 'f' then (constant "false" .boolean (.bool false)).commit
    else if c = 'i' then constant "inf" .float (.infinite false)
    else if c = 'n' then constant "nan" .float .undefined
    else likeString fail

/-! ## Lists and tables in braces -/

/-- The items of a list. -/
def items (item : Reader Value) : Reader (List Given) := do
  match ← next with
  | some ']' => return []
  | _ =>
    let found ← (separated (gap *> item <* gap) ',').maybe
    if found.isSome then discard (mark ',').maybe
    gap
    return found.elim [] fun (first, rest) => (first :: rest).map Value.given

/-- A list. -/
def list (item : Reader Value) : Reader Value := do
  mark '['
  let given ← (items item).commit
  ((mark ']').commit.named "array").expecting ["`]`"]
  return ⟨.array, .list given⟩

/-- A key with its value in a table in braces. -/
def pairInBraces (item : Reader Value) : Reader (Key × Value) := do
  let key ← key
  commit do
    equals
    spaces
    let value ← item
    spaces
    return (key, value)

/-- The keys with their values in a table in braces. -/
def pairs (item : Reader Value) : Reader (List (Key × Value)) := do
  let found ← (separated (pairInBraces item) ',').maybe
  spaces
  return found.elim [] fun (first, rest) => first :: rest

/-- The table of keys with their values. -/
def ofPairs (pairs : List (Key × Value)) : Except Cause Nodes :=
  (pairs.foldlM (fun nodes pair => Nodes.assignInBraces nodes pair.1 pair.2) []).mapError .clash

/-- A table in braces. -/
def braces (item : Reader Value) : Reader Value := do
  mark '\x7b'
  let nodes ← ((pairs item).convert ofPairs).commit
  ((mark '\x7d').commit.named "inline table").expecting ["`\x7d`"]
  return ⟨.inlineTable, .table (givenEntries nodes)⟩

/-- A list or a table in braces. -/
def brackets (item : Reader Value) : Reader Value := (list item).orElse (braces item)

/-- A value, with so many brackets within each other at most. -/
def value : Nat → Reader Value
  | 0 => valueOr (refuse .tooDeep).commit
  | deeper + 1 => valueOr (brackets (value deeper))

end ConversationMemory.Toml
