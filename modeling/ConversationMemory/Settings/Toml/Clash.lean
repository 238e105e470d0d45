/-!
# Keys that clash

* `Toml.Kind`: the kinds of values.
* `Toml.Clash`: why a header or a key cannot stand where it does, and `Toml.Clash.message` in words.
-/

namespace ConversationMemory.Toml

/-- The kinds of values. -/
inductive Kind
  | string
  | integer
  | float
  | boolean
  | moment
  | array
  | inlineTable
  deriving DecidableEq, Repr

/-- The kind in words. -/
def Kind.name : Kind → String
  | string => "string"
  | integer => "integer"
  | float => "float"
  | boolean => "boolean"
  | moment => "datetime"
  | array => "array"
  | inlineTable => "inline table"

/-- Why a header or a key cannot stand where it does. -/
inductive Clash
  /-- A header ends in a key that the table at a path has already. -/
  | usedHeader (key : String) (path : List String)
  /-- A key has been given before, in the table at a path or in one that is not named. -/
  | usedKey (key : String) (path : Option (List String))
  /-- A path leads through a value of a kind. -/
  | noTable (path : List String) (kind : Kind)
  deriving DecidableEq, Repr

/-! ## In words -/

/-- Whether a character may stand in a key without quotes. -/
def isBare (c : Char) : Bool := c.isAlphanum || c == '_' || c == '-'

/-- Whether a character is only ever written as an escape; the tab is not. -/
def isControl (c : Char) : Bool := (c.toNat < 0x20 && c != '\t') || c.toNat == 0x7F

/-- A character between double quotes. -/
def escaped (c : Char) : List Char :=
  match c with
  | '\x08' => "\\b".toList
  | '\t' => "\\t".toList
  | '\n' => "\\n".toList
  | '\x0c' => "\\f".toList
  | '\r' => "\\r".toList
  | '"' => "\\\"".toList
  | '\\' => "\\\\".toList
  | c =>
    if isControl c then
      let digits := (Nat.toDigits 16 c.toNat).map Char.toUpper
      '\\' :: 'u' :: (List.replicate (4 - digits.length) '0' ++ digits)
    else [c]

/-- A key as it would be written: without quotes if it can, else between quotes that need no escape
if there are such. -/
def shownKey (key : String) : String :=
  let cs := key.toList
  if key ≠ "" ∧ cs.all isBare then key
  else if cs.any (fun c => c == '"' || c == '\\') ∧ !cs.any (fun c => isControl c || c == '\'') then
    "'" ++ key ++ "'"
  else "\"" ++ String.ofList (cs.flatMap escaped) ++ "\""

/-- The keys of a path with points between them. -/
def joined (path : List String) : String := ".".intercalate path

/-- The table at a path in words. -/
def place : List String → String
  | [] => " in document root"
  | path => " in table `" ++ joined path ++ "`"

/-- The clash in words. -/
def Clash.message : Clash → String
  | usedHeader key path => "duplicate key `" ++ shownKey key ++ "`" ++ place path
  | usedKey key path => "duplicate key `" ++ key ++ "`" ++ path.elim "" place
  | noTable path kind =>
    "dotted key `" ++ joined path ++ "` attempted to extend non-table type (" ++ kind.name ++ ")"

end ConversationMemory.Toml
