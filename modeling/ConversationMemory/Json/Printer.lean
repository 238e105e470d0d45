import ConversationMemory.Json.Value
import ConversationMemory.Number.Shortest
import ConversationMemory.Text.Unprintable

/-!
# JSON text of a value

* `Json.compact`: the text without blanks.
* `Json.pretty`: the text over several lines, two spaces for each level.

Fields are written in the order in which the value lists them.
-/

namespace ConversationMemory

/-- A double as JSON shows it: the fewest digits that round to it, around a point while the leading
digit stands between `10 ^ -5` and `10 ^ 15`, with a power of ten elsewhere. A whole number keeps
`.0`, zero keeps its sign. -/
def Binary64.jsonChars (x : Binary64) : List Char :=
  let d := x.shortest.trimmed
  let magnitude :=
    if -5 ≤ d.leading ∧ d.leading ≤ 15 then
      if 0 ≤ d.exponent then d.positional ++ ['.', '0'] else d.positional
    else d.scientific
  if x.negative then '-' :: magnitude else magnitude

namespace Number

/-- The number as JSON shows it. -/
def chars : Number → List Char
  | integer (.ofNat n) => Nat.toDigits 10 n
  | integer (.negSucc n) => '-' :: Nat.toDigits 10 (n + 1)
  | float x => x.jsonChars

end Number

namespace Json

/-- The written form of one character of a string. -/
def escapeChar (c : Char) : List Char :=
  if c = '"' ∨ c = '\\' then ['\\', c]
  else if c = '\x08' then ['\\', 'b']
  else if c = '\x0c' then ['\\', 'f']
  else if c = '\n' then ['\\', 'n']
  else if c = '\r' then ['\\', 'r']
  else if c = '\t' then ['\\', 't']
  else if c.toNat < 0x20 then
    ['\\', 'u', '0', '0', Nat.digitChar (c.toNat / 16), Nat.digitChar (c.toNat % 16)]
  else [c]

/-- A string in quotes, ready to be read back. -/
def stringChars (s : String) : List Char := '"' :: s.toList.flatMap escapeChar ++ ['"']

mutual

/-- The characters of the text without blanks. -/
def compactChars : Json → List Char
  | null => ['n', 'u', 'l', 'l']
  | bool true => ['t', 'r', 'u', 'e']
  | bool false => ['f', 'a', 'l', 's', 'e']
  | number n => n.chars
  | string s => stringChars s
  | array [] => ['[', ']']
  | array (item :: items) => '[' :: compactChars item ++ compactItems items
  | object [] => ['\x7b', '\x7d']
  | object (field :: fields) =>
    '\x7b' :: stringChars field.1 ++ ':' :: compactChars field.2 ++ compactFields fields

/-- The further items of an array and its end. -/
def compactItems : List Json → List Char
  | [] => [']']
  | item :: items => ',' :: compactChars item ++ compactItems items

/-- The further fields of an object and its end. -/
def compactFields : List (String × Json) → List Char
  | [] => ['\x7d']
  | field :: fields =>
    ',' :: stringChars field.1 ++ ':' :: compactChars field.2 ++ compactFields fields

end

/-- A new line at a level of nesting. -/
def newline (level : Nat) : List Char := '\n' :: List.replicate (2 * level) ' '

mutual

/-- The characters of the text over several lines, for a value at a level of nesting. -/
def prettyChars (level : Nat) : Json → List Char
  | null => ['n', 'u', 'l', 'l']
  | bool true => ['t', 'r', 'u', 'e']
  | bool false => ['f', 'a', 'l', 's', 'e']
  | number n => n.chars
  | string s => stringChars s
  | array [] => ['[', ']']
  | array (item :: items) =>
    '[' :: newline (level + 1) ++ prettyChars (level + 1) item ++ prettyItems level items
  | object [] => ['\x7b', '\x7d']
  | object (field :: fields) =>
    '\x7b' :: newline (level + 1) ++ stringChars field.1 ++ ':' :: ' ' ::
      prettyChars (level + 1) field.2 ++ prettyFields level fields

/-- The further items of an array at a level, and its end. -/
def prettyItems (level : Nat) : List Json → List Char
  | [] => newline level ++ [']']
  | item :: items =>
    ',' :: newline (level + 1) ++ prettyChars (level + 1) item ++ prettyItems level items

/-- The further fields of an object at a level, and its end. -/
def prettyFields (level : Nat) : List (String × Json) → List Char
  | [] => newline level ++ ['\x7d']
  | field :: fields =>
    ',' :: newline (level + 1) ++ stringChars field.1 ++ ':' :: ' ' ::
      prettyChars (level + 1) field.2 ++ prettyFields level fields

end

/-- The text without blanks. -/
def compact (value : Json) : String := String.ofList value.compactChars

/-- The text over several lines. -/
def pretty (value : Json) : String := String.ofList (value.prettyChars 0)

end Json

end ConversationMemory
