import ConversationMemory.Entries
import ConversationMemory.Number.Binary64

/-!
# JSON values

* `Json`: a value; an object is the list of its fields in the order in which they are written.
* `Fields`: the fields of an object, entries by key.
-/

namespace ConversationMemory

/-- A number: whole numbers stay exact, all others are doubles. -/
inductive Number
  | integer (value : Int)
  | float (value : Binary64)
  deriving DecidableEq, Repr, Inhabited

/-- The bound of the whole numbers of 64 bits that have a sign. -/
def Number.signedBound : Int := 9223372036854775808

/-- A JSON value. -/
inductive Json
  | null
  | bool (value : Bool)
  | number (value : Number)
  | string (value : String)
  | array (items : List Json)
  | object (fields : List (String × Json))
  deriving Repr, Inhabited

/-- The fields of an object. -/
abbrev Fields := Entries Json

namespace Json

/-- The text of a string value. -/
def text? : Json → Option String
  | string s => some s
  | _ => none

/-- The field of an object; other values have none. -/
def field? : Json → String → Option Json
  | object fields, key => Entries.get? fields key
  | _, _ => none

/-- A natural number as a value. -/
def nat (n : Nat) : Json := number (.integer n)

end Json

end ConversationMemory
