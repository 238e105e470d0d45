import ConversationMemory.Json.Value
import ConversationMemory.Text.Character

/-!
# Paths to settings

* `Setting.Step`: a step of a path, by name or by place in a list.
* `Setting.pathOf`: the path that a name such as `memory.user_agent` or `memory[1]` stands for.
-/

namespace ConversationMemory.Setting

/-- A step of a path. -/
inductive Step
  | name (name : String)
  /-- A place in a list; a negative one counts from the end. -/
  | index (i : Int)
  deriving DecidableEq, Repr

/-- Whether a character may stand in a step by name. -/
def inName (c : Char) : Bool := c.isAlphanum || c == ' ' || c == '_' || c == '-'

/-- A step by name. -/
def readName? (cs : List Char) : Option (Step × List Char) :=
  match cs.span inName with
  | ([], _) => none
  | (name, rest) => some (.name (String.ofList name), rest)

/-- A number in brackets, after the opening one; blanks may stand around it. -/
def readIndex? (cs : List Char) : Option (Step × List Char) :=
  let blank (c : Char) : Bool := c == ' ' || c == '\t'
  let cs := cs.dropWhile blank
  let negative := cs.head? == some '-'
  let (digits, rest) := (if negative then cs.drop 1 else cs).span Char.isDigit
  let n : Int := Text.valueIn 10 digits
  let i := if negative then -n else n
  match digits, rest.dropWhile blank with
  | _ :: _, ']' :: rest =>
    if -Number.signedBound ≤ i ∧ i < Number.signedBound then some (.index i, rest) else none
  | _, _ => none

/-- The steps after a first one: names after points and numbers in brackets. The number bounds how
many. -/
def readSteps? : Nat → List Char → Option (List Step)
  | _, [] => some []
  | 0, _ => none
  | fuel + 1, c :: rest => do
    let (step, rest) ←
      if c = '.' then readName? rest else if c = '[' then readIndex? rest else none
    return step :: (← readSteps? fuel rest)

/-- The path that a name stands for, if it is written as one. -/
def readPath? (cs : List Char) : Option (List Step) := do
  let (step, rest) ← readName? cs
  return step :: (← readSteps? rest.length rest)

/-- The path that a name stands for; what is not written as a path is one step. -/
def pathOf (name : String) : List Step := (readPath? name.toList).getD [.name name]

end ConversationMemory.Setting
