import ConversationMemory.Json.Reader

/-!
# Skipping a value

A field that nobody asked for is skipped: its syntax is checked, but neither the size of its numbers
nor its depth, escapes by number may stand for half a surrogate pair, and bytes of its strings may
belong to no character.

* `Json.skipValue`: past one value.
-/

namespace ConversationMemory.Json

/-- Past the escape after a backslash. -/
def skipEscape (c : Cursor) : Except Fault Cursor :=
  match c.rest with
  | [] => c.failHere .endInString
  | x :: _ =>
    if x ∈ ['"', '\\', '/', 'b', 'f', 'n', 'r', 't'] then .ok c.skip
    else if x = 'u' then do
      let (_, c) ← readUnit c.skip
      return c
    else c.failAhead .invalidEscape

/-- Past the closing quote of a string. -/
def skipChars : Nat → Cursor → Except Fault Cursor
  | 0, c => c.failHere .endInString
  | fuel + 1, c =>
    match c.rest with
    | [] => c.failHere .endInString
    | x :: _ =>
      if x = '"' then .ok c.skip
      else if x = '\\' then do skipChars fuel (← skipEscape c.skip)
      else if isControl x then c.failHere .controlCharacter
      else skipChars fuel c.skip

/-- Past a string, after its opening quote. -/
def skipString (c : Cursor) : Except Fault Cursor := skipChars (c.rest.length + 1) c

/-- Past the leading digits. -/
def skipDigits (c : Cursor) : Cursor := c.drop (c.rest.takeWhile Char.isDigit).length

/-- Past an exponent, after `e`. -/
def skipExponent (c : Cursor) : Except Fault Cursor :=
  let c := match c.rest with
    | '+' :: _ | '-' :: _ => c.skip
    | _ => c
  match c.rest with
  | [] => c.failHere .invalidNumber
  | x :: _ => if x.isDigit then .ok (skipDigits c) else c.failAhead .invalidNumber

/-- Past a fraction, after the point. -/
def skipFraction (c : Cursor) : Except Fault Cursor :=
  match c.rest with
  | [] => c.failAhead .invalidNumber
  | x :: _ =>
    if x.isDigit then
      let c := skipDigits c
      match c.rest with
      | 'e' :: _ | 'E' :: _ => skipExponent c.skip
      | _ => .ok c
    else c.failAhead .invalidNumber

/-- Past a number, after its minus sign. -/
def skipNumber (c : Cursor) : Except Fault Cursor :=
  let digits : Except Fault Cursor :=
    match c.rest with
    | [] => c.failHere .invalidNumber
    | '0' :: more =>
      match more with
      | x :: _ => if x.isDigit then c.skip.failAhead .invalidNumber else .ok c.skip
      | [] => .ok c.skip
    | x :: _ => if x.isDigit then .ok (skipDigits c) else c.failAhead .invalidNumber
  match digits with
  | .error fault => .error fault
  | .ok c =>
    match c.rest with
    | '.' :: _ => skipFraction c.skip
    | 'e' :: _ | 'E' :: _ => skipExponent c.skip
    | _ => .ok c

mutual

/-- Past one value. -/
def skipSteps : Nat → Cursor → Except Fault Cursor
  | 0, c => c.failAhead .endInValue
  | fuel + 1, c =>
    let c := c.skipBlanks
    match c.rest with
    | [] => c.failAhead .endInValue
    | 'n' :: _ => readWord ['u', 'l', 'l'] c.skip
    | 't' :: _ => readWord ['r', 'u', 'e'] c.skip
    | 'f' :: _ => readWord ['a', 'l', 's', 'e'] c.skip
    | '-' :: _ => skipNumber c.skip
    | '"' :: _ => skipString c.skip
    | '[' :: _ =>
      let c := c.skip.skipBlanks
      match c.rest with
      | [] => c.failAhead .endInList
      | ']' :: _ => .ok c.skip
      | _ => skipItems fuel c
    | '\x7b' :: _ =>
      let c := c.skip.skipBlanks
      match c.rest with
      | [] => c.failAhead .endInObject
      | '\x7d' :: _ => .ok c.skip
      | _ => skipFields fuel c
    | x :: _ => if x.isDigit then skipNumber c else c.failAhead .expectedValue

/-- Past the items of an array and its closing bracket. -/
def skipItems : Nat → Cursor → Except Fault Cursor
  | 0, c => c.failAhead .endInList
  | fuel + 1, c => do
    let c := (← skipSteps fuel c).skipBlanks
    match c.rest with
    | [] => c.failAhead .endInList
    | ',' :: _ => skipItems fuel c.skip
    | ']' :: _ => return c.skip
    | _ => c.failAhead .expectedListCommaOrEnd

/-- Past the fields of an object and its closing brace. -/
def skipFields : Nat → Cursor → Except Fault Cursor
  | 0, c => c.failAhead .endInObject
  | fuel + 1, c => do
    let c := c.skipBlanks
    match c.rest with
    | [] => c.failAhead .endInObject
    | '"' :: _ =>
      let c := (← skipSteps fuel (← readColon (← skipString c.skip))).skipBlanks
      match c.rest with
      | [] => c.failAhead .endInObject
      | ',' :: _ => skipFields fuel c.skip
      | '\x7d' :: _ => return c.skip
      | _ => c.failAhead .expectedObjectCommaOrEnd
    | _ => c.failAhead .keyNotString

end

/-- Past one value of the rest of a text. -/
def skipValue (c : Cursor) : Except Fault Cursor := skipSteps c.steps c

end ConversationMemory.Json
