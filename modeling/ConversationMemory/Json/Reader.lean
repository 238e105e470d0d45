import ConversationMemory.Json.Fault
import ConversationMemory.Text.Character

/-!
# Reading JSON texts

* `Json.readValue`: reads one value and returns the rest of the text.
* `Json.readString`, `Json.readNumber`, `Json.readWord`: the scalar values.
* `Json.parse`: reads a whole text as one value.

The reader is strict: one value, no comma before a closing bracket, no leading zeros, no unpaired
surrogates, and at most 127 levels of arrays and objects. Keys of an object come out sorted; of
fields with one key the last stays. The functions on nested values take the number of steps that
they may make; the length of the text always suffices.
-/

namespace ConversationMemory.Json

/-- The rest of a word such as `null` after its first letter. -/
def readWord (letters : List Char) (c : Cursor) : Except Fault Cursor :=
  match letters with
  | [] => .ok c
  | letter :: letters =>
    match c.rest with
    | [] => c.failHere .endInValue
    | x :: _ => if x = letter then readWord letters c.skip else c.failAhead .expectedWord

/-! ## Strings -/

/-- The place after the given number of bytes; nothing when the text ends before. -/
def placeAfter (bytes : Nat) (p : Position) : List Char → Option Position
  | [] => if bytes = 0 then some p else none
  | x :: rest =>
    if bytes = 0 then some p
    else if bytes < x.utf8Size then some ⟨p.line, p.column + bytes⟩
    else placeAfter (bytes - x.utf8Size) (Cursor.past p x) rest

/-- The four digits after `\u`. -/
def readUnit (c : Cursor) : Except Fault (Nat × Cursor) :=
  match placeAfter 4 c.position c.rest with
  | none => .error (.atPosition .endInString (Cursor.pastAll c.position c.rest))
  | some place =>
    match (c.rest.take 4).mapM Text.hexDigit? with
    | some [a, b, d, e] => .ok (((a * 16 + b) * 16 + d) * 16 + e, c.drop 4)
    | _ => .error (.atPosition .invalidEscape place)

/-- The character of an escape by number, after `\u`: one unit, or a pair of surrogates. -/
def readCodePoint (c : Cursor) : Except Fault (Char × Cursor) := do
  let (first, c) ← readUnit c
  if 0xDC00 ≤ first ∧ first ≤ 0xDFFF then c.failHere .loneSurrogate
  else if 0xD800 ≤ first ∧ first ≤ 0xDBFF then
    match c.rest with
    | [] => c.failHere .endInString
    | '\\' :: more =>
      match more with
      | [] => c.skip.failHere .endInString
      | 'u' :: _ =>
        let (second, c) ← readUnit (c.drop 2)
        if 0xDC00 ≤ second ∧ second ≤ 0xDFFF then
          .ok (Char.ofNat (0x10000 + (first - 0xD800) * 0x400 + (second - 0xDC00)), c)
        else c.failHere .loneSurrogate
      | _ => c.skip.failAhead .halfSurrogatePair
    | _ => c.failAhead .halfSurrogatePair
  else .ok (Char.ofNat first, c)

/-- The character of an escape, after the backslash. -/
def readEscape (c : Cursor) : Except Fault (Char × Cursor) :=
  match c.rest with
  | [] => c.failHere .endInString
  | x :: _ =>
    if x = '"' ∨ x = '\\' ∨ x = '/' then .ok (x, c.skip)
    else if x = 'b' then .ok ('\x08', c.skip)
    else if x = 'f' then .ok ('\x0c', c.skip)
    else if x = 'n' then .ok ('\n', c.skip)
    else if x = 'r' then .ok ('\r', c.skip)
    else if x = 't' then .ok ('\t', c.skip)
    else if x = 'u' then readCodePoint c.skip
    else c.failAhead .invalidEscape

/-- Whether a character may not stand in a string as it is. -/
def isControl (x : Char) : Bool := x.toNat < 0x20 && x != Cursor.stray

/-- The characters up to the closing quote, after those already read, the last one first. -/
def readChars : Nat → List Char → Cursor → Except Fault (List Char × Cursor)
  | 0, _, c => c.failHere .endInString
  | fuel + 1, before, c =>
    match c.rest with
    | [] => c.failHere .endInString
    | x :: _ =>
      if x = '"' then .ok (before.reverse, c.skip)
      else if x = '\\' then do
        let (y, c) ← readEscape c.skip
        readChars fuel (y :: before) c
      else if isControl x then c.failAhead .controlCharacter
      else readChars fuel (x :: before) c.skip

/-- The string after its opening quote. All of its bytes must belong to characters. -/
def readString (c : Cursor) : Except Fault (String × Cursor) := do
  let (cs, after) ← readChars (c.rest.length + 1) [] c
  let raw := c.rest.take (c.rest.length - after.rest.length)
  if raw.contains Cursor.stray then after.failHere .invalidCodePoint
  else .ok (String.ofList cs, after)

/-! ## Numbers -/

/-- The leading digits, as values from 0 to 9. -/
def readDigits (c : Cursor) : List Nat × Cursor :=
  let ds := c.rest.takeWhile Char.isDigit
  (ds.map fun d => d.toNat - 48, c.drop ds.length)

/-- Appends digits to a number while it stays within the limit, and returns the digits left over. -/
def accumulate (limit : Nat) (n : Nat) : List Nat → Nat × List Nat
  | [] => (n, [])
  | d :: ds => if limit < n * 10 + d then (n, d :: ds) else accumulate limit (n * 10 + d) ds

/-- The largest 64-bit natural number. -/
def maxNat64 : Nat := UInt64.size - 1

/-- The largest exponent that is read digit by digit. -/
def maxExponent : Nat := 2147483647

/-- The double nearest to `10 ^ n`. -/
def powerOfTen (n : Nat) : Binary64 :=
  (Binary64.nearest false (Nat.pow 10 n) 1).getD (Binary64.zero false)

/-- Divides by `10 ^ 308` until the exponent is within reach, and then once more. Each step rounds.
-/
def scaleDown : Nat → Binary64 → Nat → Binary64
  | 0, x, _ => x
  | fuel + 1, x, n =>
    if n ≤ 308 then (x.div (powerOfTen n)).getD x
    else if x.isZero then x
    else scaleDown fuel ((x.div (powerOfTen 308)).getD x) (n - 308)

/-- The double `significand * 10 ^ exponent`, rounded once for the significand and once for each
product or quotient; nothing when it is too large. -/
def scale? (significand : Nat) (exponent : Int) : Option Binary64 := do
  let x ← Binary64.nearest false significand 1
  match exponent with
  | .ofNat n =>
    if n ≤ 308 then x.mul (powerOfTen n) else if x.isZero then some x else none
  | .negSucc n => some (scaleDown (n / 308 + 2) x (n + 1))

/-- The double with a sign, or the refusal of one that is too large. -/
def finish (positive : Bool) (significand : Nat) (exponent : Int) (c : Cursor) :
    Except Fault (Number × Cursor) :=
  match scale? significand exponent with
  | some x => .ok (.float (if positive then x else x.neg), c)
  | none => c.failHere .numberOutOfRange

/-- The exponent, after `e`. An exponent of more than 31 bits gives zero or is out of range. -/
def readExponent (positive : Bool) (significand : Nat) (start : Int) (c : Cursor) :
    Except Fault (Number × Cursor) :=
  let (rising, c) := match c.rest with
    | '+' :: _ => (true, c.skip)
    | '-' :: _ => (false, c.skip)
    | _ => (true, c)
  match c.rest with
  | [] => c.failHere .endInValue
  | x :: _ =>
    if x.isDigit then
      let (ds, after) := readDigits c
      let (exponent, left) := accumulate maxExponent 0 ds
      match left with
      | [] =>
        finish positive significand (if rising then start + exponent else start - exponent) after
      | _ :: _ =>
        if significand ≠ 0 ∧ rising then
          (c.drop (ds.length - left.length + 1)).failHere .numberOutOfRange
        else .ok (.float (Binary64.zero (!positive)), after)
    else c.failAhead .invalidNumber

/-- The exponent, if there is one. -/
def readScale (positive : Bool) (significand : Nat) (start : Int) (c : Cursor) :
    Except Fault (Number × Cursor) :=
  match c.rest with
  | 'e' :: _ | 'E' :: _ => readExponent positive significand start c.skip
  | _ => finish positive significand start c

/-- The digits after the point. Those that no longer fit into 64 bits do not count. -/
def readFraction (positive : Bool) (significand : Nat) (start : Int) (c : Cursor) :
    Except Fault (Number × Cursor) :=
  let (ds, after) := readDigits c
  match ds with
  | [] =>
    match c.rest with
    | [] => c.failHere .endInValue
    | _ => c.failAhead .invalidNumber
  | _ =>
    let (significand, left) := accumulate maxNat64 significand ds
    readScale positive significand (start - (ds.length - left.length : Nat)) after

/-- A whole number without fraction and exponent. A negative one that does not fit into 64 bits, and
negative zero, become doubles. -/
def whole (positive : Bool) (n : Nat) : Number :=
  if positive then .integer n
  else if 1 ≤ n ∧ n ≤ UInt64.size / 2 then .integer (-n)
  else .float ((Binary64.nearest true n 1).getD (Binary64.zero true))

/-- What follows the digits before the point. -/
def readTail (positive : Bool) (significand : Nat) (left : List Nat) (c : Cursor) :
    Except Fault (Number × Cursor) :=
  match c.rest, left with
  | '.' :: _, _ => readFraction positive significand left.length c.skip
  | 'e' :: _, _ | 'E' :: _, _ => readExponent positive significand left.length c.skip
  | _, [] => .ok (whole positive significand, c)
  | _, _ => finish positive significand left.length c

/-- A number, after its minus sign if `positive` is false. -/
def readNumber (positive : Bool) (c : Cursor) : Except Fault (Number × Cursor) :=
  match c.rest with
  | [] => c.failHere .endInValue
  | '0' :: more =>
    match more with
    | x :: _ => if x.isDigit then c.skip.failAhead .invalidNumber else readTail positive 0 [] c.skip
    | [] => readTail positive 0 [] c.skip
  | x :: _ =>
    if x.isDigit then
      let (ds, after) := readDigits c
      let (significand, left) := accumulate maxNat64 0 ds
      readTail positive significand left after
    else c.failAhead .invalidNumber

/-! ## Arrays and objects -/

/-- Leaves an array: its closing bracket, after the items. -/
def closeArray (c : Cursor) : Except Fault Cursor :=
  let c := c.skipBlanks
  match c.rest with
  | [] => c.failAhead .endInList
  | ']' :: _ => .ok c.skip
  | ',' :: _ =>
    let c := c.skip.skipBlanks
    match c.rest with
    | ']' :: _ => c.failAhead .trailingComma
    | _ => c.failAhead .trailingCharacters
  | _ => c.failAhead .trailingCharacters

/-- Leaves an object: its closing brace, after the fields. -/
def closeObject (c : Cursor) : Except Fault Cursor :=
  let c := c.skipBlanks
  match c.rest with
  | [] => c.failAhead .endInObject
  | '\x7d' :: _ => .ok c.skip
  | ',' :: _ => c.failAhead .trailingComma
  | _ => c.failAhead .trailingCharacters

/-- The start of the next item of an array, or nothing before the closing bracket. -/
def nextItem (first : Bool) (c : Cursor) : Except Fault (Option Cursor) :=
  let c := c.skipBlanks
  match c.rest with
  | [] => c.failAhead .endInList
  | ']' :: _ => .ok none
  | x :: _ =>
    if first then .ok (some c)
    else if x = ',' then
      let c := c.skip.skipBlanks
      match c.rest with
      | [] => c.failAhead .endInValue
      | ']' :: _ => c.failAhead .trailingComma
      | _ => .ok (some c)
    else c.failAhead .expectedListCommaOrEnd

/-- The start of the next key of an object, after its quote, or nothing before the closing brace. -/
def nextKey (first : Bool) (c : Cursor) : Except Fault (Option Cursor) :=
  let c := c.skipBlanks
  match c.rest with
  | [] => c.failAhead .endInObject
  | '\x7d' :: _ => .ok none
  | x :: _ =>
    if first then if x = '"' then .ok (some c.skip) else c.failAhead .keyNotString
    else if x = ',' then
      let c := c.skip.skipBlanks
      match c.rest with
      | [] => c.failAhead .endInValue
      | '"' :: _ => .ok (some c.skip)
      | '\x7d' :: _ => c.failAhead .trailingComma
      | _ => c.failAhead .keyNotString
    else c.failAhead .expectedObjectCommaOrEnd

/-- The colon between a key and its value. -/
def readColon (c : Cursor) : Except Fault Cursor :=
  let c := c.skipBlanks
  match c.rest with
  | [] => c.failAhead .endInObject
  | ':' :: _ => .ok c.skip
  | _ => c.failAhead .expectedColon

/-- The cursor inside an array or object, unless it is nested too deep. Of `depth` levels the last
one cannot be entered. -/
def enter (depth : Nat) (c : Cursor) : Except Fault Cursor :=
  if depth ≤ 1 then c.failAhead .nestedTooDeep else .ok c.skip

mutual

/-- One value, with `depth` levels left. -/
def readValue : Nat → Nat → Cursor → Except Fault (Json × Cursor)
  | 0, _, c => c.failAhead .endInValue
  | fuel + 1, depth, c =>
    let c := c.skipBlanks
    match c.rest with
    | [] => c.failAhead .endInValue
    | 'n' :: _ => do return (.null, ← readWord ['u', 'l', 'l'] c.skip)
    | 't' :: _ => do return (.bool true, ← readWord ['r', 'u', 'e'] c.skip)
    | 'f' :: _ => do return (.bool false, ← readWord ['a', 'l', 's', 'e'] c.skip)
    | '-' :: _ => do
      let (n, c) ← readNumber false c.skip
      return (.number n, c)
    | '"' :: _ => do
      let (s, c) ← readString c.skip
      return (.string s, c)
    | '[' :: _ => do
      let (items, c) ← readItems fuel (depth - 1) true [] (← enter depth c)
      return (.array items, ← closeArray c)
    | '\x7b' :: _ => do
      let (fields, c) ← readFields fuel (depth - 1) true [] (← enter depth c)
      return (.object fields, ← closeObject c)
    | x :: _ =>
      if x.isDigit then do
        let (n, c) ← readNumber true c
        return (.number n, c)
      else c.failAhead .expectedValue

/-- The items of an array, up to its closing bracket, after those already read, the last one first.
-/
def readItems : Nat → Nat → Bool → List Json → Cursor → Except Fault (List Json × Cursor)
  | 0, _, _, _, c => c.failAhead .endInList
  | fuel + 1, depth, first, before, c => do
    match ← nextItem first c with
    | none => return (before.reverse, c)
    | some c =>
      let (item, c) ← readValue fuel depth c
      readItems fuel depth false (item :: before) c

/-- The fields of an object, up to its closing brace, added to those before. -/
def readFields : Nat → Nat → Bool → Fields → Cursor → Except Fault (Fields × Cursor)
  | 0, _, _, _, c => c.failAhead .endInObject
  | fuel + 1, depth, first, fields, c => do
    match ← nextKey first c with
    | none => return (fields, c)
    | some c =>
      let (key, c) ← readString c
      let (value, c) ← readValue fuel depth (← readColon c)
      readFields fuel depth false (Entries.insert fields key value) c

end

/-- The levels of nesting that a text may have, and one more. -/
def depthLimit : Nat := 128

/-- Steps that always suffice for the rest of a text. -/
def Cursor.steps (c : Cursor) : Nat := 2 * c.rest.length + 2

/-- The end of the text, after blanks. -/
def readEnd (c : Cursor) : Except Fault Unit :=
  let c := c.skipBlanks
  match c.rest with
  | [] => .ok ()
  | _ => c.failAhead .trailingCharacters

/-- The value that a whole text holds. -/
def parse (text : String) : Except Fault Json := do
  let start := Cursor.ofChars text.toList
  let (value, c) ← readValue start.steps depthLimit start
  readEnd c
  return value

end ConversationMemory.Json
