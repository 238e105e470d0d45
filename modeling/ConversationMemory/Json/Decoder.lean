import ConversationMemory.Json.Skip
import ConversationMemory.Text.Utf8

/-!
# Decoding JSON into types

A decoder takes its value either from a text, where a complaint has a place, or from a value that
has been read, where it has none.

* `Decoder.text`, `Decoder.nat64`, `Decoder.value`, `Decoder.optional`, `Decoder.list`,
  `Decoder.textMap`: decoders of common types.
* `Decoder.record`: a record from an object, or from an array of its fields in order.
* `Decoder.decode`, `Decoder.decodeText`, `Decoder.decodeBytes`: run a decoder on a value, on a whole
  text, and on bytes.
-/

namespace ConversationMemory.Json

/-- Decodes a type from a value, and from a text with a number of levels left. -/
structure Decoder (α : Type) where
  ofValue : Json → Except Cause α
  ofText : Nat → Cursor → Except Fault (α × Cursor)

namespace Decoder

/-- The complaint that a value is of the wrong kind. Scalars are read first, so that the complaint
can name them; it stands after a scalar and before a bracket. -/
def refuse {α : Type} (expected : String) (c : Cursor) : Except Fault α :=
  let c := c.skipBlanks
  let scalar (found : Found) (c : Cursor) : Except Fault α :=
    c.failHere (.wrongType found expected)
  match c.rest with
  | [] => c.failAhead .endInValue
  | 'n' :: _ => do scalar .null (← readWord ['u', 'l', 'l'] c.skip)
  | 't' :: _ => do scalar (.bool true) (← readWord ['r', 'u', 'e'] c.skip)
  | 'f' :: _ => do scalar (.bool false) (← readWord ['a', 'l', 's', 'e'] c.skip)
  | '-' :: _ => do
    let (n, c) ← readNumber false c.skip
    scalar (.number n) c
  | '"' :: _ => do
    let (s, c) ← readString c.skip
    scalar (.string s) c
  | '[' :: _ => scalar .sequence c
  | '\x7b' :: _ => scalar .map c
  | x :: _ =>
    if x.isDigit then do
      let (n, c) ← readNumber true c
      scalar (.number n) c
    else c.failAhead .expectedValue

/-- Leaves an array or object with the result of its contents. A fault that is still open gets its
place after the closing bracket, or as far as the text allows. -/
def leaving {α : Type} (close : Cursor → Except Fault Cursor) (advance : Cursor → Cursor)
    (result : Except Fault (α × Cursor)) : Except Fault (α × Cursor) :=
  match result with
  | .ok (value, c) => do return (value, ← close c)
  | .error ⟨cause, .left c⟩ => (advance c).failHere cause
  | .error fault => .error fault

/-- As far as the end of an array is recognised: past its bracket, or past a comma and blanks. -/
def pastArray (c : Cursor) : Cursor :=
  let c := c.skipBlanks
  match c.rest with
  | ']' :: _ => c.skip
  | ',' :: _ => c.skip.skipBlanks
  | _ => c

/-- As far as the end of an object is recognised. -/
def pastObject (c : Cursor) : Cursor :=
  let c := c.skipBlanks
  match c.rest with
  | '\x7d' :: _ => c.skip
  | _ => c

/-- A text. -/
def text : Decoder String where
  ofValue
    | .string s => .ok s
    | other => .error (.wrongType other.found "a string")
  ofText _ c :=
    let c := c.skipBlanks
    match c.rest with
    | '"' :: _ => readString c.skip
    | _ => refuse "a string" c

/-- The natural number of 64 bits that a number is. -/
def toNat64 : Number → Except Cause UInt64
  | .integer i =>
    if 0 ≤ i then .ok (UInt64.ofNat i.toNat)
    else .error (.wrongValue (.number (.integer i)) "u64")
  | .float x => .error (.wrongType (.number (.float x)) "u64")

/-- A natural number of 64 bits. -/
def nat64 : Decoder UInt64 where
  ofValue
    | .number n => toNat64 n
    | other => .error (.wrongType other.found "u64")
  ofText _ c :=
    let c := c.skipBlanks
    let read (positive : Bool) (c : Cursor) : Except Fault (UInt64 × Cursor) := do
      let (n, c) ← readNumber positive c
      match toNat64 n with
      | .ok n => return (n, c)
      | .error cause => c.failHere cause
    match c.rest with
    | '-' :: _ => read false c.skip
    | x :: _ => if x.isDigit then read true c else refuse "u64" c
    | [] => refuse "u64" c

/-- Any value. -/
def value : Decoder Json where
  ofValue := .ok
  ofText depth c := readValue c.steps depth c

/-- A value in which `null` stands for nothing. -/
def optional {α : Type} (d : Decoder α) : Decoder (Option α) where
  ofValue
    | .null => .ok none
    | other => (d.ofValue other).map some
  ofText depth c :=
    let c := c.skipBlanks
    match c.rest with
    | 'n' :: _ => do return (none, ← readWord ['u', 'l', 'l'] c.skip)
    | _ => do
      let (a, c) ← d.ofText depth c
      return (some a, c)

/-- A decoder followed by a function. -/
def map {α β : Type} (f : α → β) (d : Decoder α) : Decoder β where
  ofValue v := (d.ofValue v).map f
  ofText depth c := do
    let (a, c) ← d.ofText depth c
    return (f a, c)

/-- A decoder followed by a rule that may refuse what was read. -/
def check {α β : Type} (rule : α → Except String β) (d : Decoder α) : Decoder β where
  ofValue v := do
    match rule (← d.ofValue v) with
    | .ok b => return b
    | .error text => .error (.rule text)
  ofText depth c := do
    let (a, c) ← d.ofText depth c
    match rule a with
    | .ok b => return (b, c)
    | .error text => c.failOpen (.rule text)

/-! ## Lists -/

/-- The items of an array in a text, after those already read, the last one first. -/
def items {α : Type} (d : Decoder α) (depth : Nat) :
    Nat → Bool → List α → Cursor → Except Fault (List α × Cursor)
  | 0, _, _, c => c.failAhead .endInList
  | fuel + 1, first, before, c => do
    match ← nextItem first c with
    | none => return (before.reverse, c)
    | some c =>
      let (a, c) ← d.ofText depth c
      items d depth fuel false (a :: before) c

/-- An array of values of one type. -/
def list {α : Type} (d : Decoder α) : Decoder (List α) where
  ofValue
    | .array values => values.mapM d.ofValue
    | other => .error (.wrongType other.found "a sequence")
  ofText depth c :=
    let c := c.skipBlanks
    match c.rest with
    | '[' :: _ => do
      let start ← enter depth c
      leaving closeArray pastArray (items d (depth - 1) start.steps true [] start)
    | _ => refuse "a sequence" c

/-! ## Maps of texts -/

/-- The entries of an object in a text, added to those before. -/
def entries (depth : Nat) :
    Nat → Bool → Entries String → Cursor →
      Except Fault (Entries String × Cursor)
  | 0, _, _, c => c.failAhead .endInObject
  | fuel + 1, first, before, c => do
    match ← nextKey first c with
    | none => return (before, c)
    | some c =>
      let (key, c) ← readString c
      let (value, c) ← text.ofText depth (← readColon c)
      entries depth fuel false (before.insert key value) c

/-- An object whose values are texts, as entries sorted by key. -/
def textMap : Decoder (Entries String) where
  ofValue
    | .object fields =>
      fields.foldlM (fun before field => do
        return before.insert field.1 (← text.ofValue field.2)) []
    | other => .error (.wrongType other.found "a map")
  ofText depth c :=
    let c := c.skipBlanks
    match c.rest with
    | '\x7b' :: _ => do
      let start ← enter depth c
      leaving closeObject pastObject (entries (depth - 1) start.steps true [] start)
    | _ => refuse "a map" c

/-! ## Records -/

/-- A field of a record: its key, whether it must be given, and how its value changes the record. -/
structure Field (α : Type) where
  key : String
  required : Bool
  update : Decoder (α → α)

/-- A field that must be given. -/
def required {α β : Type} (key : String) (d : Decoder β) (set : β → α → α) : Field α :=
  ⟨key, true, d.map set⟩

/-- A field that keeps its default when it is not given. -/
def defaulted {α β : Type} (key : String) (d : Decoder β) (set : β → α → α) : Field α :=
  ⟨key, false, d.map set⟩

/-- Refuses a record of which a required field was not among the keys seen. -/
def missing? {α : Type} (fields : List (Field α)) (seen : List String) : Option Cause :=
  (fields.find? fun field => field.required && !seen.contains field.key).map fun field =>
    .missingField field.key

/-- A record from the fields of an object. -/
def recordOfFields {α : Type} (fields : List (Field α)) :
    List String → α → Fields → Except Cause α
  | seen, record, [] =>
    match missing? fields seen with
    | some cause => .error cause
    | none => .ok record
  | seen, record, (key, given) :: rest =>
    match fields.find? fun field => field.key == key with
    | none => recordOfFields fields seen record rest
    | some field =>
      if seen.contains key then .error (.duplicateField key)
      else do
        let change ← field.update.ofValue given
        recordOfFields fields (key :: seen) (change record) rest

/-- A record from values for its fields in order, the number of which counts from `index`. -/
def recordOfItems {α : Type} (expected : String) :
    Nat → List (Field α) → α → List Json → Except Cause α
  | _, [], record, [] => .ok record
  | index, [], _, rest => .error (.wrongLength (index + rest.length) "fewer elements in array")
  | index, field :: fields, record, [] =>
    if field.required then .error (.wrongLength index expected)
    else recordOfItems expected (index + 1) fields record []
  | index, field :: fields, record, given :: rest => do
    let change ← field.update.ofValue given
    recordOfItems expected (index + 1) fields (change record) rest

/-- A record from the fields of an object in a text. -/
def fieldsOfText {α : Type} (fields : List (Field α)) (depth : Nat) :
    Nat → Bool → List String → α → Cursor → Except Fault (α × Cursor)
  | 0, _, _, _, c => c.failAhead .endInObject
  | fuel + 1, first, seen, record, c => do
    match ← nextKey first c with
    | none =>
      match missing? fields seen with
      | some cause => c.failOpen cause
      | none => return (record, c)
    | some c =>
      let (key, c) ← readString c
      match fields.find? fun field => field.key == key with
      | none => fieldsOfText fields depth fuel false seen record (← skipValue (← readColon c))
      | some field =>
        if seen.contains key then c.failOpen (.duplicateField key)
        else
          let (change, c) ← field.update.ofText depth (← readColon c)
          fieldsOfText fields depth fuel false (key :: seen) (change record) c

/-- A record from the items of an array in a text, in the order of its fields. -/
def itemsOfText {α : Type} (expected : String) (depth : Nat) :
    Nat → List (Field α) → α → Cursor → Except Fault (α × Cursor)
  | _, [], record, c => .ok (record, c)
  | index, field :: fields, record, c => do
    match ← nextItem (index == 0) c with
    | none =>
      if field.required then c.failOpen (.wrongLength index expected)
      else itemsOfText expected depth (index + 1) fields record c
    | some c =>
      let (change, c) ← field.update.ofText depth c
      itemsOfText expected depth (index + 1) fields (change record) c

/-- The length that a record of this name has as an array. -/
def lengthOf (name : String) (count : Nat) : String :=
  if count = 1 then s!"struct {name} with 1 element" else s!"struct {name} with {count} elements"

/-- A record, from an object or from an array of its fields in order. Fields with other keys are
skipped. -/
def record {α : Type} (name : String) (fields : List (Field α)) (blank : α) : Decoder α where
  ofValue
    | .object given => recordOfFields fields [] blank given
    | .array given => recordOfItems (lengthOf name fields.length) 0 fields blank given
    | other => .error (.wrongType other.found s!"struct {name}")
  ofText depth c :=
    let c := c.skipBlanks
    match c.rest with
    | '[' :: _ => do
      let start ← enter depth c
      leaving closeArray pastArray
        (itemsOfText (lengthOf name fields.length) (depth - 1) 0 fields blank start)
    | '\x7b' :: _ => do
      let start ← enter depth c
      leaving closeObject pastObject
        (fieldsOfText fields (depth - 1) start.steps true [] blank start)
    | _ => refuse s!"struct {name}" c

/-! ## Running a decoder -/

/-- Decodes a value. -/
def decode {α : Type} (d : Decoder α) (v : Json) : Except Cause α := d.ofValue v

/-- Decodes all that a cursor has before it. -/
def decodeAll {α : Type} (d : Decoder α) (start : Cursor) : Except Fault α := do
  let (a, c) ← d.ofText depthLimit start
  readEnd c
  return a

/-- Decodes a whole text. -/
def decodeText {α : Type} (d : Decoder α) (s : String) : Except Fault α :=
  d.decodeAll (Cursor.ofChars s.toList)

/-- Decodes bytes that should be a text. -/
def decodeBytes {α : Type} (d : Decoder α) (bytes : List UInt8) : Except Fault α :=
  d.decodeAll (Cursor.ofParts (Utf8.parts 0 bytes))

end Decoder

end ConversationMemory.Json
