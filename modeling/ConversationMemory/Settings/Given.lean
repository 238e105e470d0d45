import ConversationMemory.Json.Printer

/-!
# What a source of settings gives

* `Given`: a value as a source of settings gives it. `Given.ofJson`: the value of a JSON text.
* `Given.describe`: the kind of a value, as a complaint about it names it.
* `Given.toText`, `Given.toNat64`: the value as a text and as a natural number of 64 bits. Both read
  scalars of other kinds as well.
-/

namespace ConversationMemory

/-- A value as a source of settings gives it. -/
inductive Given
  | nothing
  | bool (value : Bool)
  | integer (value : Int)
  | real (value : Binary64)
  | infinite (negative : Bool)
  | undefined
  | text (value : String)
  | list (items : List Given)
  | table (entries : List (String × Given))
  deriving Repr, Inhabited

namespace Given

/-! ## From JSON -/

/-- Whole numbers of 64 bits with a sign stay exact; all others are doubles. -/
def ofNumber : Number → Given
  | .integer i =>
    if -Number.signedBound ≤ i ∧ i < Number.signedBound then integer i
    else ((Binary64.nearest (i < 0) i.natAbs 1).map real).getD (infinite (i < 0))
  | .float x => real x

mutual

/-- The value of a JSON text. -/
def ofJson : Json → Given
  | .null => nothing
  | .bool b => bool b
  | .number n => ofNumber n
  | .string s => text s
  | .array items => list (ofItems items)
  | .object fields => table (ofFields fields)

/-- The items of an array. -/
def ofItems : List Json → List Given
  | [] => []
  | item :: rest => ofJson item :: ofItems rest

/-- The fields of an object. -/
def ofFields : List (String × Json) → List (String × Given)
  | [] => []
  | (key, value) :: rest => (key, ofJson value) :: ofFields rest

end

/-! ## In words -/

/-- A double with all its digits around the point, and none after the point of a whole number. -/
def plain (x : Binary64) : String :=
  String.ofList ((if x.negative then ['-'] else []) ++ x.shortest.trimmed.positional)

/-- A double with digits after the point. -/
def pointed (x : Binary64) : String :=
  let shown := plain x
  if shown.contains '.' then shown else shown ++ ".0"

/-- The kind of the value in words. -/
def describe : Given → String
  | nothing => "unit value"
  | bool b => s!"boolean `{b}`"
  | integer i => s!"integer `{i}`"
  | real x => "floating point `" ++ pointed x ++ "`"
  | infinite negative => "floating point `" ++ (if negative then "-inf" else "inf") ++ "`"
  | undefined => "floating point `NaN`"
  | text s => "string " ++ Text.quoted s
  | list _ => "sequence"
  | table _ => "map"

/-! ## As a text and as a number -/

/-- Why a value cannot be used. -/
inductive Misfit
  | wrongKind (found : Given) (expected : String)
  | negative (value : Int)

/-- The misfit in words. -/
def Misfit.message : Misfit → String
  | wrongKind found expected => "invalid type: " ++ found.describe ++ ", expected " ++ expected
  | negative value =>
    s!"invalid type: 64-bit integer `{value}`, expected an unsigned 64 bit or less integer"

/-- The value as a text; scalars of other kinds are written out. -/
def toText : Given → Except Misfit String
  | bool b => .ok (toString b)
  | integer i => .ok (toString i)
  | real x => .ok (plain x)
  | infinite negative => .ok (if negative then "-inf" else "inf")
  | undefined => .ok "NaN"
  | text s => .ok s
  | found => .error (.wrongKind found "a string")

/-- The greatest natural number of 64 bits. -/
def greatest : Nat := UInt64.size - 1

/-- The whole number nearest to a double, a half away from zero, kept within 64 bits. -/
def wholeOf (x : Binary64) : Nat :=
  if x.negative then 0
  else
    match x.exponent with
    | .ofNat k => min (x.significand * Nat.pow 2 k) greatest
    | .negSucc k => min ((x.significand + Nat.pow 2 k) / Nat.pow 2 (k + 1)) greatest

/-- The number that decimal digits stand for, after a plus sign or none. -/
def natOfDigits? (cs : List Char) : Option Nat :=
  let digits := match cs with
    | '+' :: rest => rest
    | _ => cs
  if digits ≠ [] ∧ digits.all Char.isDigit then
    let n := Text.valueIn 10 digits
    if n ≤ greatest then some n else none
  else none

/-- The number that a text stands for: digits, or a word for one or zero in any case. -/
def natOfText? (s : String) : Option Nat :=
  let word := String.ofList (s.toList.map Char.toLower)
  if ["true", "on", "yes"].contains word then some 1
  else if ["false", "off", "no"].contains word then some 0
  else natOfDigits? s.toList

/-- The value as a natural number of 64 bits. -/
def toNat64 : Given → Except Misfit UInt64
  | bool b => .ok (if b then 1 else 0)
  | integer i => if 0 ≤ i then .ok (UInt64.ofNat i.toNat) else .error (.negative i)
  | real x => .ok (UInt64.ofNat (wholeOf x))
  | infinite negative => .ok (UInt64.ofNat (if negative then 0 else greatest))
  | undefined => .ok 0
  | text s => ((natOfText? s).map fun n => Except.ok (UInt64.ofNat n)).getD
      (.error (.wrongKind (text s) "an integer"))
  | found => .error (.wrongKind found "an integer")

end Given

end ConversationMemory
