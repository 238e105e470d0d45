import ConversationMemory.Settings.Given
import ConversationMemory.Settings.Toml.Blank

/-!
# TOML numbers

* `Toml.integer`: a whole number in one of four bases. `Toml.float`: a double.
-/

namespace ConversationMemory.Toml

open Reader

/-! ## Digits -/

/-- A digit of a base. -/
def digit (base : Nat) : Reader Char := char (Text.isDigitIn base)

/-- The digits after a first one, with single underscores between them. -/
def moreDigits (base : Nat) : Reader (List Char) :=
  many ((digit base).orElse (mark '_' *> ((digit base).commit.expecting ["digit"])))

/-- Digits with single underscores between them. -/
def someDigits (base : Nat) : Reader (List Char) := do
  return (← digit base) :: (← moreDigits base)

/-- A sign; whether it is a minus. -/
def sign : Reader Bool := do
  let c ← (char fun c => c == '+' || c == '-').maybe
  return c == some '-'

/-- A decimal number with its sign; a zero at its front stands alone. -/
def decimal : Reader (Bool × List Char) :=
  Reader.named "integer" do
    let negative ← sign
    let digits ← orElse
      (do return (← char fun c => c.isDigit && c != '0') :: (← moreDigits 10))
      (do return [← digit 10])
    return (negative, digits)

/-! ## Whole numbers -/

/-- A whole number, if it fits in 64 bits with its sign. -/
def inBounds (i : Int) : Except Cause Given :=
  if i < -Number.signedBound then .error .tooSmall
  else if Number.signedBound ≤ i then .error .tooLarge
  else .ok (.integer i)

/-- A whole number in a base other than ten. -/
def based (mark : String) (base : Nat) (what : String) : Reader Given :=
  ((Reader.named what (word mark *> (someDigits base).commit)).convert fun digits =>
    inBounds (Text.valueIn base digits)).commit

/-- A decimal whole number. -/
def whole : Reader Given := fun cs => do
  let ((negative, digits), rest) ← decimal cs
  let n : Int := Text.valueIn 10 digits
  (convert (fun _ => .ok (n, rest)) fun n => inBounds (if negative then -n else n)).commit cs

/-- A whole number. -/
def integer : Reader Given
  | '0' :: 'x' :: rest => based "0x" 16 "hexadecimal integer" ('0' :: 'x' :: rest)
  | '0' :: 'o' :: rest => based "0o" 8 "octal integer" ('0' :: 'o' :: rest)
  | '0' :: 'b' :: rest => based "0b" 2 "binary integer" ('0' :: 'b' :: rest)
  | cs => whole cs

/-! ## Doubles -/

/-- The double nearest to a decimal number. -/
def realOf (negative : Bool) (digits : List Char) (exponent : Int) : Given :=
  let n := Text.valueIn 10 digits
  let leading := exponent + digits.length
  if n = 0 ∨ leading < -400 then .real (.zero negative)
  else if 400 + (digits.length : Int) < leading then .infinite negative
  else ((Binary64.ofDecimal negative n exponent).map Given.real).getD (.infinite negative)

/-- The power of ten at the end of a double. -/
def power : Reader Int := do
  discard (char fun c => c == 'e' || c == 'E')
  let negative ← sign
  let n : Int := Text.valueIn 10 (← (someDigits 10).commit)
  return if negative then -n else n

/-- The digits after the point of a double. -/
def fraction : Reader (List Char) := mark '.' *> ((someDigits 10).commit.expecting ["digit"])

/-- A double in digits. -/
def digitsOfFloat : Reader Given := do
  let (negative, digits) ← decimal
  let (places, exponent) ← orElse
    (do return ([], ← power))
    (do return (← fraction, (← power.maybe).getD 0))
  return realOf negative (digits ++ places) (exponent - places.length)

/-- Whether a number is more than the greatest double. -/
def isOverflow : Given → Bool
  | .infinite negative => !negative
  | _ => false

/-- A word for a number. -/
def wordOfFloat (negative : Bool) : Reader Given :=
  (word "inf" *> pure (.infinite negative)).orElse (word "nan" *> pure .undefined)

/-- A double. No number of digits is infinite, unless it is negative. -/
def float : Reader Given :=
  Reader.named "floating-point number" <|
    orElse
      (fun cs => do
        let (given, rest) ← digitsOfFloat cs
        if isOverflow given then fail.commit cs else return (given, rest))
      (do wordOfFloat (← sign))

end ConversationMemory.Toml
