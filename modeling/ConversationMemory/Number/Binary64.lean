/-!
# Double-precision numbers

Finite numbers of the 64-bit binary format, with exact arithmetic on natural numbers.

* `Binary64.nearest`: the double nearest to a fraction, ties to the even significand.
* `Binary64.mul`, `Binary64.div`: the product and the quotient, rounded once.
* `Binary64.ofDecimal`: the double nearest to a decimal number.
-/

namespace ConversationMemory

/-- A finite double: `significand * 2 ^ exponent`, negated when `negative` is set. -/
structure Binary64 where
  negative : Bool
  significand : Nat
  exponent : Int
  deriving DecidableEq, Repr, Inhabited

namespace Binary64

/-- The exponent of the smallest double. -/
def minExponent : Int := -1074

/-- The exponent of the largest finite double, whose significand has 53 bits. -/
def maxExponent : Int := 971

/-- The least significand of 53 bits. -/
def firstNormal : Nat := 4503599627370496

/-- Zero keeps its sign. -/
def zero (negative : Bool) : Binary64 := ⟨negative, 0, minExponent⟩

/-- The quotient rounded to a whole number; a half goes to the even neighbour. -/
def roundDiv (num den : Nat) : Nat :=
  if den < 2 * (num % den) ∨ (2 * (num % den) = den ∧ num / den % 2 = 1) then num / den + 1
  else num / den

/-- The fraction `num / den` divided by `2 ^ e`. -/
def scaled (num den : Nat) : Int → Nat × Nat
  | .ofNat k => (num, den * Nat.pow 2 k)
  | .negSucc k => (num * Nat.pow 2 (k + 1), den)

/-- The greatest `k` with `2 ^ k ≤ num / den`, for a positive fraction. -/
def binade (num den : Nat) : Int :=
  let k : Int := (num.log2 : Int) - (den.log2 : Int)
  let (n, d) := scaled num den k
  if d ≤ n then k else k - 1

/-- The double nearest to `num / den`, or nothing when that is beyond the largest double. -/
def nearest (negative : Bool) (num den : Nat) : Option Binary64 :=
  if num = 0 then some (zero negative)
  else
    let e := max (binade num den - 52) minExponent
    let (n, d) := scaled num den e
    let q := roundDiv n d
    let (q, e) := if q = 2 * firstNormal then (firstNormal, e + 1) else (q, e)
    if maxExponent < e then none else some ⟨negative, q, e⟩

/-- The double nearest to `num * 2 ^ e / den`. -/
def nearestScaled (negative : Bool) (num den : Nat) (e : Int) : Option Binary64 :=
  let (n, d) := scaled num den (-e)
  nearest negative n d

/-- The product, rounded once; nothing on overflow. -/
def mul (x y : Binary64) : Option Binary64 :=
  nearestScaled (x.negative != y.negative) (x.significand * y.significand) 1
    (x.exponent + y.exponent)

/-- The quotient by a nonzero double, rounded once; nothing on overflow. -/
def div (x y : Binary64) : Option Binary64 :=
  nearestScaled (x.negative != y.negative) x.significand y.significand (x.exponent - y.exponent)

/-- The double with the other sign. -/
def neg (x : Binary64) : Binary64 := { x with negative := !x.negative }

/-- Zero of either sign. -/
def isZero (x : Binary64) : Bool := x.significand == 0

/-- The double nearest to `digits * 10 ^ exponent`; nothing on overflow. -/
def ofDecimal (negative : Bool) (digits : Nat) : Int → Option Binary64
  | .ofNat k => nearest negative (digits * Nat.pow 10 k) 1
  | .negSucc k => nearest negative digits (Nat.pow 10 (k + 1))

end Binary64

end ConversationMemory
