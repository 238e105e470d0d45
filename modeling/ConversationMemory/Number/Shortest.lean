import ConversationMemory.Number.Binary64

/-!
# Shortest decimal text of a double

* `Binary64.shortest`: the decimal with the fewest digits that rounds to the double, and of those
  the one nearest to it.
* `Decimal.positional`, `Decimal.scientific`: the two notations of a decimal.
-/

namespace ConversationMemory

/-- The number `digits * 10 ^ exponent`. -/
structure Decimal where
  digits : Nat
  exponent : Int
  deriving DecidableEq, Repr

namespace Binary64

/-- The exponent of the leading decimal digit of a positive double. The scale `10 ^ 350` makes every
double at least one. -/
def leadingExponent (x : Binary64) : Int :=
  let (n, d) := scaled (x.significand * Nat.pow 10 350) 1 (-x.exponent)
  ((Nat.toDigits 10 (n / d)).length : Int) - 351

/-- The fraction `a / b` by which a whole number on the grid `10 ^ k` is multiplied to count it in
quarters of the last binary place of `x`. -/
def gridUnit (x : Binary64) (k : Int) : Nat × Nat :=
  let (a, b) : Nat × Nat := match k with
    | .ofNat j => (Nat.pow 10 j, 1)
    | .negSucc j => (1, Nat.pow 10 (j + 1))
  scaled a b (x.exponent - 2)

/-- Whether `c * 10 ^ k` rounds to `x`: it lies between the midpoints to both neighbours, which
count only for an even significand. Below a power of two the neighbour is half as far. -/
def roundsFrom (x : Binary64) (k : Int) (c : Nat) : Bool :=
  let (a, b) := gridUnit x k
  let low := if x.significand = firstNormal ∧ minExponent < x.exponent then 4 * x.significand - 1
    else 4 * x.significand - 2
  let high := 4 * x.significand + 2
  if x.significand % 2 = 0 then decide (low * b ≤ c * a ∧ c * a ≤ high * b)
  else decide (low * b < c * a ∧ c * a < high * b)

/-- The point of the grid `10 ^ k` that rounds to `x` and is nearest to it, the even one on a tie.
-/
def onGrid? (x : Binary64) (k : Int) : Option Nat :=
  let (a, b) := gridUnit x k
  let value := 4 * x.significand * b
  let below := value / a
  let above := below + 1
  match roundsFrom x k below, roundsFrom x k above with
  | true, true =>
    let down := value - below * a
    let up := above * a - value
    some (if down < up ∨ (down = up ∧ below % 2 = 0) then below else above)
  | true, false => some below
  | false, true => some above
  | false, false => none

/-- The first grid from `10 ^ k` downwards that has a point rounding to `x`. -/
def firstGrid (x : Binary64) : Nat → Int → Decimal
  | 0, k => ⟨x.significand, k⟩
  | fuel + 1, k =>
    match onGrid? x k with
    | some c => ⟨c, k⟩
    | none => firstGrid x fuel (k - 1)

/-- The fewest digits that round to the magnitude of `x`; seventeen always suffice. -/
def shortest (x : Binary64) : Decimal :=
  if x.significand = 0 then ⟨0, 0⟩ else firstGrid x 18 (leadingExponent x + 1)

end Binary64

namespace Decimal

/-- The same decimal without zeros at the end of its digits. -/
def trimmed (d : Decimal) : Decimal :=
  go (Nat.toDigits 10 d.digits).length d
where
  /-- Drops at most the given number of zeros. -/
  go : Nat → Decimal → Decimal
    | 0, d => d
    | fuel + 1, d =>
      if d.digits ≠ 0 ∧ d.digits % 10 = 0 then go fuel ⟨d.digits / 10, d.exponent + 1⟩ else d

/-- The digits as characters. -/
def chars (d : Decimal) : List Char := Nat.toDigits 10 d.digits

/-- The exponent of the leading digit. -/
def leading (d : Decimal) : Int := d.exponent + d.chars.length - 1

/-- Digits around a point, such as `120`, `1.5` and `0.03`. A whole number has no point. -/
def positional (d : Decimal) : List Char :=
  let ds := d.chars
  match d.exponent with
  | .ofNat k => ds ++ List.replicate (if d.digits = 0 then 0 else k) '0'
  | .negSucc k =>
    let places := k + 1
    if places < ds.length then ds.take (ds.length - places) ++ '.' :: ds.drop (ds.length - places)
    else '0' :: '.' :: List.replicate (places - ds.length) '0' ++ ds

/-- One digit before the point, and the power of ten with its sign, such as `1.5e+16` and `1e-7`. -/
def scientific (d : Decimal) : List Char :=
  let fraction := match d.chars with
    | first :: second :: rest => first :: '.' :: second :: rest
    | short => short
  let power := match d.leading with
    | .ofNat k => '+' :: Nat.toDigits 10 k
    | .negSucc k => '-' :: Nat.toDigits 10 (k + 1)
  fraction ++ 'e' :: power

end Decimal

end ConversationMemory
