/-!
# Punycode

The letters, digits and hyphens that stand for a label with other characters in a host name.

* `Punycode.encode`: the basic characters of a label, and after them the others as differences
  between successive insertions.
* `Punycode.decode?`: the label, when the text is such a form.
-/

namespace ConversationMemory.Punycode

/-- The bias after a difference, for the number of characters handled. -/
def adapt (first : Bool) (delta handled : Nat) : Nat :=
  let delta := if first then delta / 700 else delta / 2
  shrink (delta + delta / handled) 0
where
  /-- Divides until the difference is small; each division counts for one digit. -/
  shrink (delta bias : Nat) : Nat :=
    if 455 < delta then shrink (delta / 35) (bias + 36) else bias + 36 * delta / (delta + 38)
  termination_by delta

/-- The least value of a digit that is not the last one. -/
def threshold (position bias : Nat) : Nat := min (max (position - bias) 1) 26

/-- A digit of base 36. -/
def digit (n : Nat) : Char := if n < 26 then Char.ofNat (0x61 + n) else Char.ofNat (0x16 + n)

/-- The value of a digit of base 36. -/
def digit? (c : Char) : Option Nat :=
  if 'a' ≤ c ∧ c ≤ 'z' then some (c.toNat - 0x61)
  else if 'A' ≤ c ∧ c ≤ 'Z' then some (c.toNat - 0x41)
  else if '0' ≤ c ∧ c ≤ '9' then some (c.toNat - 0x16)
  else none

/-- A number in digits, the last of which is below its threshold. -/
def digits (bias position n : Nat) : List Char :=
  let t := threshold position bias
  if n < t then [digit n]
  else digit (t + (n - t) % (36 - t)) :: digits bias (position + 36) ((n - t) / (36 - t))
  termination_by n
  decreasing_by
    have low : 1 ≤ t := by simp only [t, threshold]; omega
    have high : t ≤ 26 := by simp only [t, threshold]; omega
    exact Nat.lt_of_le_of_lt (Nat.div_le_self _ _) (by omega)

/-- How far the encoding of a label has come. -/
structure Progress where
  delta : Nat
  bias : Nat
  handled : Nat
  first : Bool
  /-- The digits so far, the last one first. -/
  written : List Char

/-- One character of the label, while those at a level are inserted. -/
def insertAt (level : Nat) (p : Progress) (c : Char) : Progress :=
  if c.toNat < level then { p with delta := p.delta + 1 }
  else if c.toNat = level then
    { delta := 0, bias := adapt p.first p.delta (p.handled + 1), handled := p.handled + 1,
      first := false, written := (digits p.bias 36 p.delta).reverse ++ p.written }
  else p

/-- Inserts all characters at the levels, which rise from `next`. -/
def insertLevels (label : List Char) : Nat → List Nat → Progress → Progress
  | _, [], p => p
  | next, level :: levels, p =>
    let p := { p with delta := p.delta + (level - next) * (p.handled + 1) }
    let p := label.foldl (insertAt level) p
    insertLevels label (level + 1) levels { p with delta := p.delta + 1 }

/-- The code points above ASCII, rising and without repetition. -/
def levels (label : List Char) : List Nat :=
  (((label.map Char.toNat).filter (0x80 ≤ ·)).mergeSort (· ≤ ·)).eraseDups

/-- The form of a label. -/
def encode (label : List Char) : List Char :=
  let basic := label.filter (·.toNat < 0x80)
  let start : Progress := ⟨0, 72, basic.length, true, []⟩
  let rest := (insertLevels label 0x80 (levels label) start).written.reverse
  if basic.isEmpty then rest else basic ++ '-' :: rest

/-- The numbers that fit into 32 bits. -/
def fits? (n : Nat) : Option Nat := if n < UInt32.size then some n else none

/-- A number from the digits at the front, added to a sum, with what is left of the text. The sum
and the weights of all digits fit into 32 bits. -/
def number? (bias : Nat) : Nat → Nat → Nat → List Char → Option (Nat × List Char)
  | _, _, _, [] => none
  | position, weight, sum, c :: rest => do
    let d ← digit? c
    let sum ← fits? (sum + d * weight)
    let t := threshold position bias
    if d < t then some (sum, rest)
    else number? bias (position + 36) (← fits? (weight * (36 - t))) sum rest

/-- Inserts the characters that the digits stand for. -/
def decodeDigits? : Nat → Nat → Nat → Nat → List Char → List Char → Option (List Char)
  | _, _, _, _, label, [] => some label
  | 0, _, _, _, _, _ => none
  | fuel + 1, level, index, bias, label, digits => do
    let (sum, digits) ← number? bias 36 1 index digits
    let size := label.length + 1
    let level := level + sum / size
    let place := sum % size
    if h : level.isValidChar then
      decodeDigits? fuel level (place + 1) (adapt (index == 0) (sum - index) size)
        (label.take place ++ Char.ofNatAux level h :: label.drop place) digits
    else none

/-- The label of a form. Its basic characters stand before the last hyphen, which is not the first
character. -/
def decode? (form : List Char) : Option (List Char) :=
  let tail := (form.reverse.takeWhile (· != '-')).reverse
  let basic := (form.take (form.length - tail.length)).dropLast
  if !form.all (·.toNat < 0x80) || (basic.isEmpty && form.contains '-') then none
  else decodeDigits? tail.length 0x80 0 72 basic tail

end ConversationMemory.Punycode
