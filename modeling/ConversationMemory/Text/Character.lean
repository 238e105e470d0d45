import ConversationMemory.Text.Split

/-!
# Characters

* `Text.isBlank`: the White_Space property. `Text.trim`: a text without the blanks at either end.
* `Text.hexDigit?`: the value of a hexadecimal digit; `Text.isDigitIn`: whether a character is a
  digit of a base up to sixteen. `Text.valueIn`: the number that digits make up in a base.
  `Text.hex`: a number in hexadecimal digits.
* `Text.Ranges`: a set of characters, as ranges of code points. `Text.Ranges.ofText`: the ranges that
  a text lists in hexadecimal numbers, such as `41-5A 5F`. `Text.Ranges.contains`: membership.
-/

namespace ConversationMemory.Text

/-! ## Blanks -/

/-- The characters with the White_Space property. -/
def isBlank (c : Char) : Bool :=
  let n := c.toNat
  (0x9 ≤ n && n ≤ 0xD) || n == 0x20 || n == 0x85 || n == 0xA0 || n == 0x1680 ||
    (0x2000 ≤ n && n ≤ 0x200A) || n == 0x2028 || n == 0x2029 || n == 0x202F || n == 0x205F ||
    n == 0x3000

/-- The list without the characters of a class at either end. -/
def strip (p : Char → Bool) (cs : List Char) : List Char :=
  ((cs.dropWhile p).reverse.dropWhile p).reverse

/-- The text without blanks at either end. -/
def trim (s : String) : String := String.ofList (strip isBlank s.toList)

/-! ## Digits -/

/-- The number in lower-case hexadecimal digits, without zeros in front. -/
def hex (n : Nat) : List Char := Nat.toDigits 16 n

/-- The value of a hexadecimal digit. -/
def hexDigit? (c : Char) : Option Nat :=
  if '0' ≤ c ∧ c ≤ '9' then some (c.toNat - 0x30)
  else if 'A' ≤ c ∧ c ≤ 'F' then some (c.toNat - 0x37)
  else if 'a' ≤ c ∧ c ≤ 'f' then some (c.toNat - 0x57)
  else none

/-- Whether a character is a digit of a base. -/
def isDigitIn (base : Nat) (c : Char) : Bool := (hexDigit? c).any (· < base)

/-- The number that digits make up in a base; other characters do not count. -/
def valueIn (base : Nat) (digits : List Char) : Nat :=
  (digits.filterMap hexDigit?).foldl (fun n d => n * base + d) 0

/-- The number that hexadecimal digits make up. -/
def hexValue (digits : List Char) : Nat := valueIn 16 digits

/-! ## Sets of characters -/

/-- First and last code point of each range. -/
abbrev Ranges := List (Nat × Nat)

namespace Ranges

/-- The range of a word: one number, or two with a hyphen between them. -/
def ofWord (word : List Char) : Nat × Nat :=
  let ends := (splitAt (· == '-') word).map hexValue
  (ends.headD 0, ends.getLastD 0)

/-- The ranges that a text lists. -/
def ofText (text : String) : Ranges := (words text).map ofWord

/-- Whether the character lies in one of the ranges. -/
def contains (ranges : Ranges) (c : Char) : Bool :=
  ranges.any fun (first, last) => first ≤ c.toNat && c.toNat ≤ last

end Ranges

end ConversationMemory.Text
