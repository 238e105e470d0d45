import ConversationMemory.Text.Character
import ConversationMemory.Text.Split

/-!
# Network addresses

* `Ipv4.parse?`, `Ipv4.chars`: an address of 32 bits, read from up to four numbers in decimal, octal
  or hexadecimal digits, written as four decimal numbers.
* `Ipv4.looksNumeric`: a host that ends in a number is such an address or none at all.
* `Ipv6.parse?`, `Ipv6.chars`: an address of eight pieces of 16 bits; the longest run of zeros is
  left out.
-/

namespace ConversationMemory

open Text (splitAt joinWith)

namespace Ipv4

/-- The value of a run of digits in a base, when all of them are digits of it. -/
def inBase? (base : Nat) (digits : List Char) : Option Nat :=
  digits.foldlM (fun sum c => do
    let d ← Text.hexDigit? c
    if d < base then some (sum * base + d) else none) 0

/-- A number: hexadecimal after `0x`, octal after another zero in front, decimal otherwise. -/
def number? : List Char → Option Nat
  | [] => none
  | '0' :: x :: rest => if x = 'x' ∨ x = 'X' then inBase? 16 rest else inBase? 8 (x :: rest)
  | digits => inBase? 10 digits

/-- The parts of a host; a point at its end does not begin another part. -/
def parts (host : List Char) : List (List Char) :=
  let all := splitAt (· == '.') host
  if all.getLast? = some [] then all.dropLast else all

/-- Whether the last part of the host is a number. -/
def looksNumeric (host : List Char) : Bool :=
  match (parts host).getLast? with
  | none => false
  | some last => (!last.isEmpty && last.all Char.isDigit) || (number? last).isSome

/-- The address of up to four numbers: each is one byte, and the last one all bytes that remain. -/
def parse? (host : List Char) : Option Nat := do
  let numbers ← (parts host).mapM number?
  let last ← numbers.getLast?
  let bytes := numbers.dropLast
  if 3 < bytes.length ∨ bytes.any (255 < ·) ∨ Nat.pow 256 (4 - bytes.length) ≤ last then none
  else some (bytes.foldr (fun b rest => b * 16777216 + rest / 256) 0 + last)

/-- The four bytes in decimal. -/
def chars (n : Nat) : List Char :=
  joinWith ['.']
    ([n / 0x1000000, n / 0x10000 % 256, n / 0x100 % 256, n % 256].map (Nat.toDigits 10))

end Ipv4

namespace Ipv6

/-- One piece: up to four hexadecimal digits. -/
def piece? (digits : List Char) : Option Nat :=
  if digits.isEmpty ∨ 4 < digits.length then none else Ipv4.inBase? 16 digits

/-- One byte in decimal without zeros in front. -/
def byte? (digits : List Char) : Option Nat :=
  if digits.isEmpty ∨ (1 < digits.length ∧ digits.head? = some '0') ∨ !digits.all Char.isDigit then
    none
  else (Ipv4.inBase? 10 digits).filter (· < 256)

/-- The two pieces of four bytes in decimal. -/
def bytes? (text : List Char) : Option (List Nat) :=
  match (splitAt (· == '.') text).mapM byte? with
  | some [a, b, c, d] => some [a * 256 + b, c * 256 + d]
  | _ => none

/-- The pieces between colons; the last ones may be given as bytes. -/
def pieces? (text : List Char) (last : Bool) : Option (List Nat) :=
  if text.isEmpty then some []
  else
    let all := splitAt (· == ':') text
    match all.getLast? with
    | none => none
    | some final => do
      let front ← all.dropLast.mapM piece?
      if last ∧ final.contains '.' then return front ++ (← bytes? final)
      else return front ++ [← piece? final]

/-- The text around the first pair of colons. -/
def splitGap : List Char → Option (List Char × List Char)
  | ':' :: ':' :: rest => some ([], rest)
  | c :: rest => (splitGap rest).map fun (before, after) => (c :: before, after)
  | [] => none

/-- The eight pieces; a pair of colons stands for one zero or more. -/
def parse? (text : List Char) : Option (List Nat) := do
  match splitGap text with
  | none =>
    let all ← pieces? text true
    if all.length = 8 then some all else none
  | some (before, after) =>
    let front ← pieces? before false
    let back ← pieces? after true
    let length := front.length + back.length
    if length ≤ 7 then some (front ++ List.replicate (8 - length) 0 ++ back) else none

/-- The number of zeros at the front. -/
def zeros (pieces : List Nat) : Nat := (pieces.takeWhile (· == 0)).length

/-- Where the first longest run of zeros starts and how long it is. -/
def longestGap : Nat → List Nat → Nat × Nat
  | start, [] => (start, 0)
  | start, pieces@(_ :: rest) =>
    let found := longestGap (start + 1) rest
    if found.2 ≤ zeros pieces then (start, zeros pieces) else found

/-- Pieces in hexadecimal with colons between them. -/
def joined (pieces : List Nat) : List Char := joinWith [':'] (pieces.map (Nat.toDigits 16))

/-- The address; its first longest run of two or more zeros is left out. -/
def chars (pieces : List Nat) : List Char :=
  let (start, length) := longestGap 0 pieces
  if length < 2 then joined pieces
  else joined (pieces.take start) ++ [':', ':'] ++ joined (pieces.drop (start + length))

end Ipv6

end ConversationMemory
