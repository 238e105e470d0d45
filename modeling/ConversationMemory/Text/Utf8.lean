/-!
# UTF-8

* `Utf8.encode`: the bytes of a text.
* `Utf8.decode?`: the text of a byte sequence, when it is well formed: no overlong form, no
  surrogate, nothing above U+10FFFF.
* `Utf8.bytesOf`, `Utf8.textOf?`: both for strings.
* `Utf8.parts`: the characters of any byte sequence, and the bytes that belong to none.
-/

namespace ConversationMemory.Utf8

/-- The bytes of one character. -/
def encodeChar (c : Char) : List UInt8 :=
  let n := c.toNat
  if n < 0x80 then [n.toUInt8]
  else if n < 0x800 then [(0xC0 + n / 0x40).toUInt8, (0x80 + n % 0x40).toUInt8]
  else if n < 0x10000 then
    [(0xE0 + n / 0x1000).toUInt8, (0x80 + n / 0x40 % 0x40).toUInt8, (0x80 + n % 0x40).toUInt8]
  else
    [(0xF0 + n / 0x40000).toUInt8, (0x80 + n / 0x1000 % 0x40).toUInt8,
      (0x80 + n / 0x40 % 0x40).toUInt8, (0x80 + n % 0x40).toUInt8]

/-- The bytes of a text. -/
def encode (cs : List Char) : List UInt8 := cs.flatMap encodeChar

/-- The six bits that a continuation byte carries. -/
def tail? (b : UInt8) : Option Nat :=
  if 0x80 ≤ b.toNat ∧ b.toNat < 0xC0 then some (b.toNat - 0x80) else none

/-- The character of a code point that needs at least `least`, so that no shorter form exists. -/
def char? (least n : Nat) : Option Char :=
  if h : n.isValidChar then if least ≤ n then some (Char.ofNatAux n h) else none else none

/-- The text of a well-formed byte sequence. -/
def decode? : List UInt8 → Option (List Char)
  | [] => some []
  | a :: rest =>
    if a.toNat < 0x80 then
      do return (← char? 0 a.toNat) :: (← decode? rest)
    else if a.toNat < 0xC0 then none
    else if a.toNat < 0xE0 then
      match rest with
      | b :: rest => do
        return (← char? 0x80 ((a.toNat - 0xC0) * 0x40 + (← tail? b))) :: (← decode? rest)
      | _ => none
    else if a.toNat < 0xF0 then
      match rest with
      | b :: c :: rest => do
        return (← char? 0x800 ((a.toNat - 0xE0) * 0x1000 + (← tail? b) * 0x40 + (← tail? c))) ::
          (← decode? rest)
      | _ => none
    else if a.toNat < 0xF8 then
      match rest with
      | b :: c :: d :: rest => do
        return (← char? 0x10000 ((a.toNat - 0xF0) * 0x40000 + (← tail? b) * 0x1000 +
          (← tail? c) * 0x40 + (← tail? d))) :: (← decode? rest)
      | _ => none
    else none

/-- The bytes of a string. -/
def bytesOf (text : String) : List UInt8 := encode text.toList

/-- The string that bytes stand for. -/
def textOf? (bytes : List UInt8) : Option String := (decode? bytes).map String.ofList

/-- How many bytes a character has that begins with a byte; none does with some. -/
def width (a : UInt8) : Nat :=
  if a.toNat < 0x80 then 1
  else if a.toNat < 0xC0 then 0
  else if a.toNat < 0xE0 then 2
  else if a.toNat < 0xF0 then 3
  else if a.toNat < 0xF8 then 4
  else 0

/-- The character with which bytes begin. -/
def first? (a : UInt8) (rest : List UInt8) : Option Char :=
  match decode? ((a :: rest).take (width a)) with
  | some [c] => some c
  | _ => none

/-- The characters of a byte sequence, with nothing for a byte that belongs to none of them. The first
bytes may belong to a character that has been read already. -/
def parts (taken : Nat) : List UInt8 → List (Option Char)
  | [] => []
  | a :: rest =>
    match taken, first? a rest with
    | taken + 1, _ => parts taken rest
    | 0, some c => some c :: parts (width a - 1) rest
    | 0, none => none :: parts 0 rest

end ConversationMemory.Utf8
