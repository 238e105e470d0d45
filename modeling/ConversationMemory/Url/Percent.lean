import ConversationMemory.Text.Character
import ConversationMemory.Text.Utf8

/-!
# Percent encoding

* `Percent.encode`: a text in which all characters outside a class are written as `%` and two
  hexadecimal digits for each of their bytes.
* `Percent.decode`: the bytes that such a text stands for.
* `Percent.component`: the class of characters that need no encoding anywhere in an address.
* `Percent.path`, `Percent.userinfo`, …: the classes of the parts of an address.
-/

namespace ConversationMemory.Percent

/-- An upper-case hexadecimal digit. -/
def digit (n : Nat) : Char := if n < 10 then Char.ofNat (0x30 + n) else Char.ofNat (0x37 + n)

/-- One byte as `%` and two digits. -/
def encodeByte (b : UInt8) : List Char := ['%', digit (b.toNat / 16), digit (b.toNat % 16)]

/-- One character, as it is when it belongs to the class. -/
def encodeChar (keep : Char → Bool) (c : Char) : List Char :=
  if keep c then [c] else (Utf8.encodeChar c).flatMap encodeByte

/-- The text with all characters outside the class encoded. -/
def encode (keep : Char → Bool) (cs : List Char) : List Char := cs.flatMap (encodeChar keep)

/-- The bytes of the text; `%` without two digits after it stands for itself. -/
def decode : List Char → List UInt8
  | [] => []
  | '%' :: high :: low :: rest =>
    match Text.hexDigit? high, Text.hexDigit? low with
    | some high, some low => (high * 16 + low).toUInt8 :: decode rest
    | _, _ => Utf8.encodeChar '%' ++ decode (high :: low :: rest)
  | c :: rest => Utf8.encodeChar c ++ decode rest
  termination_by cs => cs.length

/-! ## Classes of characters -/

/-- Letters, digits and `-`, `_`, `.`, `~`. -/
def component (c : Char) : Bool := c.isAlphanum || c == '-' || c == '_' || c == '.' || c == '~'

/-- Printable characters of ASCII, the blank among them. -/
def printable (c : Char) : Bool := 0x20 ≤ c.toNat && c.toNat < 0x7F

/-- Printable characters without some. -/
def printableBut (others : List Char) (c : Char) : Bool := printable c && !others.contains c

/-- What a fragment keeps. -/
def fragment : Char → Bool := printableBut [' ', '"', '<', '>', '\x60']

/-- What a path keeps. -/
def path : Char → Bool := printableBut [' ', '"', '<', '>', '\x60', '#', '?', '\x7b', '\x7d']

/-- What a user name or a password keeps. -/
def userinfo : Char → Bool :=
  printableBut [' ', '"', '<', '>', '\x60', '#', '?', '\x7b', '\x7d', '/', ':', ';', '=', '@', '[',
    '\\', ']', '^', '|']

/-- What a query keeps. -/
def query : Char → Bool := printableBut [' ', '"', '#', '<', '>']

/-- What a query keeps in an address of a special scheme. -/
def specialQuery : Char → Bool := printableBut [' ', '"', '#', '<', '>', '\'']

end ConversationMemory.Percent
