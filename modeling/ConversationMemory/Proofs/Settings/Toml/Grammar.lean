import ConversationMemory.Proofs.Text.Digits
import ConversationMemory.Settings.Given

/-!
# What a TOML text says

The grammar of TOML, as far as texts go that say tables with strings and whole numbers in them and
no tables below these. It is stated for itself, without regard to how a text is read.

* `Toml.Quoted`: a string in one of its four forms. `Toml.Whole`: a whole number in one of its four
  bases. `Toml.Name`: a name without quotes or with them.
* `Toml.Content`: a value, be it a table in braces.
* `Toml.Lines`: lines one after another, of which each may add an entry. **`Toml.Says`**: a whole
  text.
-/

namespace ConversationMemory.Toml

/-! ## Characters -/

/-- A character that may stand in a line. Of the control characters only the tab may. -/
def Visible (c : Char) : Prop := c = '\t' ∨ (0x20 ≤ c.toNat ∧ c.toNat ≠ 0x7F)

instance (c : Char) : Decidable (Visible c) := by unfold Visible; infer_instance

/-- Blanks within a line. -/
def Blanks (cs : List Char) : Prop := ∀ c ∈ cs, c = ' ' ∨ c = '\t'

instance (cs : List Char) : Decidable (Blanks cs) :=
  List.decidableBAll (fun c => c = ' ' ∨ c = '\t') cs

/-- The end of a line. -/
inductive Newline : List Char → Prop
  | feed : Newline ['\n']
  | returned : Newline ['\r', '\n']

/-- Blanks and ends of lines. -/
inductive Gap : List Char → Prop
  | blanks {bs} (h : Blanks bs) : Gap bs
  | line {bs n g} (h : Blanks bs) (newline : Newline n) (more : Gap g) : Gap (bs ++ (n ++ g))

/-! ## Strings -/

/-- The letters that stand for a character behind a backslash, each with its character. -/
def letters : List (Char × Char) :=
  [('b', '\x08'), ('t', '\t'), ('n', '\n'), ('f', '\x0c'), ('r', '\r'), ('"', '"'), ('\\', '\\')]

/-- What stands for a character: a letter, or the number of the character. -/
inductive Escape : List Char → Char → Prop
  | letter {l c} (known : (l, c) ∈ letters) : Escape ['\\', l] c
  | short {ds c} (four : ds.length = 4) (number : Text.MakesUp 16 ds c.toNat) :
    Escape ('\\' :: 'u' :: ds) c
  | long {ds c} (eight : ds.length = 8) (number : Text.MakesUp 16 ds c.toNat) :
    Escape ('\\' :: 'U' :: ds) c

/-- The inside of a string of one line with escapes, and what it says. -/
inductive Basic : List Char → List Char → Prop
  | nil : Basic [] []
  | plain {c cs said} (visible : Visible c) (noQuote : c ≠ '"') (noEscape : c ≠ '\\')
    (more : Basic cs said) : Basic (c :: cs) (c :: said)
  | escaped {e c cs said} (h : Escape e c) (more : Basic cs said) : Basic (e ++ cs) (c :: said)

/-- A part without quotes of a string of many lines, and what it says. There are escapes between
double quotes only; a backslash at the end of a line joins the lines. -/
inductive Stretch (quote : Char) : List Char → List Char → Prop
  | nil : Stretch quote [] []
  | plain {c cs said} (visible : Visible c) (noQuote : c ≠ quote)
    (noEscape : quote = '"' → c ≠ '\\') (more : Stretch quote cs said) :
    Stretch quote (c :: cs) (c :: said)
  | wrapped {n cs said} (h : Newline n) (more : Stretch quote cs said) :
    Stretch quote (n ++ cs) ('\n' :: said)
  | escaped {e c cs said} (double : quote = '"') (h : Escape e c) (more : Stretch quote cs said) :
    Stretch quote (e ++ cs) (c :: said)
  | joined {bs n g cs said} (double : quote = '"') (blanks : Blanks bs) (newline : Newline n)
    (gap : Gap g) (ends : ∀ c, cs.head? = some c → c ∉ [' ', '\t', '\n', '\r'])
    (more : Stretch quote cs said) : Stretch quote ('\\' :: (bs ++ (n ++ (g ++ cs)))) said

/-- The inside of a string of many lines, and what it says. One or two quotes may stand between its
parts, and up to two at its end. -/
inductive Inside (quote : Char) : List Char → List Char → Prop
  | last {cs said count} (h : Stretch quote cs said) (few : count ≤ 2) :
    Inside quote (cs ++ List.replicate count quote) (said ++ List.replicate count quote)
  | quotes {cs said count c rest more} (h : Stretch quote cs said) (few : count = 1 ∨ count = 2)
    (other : c ≠ quote) (later : Inside quote (c :: rest) more) :
    Inside quote (cs ++ (List.replicate count quote ++ c :: rest))
      (said ++ (List.replicate count quote ++ more))

/-- A string, and the characters that it says. An end of line right at the front of many lines does
not count. -/
inductive Quoted : List Char → List Char → Prop
  | basic {cs said} (h : Basic cs said) : Quoted ('"' :: (cs ++ ['"'])) said
  | literal {cs} (h : ∀ c ∈ cs, Visible c ∧ c ≠ '\'') : Quoted ('\'' :: (cs ++ ['\''])) cs
  | lines {quote n cs said} (known : quote = '"' ∨ quote = '\'')
    (opened : Newline n ∨ n = [] ∧ ∀ c, cs.head? = some c → c ≠ '\n' ∧ c ≠ '\r')
    (h : Inside quote cs said) :
    Quoted (List.replicate 3 quote ++ (n ++ (cs ++ List.replicate 3 quote))) said

/-- A name of a key. -/
inductive Name : List Char → String → Prop
  | bare {cs} (some : cs ≠ []) (h : ∀ c ∈ cs, c.isAlphanum ∨ c = '_' ∨ c = '-') :
    Name cs (.ofList cs)
  | basic {cs said} (h : Basic cs said) : Name ('"' :: (cs ++ ['"'])) (.ofList said)
  | literal {cs} (h : ∀ c ∈ cs, Visible c ∧ c ≠ '\'') : Name ('\'' :: (cs ++ ['\''])) (.ofList cs)

/-! ## Whole numbers -/

/-- Digits, and a text with them in which a single underscore may stand before each. -/
inductive Underscored : List Char → List Char → Prop
  | nil : Underscored [] []
  | digit {d cs ds} (more : Underscored cs ds) : Underscored (d :: cs) (d :: ds)
  | underscore {d cs ds} (more : Underscored cs ds) : Underscored ('_' :: d :: cs) (d :: ds)

/-- A natural number in decimal. A zero at the front stands alone. -/
inductive Decimal : List Char → Nat → Prop
  | zero : Decimal ['0'] 0
  | digits {d cs ds n} (leading : d ≠ '0') (more : Underscored cs ds)
    (number : Text.MakesUp 10 (d :: ds) n) : Decimal (d :: cs) n

/-- A sign, or none, and whether it is a minus. -/
inductive Sign : List Char → Bool → Prop
  | none : Sign [] false
  | plus : Sign ['+'] false
  | minus : Sign ['-'] true

/-- The letters of the bases other than ten. -/
def bases : List (Char × Nat) := [('x', 16), ('o', 8), ('b', 2)]

/-- A whole number. Only those in decimal have signs. -/
inductive Whole : List Char → Int → Prop
  | decimal {s negative cs} {n : Nat} (sign : Sign s negative) (h : Decimal cs n) :
    Whole (s ++ cs) (if negative then -n else n)
  | based {l base d cs ds n} (known : (l, base) ∈ bases) (more : Underscored cs ds)
    (number : Text.MakesUp base (d :: ds) n) : Whole ('0' :: l :: d :: cs) n

/-! ## Values -/

/-- A string or a whole number of 64 bits. -/
inductive Scalar : List Char → Given → Prop
  | string {cs said} (h : Quoted cs said) : Scalar cs (.text (.ofList said))
  | whole {cs} {i : Int} (h : Whole cs i) (low : -2 ^ 63 ≤ i) (high : i < 2 ^ 63) :
    Scalar cs (.integer i)

/-- A name of a key with blanks around it. -/
inductive Spaced : List Char → String → Prop
  | mk {a cs b n} (front : Blanks a) (h : Name cs n) (behind : Blanks b) : Spaced (a ++ (cs ++ b)) n

/-- The parts of a table in braces: names with their values, and commas between them. -/
inductive Parts : List Char → List (String × Given) → Prop
  | last {key n a cs g b} (name : Spaced key n) (front : Blanks a) (value : Scalar cs g)
    (behind : Blanks b) : Parts (key ++ '=' :: (a ++ (cs ++ b))) [(n, g)]
  | cons {key n a cs g b rest parts} (name : Spaced key n) (front : Blanks a) (value : Scalar cs g)
    (behind : Blanks b) (more : Parts rest parts) :
    Parts (key ++ '=' :: (a ++ (cs ++ (b ++ ',' :: rest)))) ((n, g) :: parts)

/-- A value: a string, a whole number, or a table in braces. -/
inductive Content : List Char → Given → Prop
  | scalar {cs g} (h : Scalar cs g) : Content cs g
  | empty {a} (blank : Blanks a) : Content ('\x7b' :: (a ++ ['\x7d'])) (.table [])
  | parts {cs parts} (h : Parts cs parts) : Content ('\x7b' :: (cs ++ ['\x7d'])) (.table parts)

/-! ## Lines -/

/-- A comment, or nothing. -/
inductive Comment : List Char → Prop
  | absent : Comment []
  | marked {cs} (h : ∀ c ∈ cs, Visible c) : Comment ('#' :: cs)

/-- What may stand behind all else in a line, in front of the rest of the text. The last line need
not end. -/
inductive Trail (rest : List Char) : List Char → Prop
  | ended {a c n} (blank : Blanks a) (comment : Comment c) (h : Newline n) :
    Trail rest (a ++ (c ++ n))
  | last {a c} (blank : Blanks a) (comment : Comment c) (none : rest = []) : Trail rest (a ++ c)

/-- The tables so far. -/
structure Tables where
  /-- The names of those that are complete or have a header, and of values that are none. -/
  names : List String := []
  /-- The names of those that have come about by keys with a point. -/
  dotted : List String := []
  /-- The one whose header stands above. -/
  header : Option String := none

/-- A name without a table or a value. -/
def Tables.IsFree (tables : Tables) (name : String) : Prop :=
  name ∉ tables.names ∧ name ∉ tables.dotted

/-- Lines, after others with the tables so far, and the entries that they add, each in a table of
its own unless it belongs to none. -/
inductive Lines : Tables → List Char → List (String × Given) → Prop
  | nil {tables} : Lines tables [] []
  | empty {tables tail rest entries} (trail : Trail rest tail) (more : Lines tables rest entries) :
    Lines tables (tail ++ rest) entries
  | header {tables a key n tail rest entries} (blank : Blanks a) (name : Spaced key n)
    (free : tables.IsFree n) (trail : Trail rest tail)
    (more : Lines { tables with names := n :: tables.names, header := some n } rest entries) :
    Lines tables (a ++ '[' :: (key ++ ']' :: (tail ++ rest))) ((n, .table []) :: entries)
  | part {tables : Tables} {above key n a cs g tail rest entries}
    (under : tables.header = some above) (name : Spaced key n) (blank : Blanks a)
    (value : Scalar cs g) (trail : Trail rest tail) (more : Lines tables rest entries) :
    Lines tables (key ++ '=' :: (a ++ (cs ++ (tail ++ rest))))
      ((above, .table [(n, g)]) :: entries)
  | value {tables : Tables} {key n a cs g tail rest entries} (root : tables.header = none)
    (name : Spaced key n) (free : tables.IsFree n) (blank : Blanks a) (value : Content cs g)
    (trail : Trail rest tail)
    (more : Lines { tables with names := n :: tables.names } rest entries) :
    Lines tables (key ++ '=' :: (a ++ (cs ++ (tail ++ rest)))) ((n, g) :: entries)
  | dotted {tables : Tables} {key s key' n a cs g tail rest entries} (root : tables.header = none)
    (table : Spaced key s) (other : s ∉ tables.names) (name : Spaced key' n) (blank : Blanks a)
    (value : Scalar cs g) (trail : Trail rest tail)
    (more : Lines { tables with dotted := s :: tables.dotted } rest entries) :
    Lines tables (key ++ '.' :: (key' ++ '=' :: (a ++ (cs ++ (tail ++ rest)))))
      ((s, .table [(n, g)]) :: entries)

/-- A text, with a mark of the byte order at its front or without, and the entries that it says. -/
inductive Says : List Char → List (String × Given) → Prop
  | plain {cs entries} (h : Lines {} cs entries) : Says cs entries
  | marked {cs entries} (h : Lines {} cs entries) : Says ('\ufeff' :: cs) entries

/-! ## Plain spellings -/

theorem blanks_nil : Blanks [] := by decide

theorem blanks_space : Blanks [' '] := by decide

theorem Spaced.bare (name : String) {behind : List Char}
    (nonempty : name.toList ≠ [])
    (letters : name.toList.all (fun c => c.isAlphanum || c == '_' || c == '-') = true)
    (blank : Blanks behind) : Spaced (name.toList ++ behind) name := by
  have bare : Name name.toList (.ofList name.toList) :=
    .bare nonempty (by simpa [or_assoc] using letters)
  rw [String.ofList_toList] at bare
  exact .mk (a := []) blanks_nil bare blank

theorem Basic.plainly {cs : List Char} (letters : ∀ c ∈ cs, Visible c ∧ c ≠ '"' ∧ c ≠ '\\') :
    Basic cs cs := by
  induction cs with
  | nil => exact .nil
  | cons c cs ih =>
    obtain ⟨visible, noQuote, noEscape⟩ := letters c List.mem_cons_self
    exact .plain visible noQuote noEscape (ih fun c mem => letters c (List.mem_cons_of_mem _ mem))

theorem Scalar.plainly (text : String)
    (letters : text.toList.all (fun c => Visible c ∧ c ≠ '"' ∧ c ≠ '\\') = true) :
    Scalar ('"' :: (text.toList ++ ['"'])) (.text text) := by
  have basic := Basic.plainly fun c hc => of_decide_eq_true (List.all_eq_true.1 letters c hc)
  have quoted := Scalar.string (.basic basic)
  rwa [String.ofList_toList] at quoted

theorem Trail.feed (rest : List Char) : Trail rest ['\n'] :=
  .ended (a := []) blanks_nil .absent .feed

end ConversationMemory.Toml
