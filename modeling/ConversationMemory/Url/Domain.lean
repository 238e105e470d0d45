import ConversationMemory.Text.Composition
import ConversationMemory.Text.Direction
import ConversationMemory.Text.Joining
import ConversationMemory.Text.Unprintable
import ConversationMemory.Url.Domain.Mapping
import ConversationMemory.Url.Punycode

/-!
# Domain names

* `Domain.forbidden`: the characters of ASCII that no name may hold.
* `Domain.mapped?`: the name in the characters and forms that names are compared in.
* `Domain.wellFormed`: labels whose marks and joiners stand where they can be read.
* `Domain.inOrder`: labels that read in the same order however they are written.
* `Domain.ascii?`: the name as it is looked up, in lower case and with other labels than ASCII ones
  in Punycode.
-/

namespace ConversationMemory.Domain

open Text

/-! ## Characters -/

/-- The characters that the other parts of an address need, with blanks and controls. -/
def forbidden (c : Char) : Bool :=
  c.toNat ≤ 0x20 || c.toNat == 0x7F ||
    ['%', '#', '/', ':', '<', '>', '?', '@', '[', '\\', ']', '^', '|'].contains c

/-- The hints that join or separate two letters. -/
def joiner (c : Char) : Bool := c.toNat == 0x200C || c.toNat == 0x200D

/-- Characters that show something and still stand in no name: those with a full stop in them, those
that describe other characters, and the signs for what could not be read. -/
def excluded : Ranges :=
  .ofText "2024-2026 2488-249B 2FF0-2FFF 31EF 33C2 33C7 33D8 FE12 FE19 FE30 FE52 FFFC-FFFD 1F100"

/-- What a character of a name becomes; no name holds a character for which there is nothing. -/
def mapChar (c : Char) : Option (List Char) :=
  if c.toNat < 0x80 then some [c.toLower]
  else
    match Mapping.image? c with
    | some image => some image
    | none => if !joiner c && (isHidden c || excluded.contains c) then none else some [c]

/-- The name with every character mapped, in normal form. -/
def mapped? (name : List Char) : Option (List Char) :=
  (name.mapM mapChar).map fun parts => normalize parts.flatten

/-! ## Joiners -/

/-- Whether the first letter that does not let others join across it has a property. -/
def firstLetter (joins : Char → Bool) : List Char → Bool
  | [] => false
  | c :: rest => joins c || (letsJoin c && firstLetter joins rest)

/-- Whether a joiner may stand between what is before it, the nearest first, and what is after it: a
vowel has been silenced, or two letters are kept apart that would join. -/
def joinerPlaced (c : Char) (before after : List Char) : Bool :=
  match before with
  | [] => false
  | previous :: _ =>
    markClass previous == silencerClass ||
      (c.toNat == 0x200C && firstLetter joinsNext before && firstLetter joinsPrevious after)

/-- Whether all joiners of a label are in their places; `before` is what was read, the last
character first. -/
def joinersPlaced (before : List Char) : List Char → Bool
  | [] => true
  | c :: rest => (!joiner c || joinerPlaced c before rest) && joinersPlaced (c :: before) rest

/-- Whether a label with other characters than ASCII ones can be read by itself. -/
def wellFormed (label : List Char) : Bool :=
  match label with
  | [] => false
  | c :: _ => !isMark c && joinersPlaced [] label && label.length ≤ 1000

/-! ## Directions -/

/-- Whether some part of the label is written from the right. -/
def hasRight (label : List Char) : Bool :=
  label.any fun c => direction c == .right || direction c == .rightDigit

/-- Whether a label that stands beside others written from the right keeps its own order: it begins
with a letter, ends with a letter or digit of the same direction, and holds nothing of the other. -/
def inOrder (label : List Char) : Bool :=
  match label.map direction with
  | [] => true
  | .left :: rest =>
    rest.all (fun d => d == .left || d == .digit || d == .mark || d == .neutral) &&
      ends [.left, .digit] rest
  | .right :: rest =>
    rest.all (· != .left) && !(rest.contains .digit && rest.contains .rightDigit) &&
      ends [.right, .digit, .rightDigit] rest
  | _ => false
where
  /-- Whether the last direction that is not a mark is one of some. -/
  ends (allowed : List Direction) (rest : List Direction) : Bool :=
    ((rest.reverse.dropWhile (· == .mark)).head?.map allowed.contains).getD true

/-! ## Labels and names -/

/-- How a label in Punycode starts. -/
def punycodeMark : List Char := ['x', 'n', '-', '-']

/-- The label that a mapped one stands for: itself, or what it says in Punycode. -/
def readable? (label : List Char) : Option (List Char) :=
  if punycodeMark.isPrefixOf label then
    let form := label.drop punycodeMark.length
    match Punycode.decode? form with
    | none => none
    | some decoded =>
      if form.length ≤ 2000 && form.getLast?.any (· != '-') && mapped? decoded == some decoded &&
          wellFormed decoded then
        some decoded
      else none
  else if label.all (·.toNat < 0x80) || wellFormed label then some label
  else none

/-- The label as it is looked up. -/
def asciiLabel (label : List Char) : List Char :=
  if label.all (·.toNat < 0x80) then label else punycodeMark ++ Punycode.encode label

/-- The name as it is looked up. -/
def ascii? (name : List Char) : Option (List Char) := do
  let mapped ← mapped? name
  if mapped.any forbidden then none
  else
    let labels ← (splitAt (· == '.') mapped).mapM readable?
    if labels.any hasRight && !labels.all inOrder then none
    else return joinWith ['.'] (labels.map asciiLabel)

end ConversationMemory.Domain
