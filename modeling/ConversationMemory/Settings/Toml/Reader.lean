import ConversationMemory.Settings.Toml.Fault

/-!
# Readers

A reader takes something from the front of a text and leaves the rest, or says what is wrong and
where.

* `Toml.Reader.orElse`: what one reader reads, or else what another one does, unless the first fails
  finally.
* `Toml.Reader.maybe`, `Toml.Reader.many`, `Toml.Reader.separated`: something once or not at all,
  several times, or with a mark between.
* `Toml.Reader.named`, `Toml.Reader.expecting`, `Toml.Reader.commit`: what a failure says.
* `Toml.Reader.convert`: what has been read as a value, if it is one.
-/

namespace ConversationMemory.Toml

/-- Takes something from the front of a text. -/
abbrev Reader (α : Type) := StateT (List Char) (Except Fault) α

namespace Reader

variable {α β σ : Type}

/-! ## Failing -/

/-- Fails where it stands. -/
def fail : Reader α := fun cs => .error { rest := cs }

/-- Fails where it stands, for a cause. -/
def refuse (cause : Cause) : Reader α := fun cs => .error { rest := cs, cause := some cause }

/-- Says what is being read. -/
def named (what : String) (read : Reader α) : Reader α :=
  fun cs => (read cs).mapError (·.named what)

/-- Says what could stand where the reader fails. -/
def expecting (what : List String) (read : Reader α) : Reader α :=
  fun cs => (read cs).mapError (·.expecting what)

/-- Leaves nothing else to try. -/
def commit (read : Reader α) : Reader α := fun cs => (read cs).mapError Fault.committed

/-- What has been read as a value; if it is none, it is wrong from its beginning on. -/
def convert (read : Reader α) (f : α → Except Cause β) : Reader β := fun cs => do
  let (a, rest) ← read cs
  match f a with
  | .ok b => .ok (b, rest)
  | .error cause => refuse cause cs

/-- What has been read, if it has a property; otherwise it is wrong from its beginning on. -/
def ensure (read : Reader α) (p : α → Bool) : Reader α := fun cs => do
  let (a, rest) ← read cs
  if p a then .ok (a, rest) else fail cs

/-! ## Characters -/

/-- One character with a property. -/
def char (p : Char → Bool) : Reader Char
  | [] => fail []
  | c :: rest => if p c then .ok (c, rest) else fail (c :: rest)

/-- One character, whichever it is. -/
def any : Reader Char := char fun _ => true

/-- A word. -/
def word (w : String) : Reader Unit := fun cs =>
  if w.toList.isPrefixOf cs then .ok ((), cs.drop w.length) else fail cs

/-- A mark. -/
def mark (c : Char) : Reader Unit := discard (char (· == c))

/-- The characters with a property, as many as there are. -/
def run (p : Char → Bool) : Reader (List Char) := fun cs => .ok (cs.span p)

/-- The characters with a property, at least one. -/
def run1 (p : Char → Bool) : Reader (List Char) := (run p).ensure (!·.isEmpty)

/-- So many characters with a property. -/
def exactly (count : Nat) (p : Char → Bool) : Reader (List Char) := fun cs =>
  let taken := cs.take count
  if taken.length = count ∧ taken.all p then .ok (taken, cs.drop count) else fail cs

/-- The next character, which stays. -/
def next : Reader (Option Char) := fun cs => .ok (cs.head?, cs)

/-- Checks that something follows, which stays. -/
def ahead (read : Reader α) : Reader Unit := fun cs =>
  match read cs with
  | .ok _ => .ok ((), cs)
  | .error fault => .error { fault with rest := cs }

/-- The end of the text. -/
def ended : Reader Unit
  | [] => .ok ((), [])
  | cs => fail cs

/-! ## Choices and repetitions -/

/-- What the first reader reads, or else what the second one reads. -/
def orElse (read other : Reader α) : Reader α := fun cs =>
  match read cs with
  | .ok result => .ok result
  | .error fault => if fault.final then .error fault else other cs

/-- What a reader reads, or nothing. -/
def maybe (read : Reader α) : Reader (Option α) := orElse (some <$> read) (pure none)

/-- Goes on from a value as long as there is more to read, in no more steps than a list is long. -/
def iterate (step : σ → Reader σ) : List Char → σ → Reader σ
  | [], s => pure s
  | _ :: bound, s => fun cs =>
    match step s cs with
    | .ok (s, rest) => iterate step bound s rest
    | .error fault => if fault.final then .error fault else .ok (s, cs)

/-- Goes on from a value as long as there is more to read. A step takes at least one character. -/
def repeating (step : σ → Reader σ) (s : σ) : Reader σ := fun cs => iterate step (' ' :: cs) s cs

/-- As much as there is. -/
def many (read : Reader α) : Reader (List α) :=
  List.reverse <$> repeating (fun read? => (· :: read?) <$> read) []

/-- At least one, with a mark between each two. -/
def separated (read : Reader α) (c : Char) : Reader (α × List α) := do
  return (← read, ← many (mark c *> read))

end Reader

end ConversationMemory.Toml
