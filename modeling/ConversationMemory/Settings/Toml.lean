import ConversationMemory.Settings.Toml.Value

/-!
# TOML texts

* `Toml.line`: a header, a key with its value, a comment, or nothing, with the end of the line.
* `Toml.parse`: the entries of a whole text.
-/

namespace ConversationMemory.Toml

open Reader

/-- The tables of a text so far, and the header under which the next keys stand. -/
structure Document where
  nodes : Nodes := []
  header : List String := []

/-! ## Lines -/

/-- A header between brackets, which changes the tables. -/
def headerIn (opening closing : String) (change : Nodes → Key → Except Clash Nodes)
    (document : Document) : Reader Document :=
  convert
    (do
      word opening
      let key ← key.commit
      (word closing).commit.expecting ["`.`", "`" ++ closing ++ "`"]
      restOfLine.commit.expecting afterAll
      return key)
    fun key =>
      ((change document.nodes key).map (⟨·, key.first :: key.rest⟩)).mapError .clash

/-- A header. -/
def header (document : Document) : Reader Document :=
  Reader.named "table header" fun cs =>
    match cs with
    | ['['] => fail cs
    | '[' :: '[' :: _ => headerIn "[[" "]]" Nodes.openItem document cs
    | _ => headerIn "[" "]" Nodes.openTable document cs

/-- A key with its value, which belongs to the last header. -/
def pair (document : Document) : Reader Document :=
  convert
    (do
      let key ← key
      commit do
        equals
        spaces
        let value ← value depth
        restOfLine.expecting afterAll
        return (key, value))
    fun (key, value) =>
      ((document.nodes.assign document.header key value).map
        ({ document with nodes := · })).mapError .clash

/-- One line. -/
def line (document : Document) : Reader Document := do
  match ← next with
  | none => fail
  | some '#' => (comment *> lineEnd).commit *> pure document
  | some '[' => (header document).commit
  | some '\n' | some '\r' => newline *> pure document
  | some _ => (pair document).commit

/-- All lines, after a mark of the byte order if there is one. -/
def lines : Reader Document := do
  discard (mark '\ufeff').maybe
  spaces
  let document ← repeating (fun document => line document <* spaces) {}
  ended
  return document

/-! ## Texts -/

/-- The entries of a text, or what is wrong with it. -/
def parse (text : String) : Except String (List (String × Given)) :=
  match lines text.toList with
  | .ok (document, _) => .ok (givenEntries document.nodes)
  | .error fault => .error (fault.message text)

end ConversationMemory.Toml
