import ConversationMemory.FileTree

/-!
# Paths as they are written

A written path leads through a tree name by name: an empty name and a point stay in place, two
points lead to the directory above, and what comes before a slash must be a directory.

* `WrittenPath.find`: where a path leads, and what stands there. `WrittenPath.readBytes`,
  `WrittenPath.readText` read it.
* `WrittenPath.parent?`: the path without its last step.
* `WrittenPath.makeAll`: makes the directories that are missing on the way.
-/

namespace ConversationMemory

/-- A path as it is written: what stands between the slashes. -/
structure WrittenPath where
  names : List String
  deriving DecidableEq, Repr

namespace WrittenPath

/-- The path in a text. -/
def ofText (text : String) : WrittenPath := ⟨Text.fieldsAt '/' text⟩

/-- The path as text. -/
def text (path : WrittenPath) : String := "/".intercalate path.names

/-- The path with a further name. -/
def join (path : WrittenPath) (name : String) : WrittenPath :=
  ⟨(if path.names.getLast? = some "" then path.names.dropLast else path.names) ++ [name]⟩

/-- A path that is written from a place in the tree. -/
def below (place : TreePath) (path : WrittenPath) : WrittenPath :=
  ⟨place.map (fun name => if name = "/" then "" else name) ++ path.names⟩

/-! ## Steps -/

/-- The least number of bytes that is too many for a path. -/
def limit : Nat := 4096

/-- Whether a name stays in place. -/
def stays (name : String) : Bool := name == "" || name == "."

/-- Whether a name is a step to something of this name. -/
def isProper (name : String) : Bool := !stays name && name != ".."

/-- Whether the path begins at the directory above all. -/
def isAbsolute (path : WrittenPath) : Bool := 1 < path.names.length && path.names.head? == some ""

/-- Where the path begins. -/
def start (path : WrittenPath) : TreePath := if path.isAbsolute then ["/"] else []

/-- Follows names from a place; each must lead to a directory. -/
def follow (tree : FileTree) (place : TreePath) : List String → Except IoError TreePath
  | [] => .ok place
  | name :: rest =>
    if stays name then follow tree place rest
    else if name = ".." then follow tree place.above rest
    else if FileTree.nameLimit < name.utf8ByteSize then .error .nameTooLong
    else
      match tree.get? (place ++ [name]) with
      | none => .error .notFound
      | some (.file _) => .error .notDirectory
      | some .directory => follow tree (place ++ [name]) rest

/-- The places on the way and at the end, as far as nothing is missing. -/
def places (path : WrittenPath) : List TreePath :=
  let step (place : TreePath) (name : String) : TreePath :=
    if stays name then place else if name = ".." then place.above else place ++ [name]
  (List.range (path.names.length + 1)).map fun n => (path.names.take n).foldl step path.start

/-- What keeps a path from being followed at all. -/
def refusal? (path : WrittenPath) : Option IoError :=
  if path.text = "" then some .notFound
  else if path.text.contains '\x00' then some .nulInName
  else if limit ≤ path.text.utf8ByteSize then some .nameTooLong
  else none

/-- Where the path leads if everything on the way and at its end is a directory. -/
def directory (tree : FileTree) (path : WrittenPath) : Except IoError TreePath :=
  follow tree path.start path.names

/-- Where the path leads, and what stands there. Only the last name may be that of a file, or of
nothing. -/
def find (tree : FileTree) (path : WrittenPath) :
    Except IoError (TreePath × Option FileEntry) := do
  if let some e := path.refusal? then throw e
  let name := path.names.getLastD ""
  if isProper name then
    let above ← follow tree path.start path.names.dropLast
    if FileTree.nameLimit < name.utf8ByteSize then throw .nameTooLong
    return (above ++ [name], tree.get? (above ++ [name]))
  else return (← path.directory tree, some .directory)

/-- The bytes of the file at the path. -/
def readBytes (tree : FileTree) (path : WrittenPath) : Except IoError (List UInt8) := do
  match ← path.find tree with
  | (_, none) => throw .notFound
  | (_, some .directory) => throw .isDirectory
  | (_, some (.file bytes)) => return bytes

/-- The text of the file at the path. -/
def readText (tree : FileTree) (path : WrittenPath) : Except IoError String :=
  (path.readBytes tree).bind FileTree.textOf

/-- The path without slashes at its end. -/
def withoutSlashes (path : WrittenPath) : WrittenPath :=
  ⟨(path.names.reverse.dropWhile (· == "")).reverse⟩

/-- Writes the file at the path. Only a directory has a slash at its end. -/
def writeBytes (tree : FileTree) (path : WrittenPath) (bytes : List UInt8) :
    Except IoError Unit × FileTree :=
  match path.withoutSlashes.find tree with
  | .error e => (.error e, tree)
  | .ok (place, _) =>
    if path.names.getLast? = some "" then (.error .isDirectory, tree)
    else tree.writeBytes place bytes

/-! ## Directories -/

/-- The names of a path without those at its end that stay in place; the first one of all counts. -/
def trimmed : List String → List String
  | [] => []
  | first :: rest => first :: (rest.reverse.dropWhile stays).reverse

/-- The path without its last step. -/
def parent? (path : WrittenPath) : Option WrittenPath :=
  match trimmed path.names with
  | [] | [""] => none
  | [_] => some (ofText "")
  | names =>
    match trimmed names.dropLast with
    | [""] => some (ofText "/")
    | names => some ⟨names⟩

/-- Makes the directories that are missing from a place on. A point at the end of a path does not go
with a directory that is still to be made. Once a directory has been made, a file in the way counts
as the directory that is to be made next. -/
def makeFrom (tree : FileTree) (place : TreePath) (made : Bool) :
    List String → Except IoError Unit × FileTree
  | [] => (.ok (), tree)
  | name :: rest =>
    if stays name then makeFrom tree place made rest
    else if name = ".." then makeFrom tree place.above made rest
    else if FileTree.nameLimit < name.utf8ByteSize then (.error .nameTooLong, tree)
    else
      let isLast := rest.all (· == "")
      let ends := rest.all stays
      match tree.get? (place ++ [name]) with
      | some .directory => makeFrom tree (place ++ [name]) made rest
      | some (.file _) =>
        (.error (if isLast || (made && !ends) then .alreadyExists else .notDirectory), tree)
      | none =>
        if ends && !isLast then (.error .notFound, tree)
        else makeFrom ⟨tree.entries.set (place ++ [name]) .directory⟩ (place ++ [name]) true rest

/-- Makes the directory at the path with all those on the way to it. Those made before a failure
stay. The empty path needs none. -/
def makeAll (tree : FileTree) (path : WrittenPath) : Except IoError Unit × FileTree :=
  if path.text = "" then (.ok (), tree)
  else
    match path.refusal? with
    | some e => (.error e, tree)
    | none => makeFrom tree path.start false path.names

end WrittenPath

end ConversationMemory
