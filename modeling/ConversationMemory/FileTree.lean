import ConversationMemory.Table
import ConversationMemory.Text.Split
import ConversationMemory.Text.Utf8

/-!
# File trees

* `FileTree`: the directories and files in a working directory. `TreePath`: their paths.
* `FileTree.readBytes`, `FileTree.createDirectories`, `FileTree.writeBytes`, `FileTree.rename`:
  operations that may fail with an `IoError`; a failed one leaves every file as it was.
* `FileTree.readText`: reads a file as text, and refuses bytes that are none.
* `FileTree.remove`, `FileTree.listing`: drop a subtree, list everything.
-/

namespace ConversationMemory

/-- Why a file operation fails. -/
inductive IoError
  | notFound
  | notDirectory
  | isDirectory
  | alreadyExists
  | nameTooLong
  | nulInName
  | notText
  | other (text : String)
  deriving DecidableEq, Repr

/-- The error in words, with the number of the system. -/
def IoError.message : IoError → String
  | notFound => "No such file or directory (os error 2)"
  | notDirectory => "Not a directory (os error 20)"
  | isDirectory => "Is a directory (os error 21)"
  | alreadyExists => "File exists (os error 17)"
  | nameTooLong => "File name too long (os error 36)"
  | nulInName => "file name contained an unexpected NUL byte"
  | notText => "stream did not contain valid UTF-8"
  | other text => text

/-- The names on the way from the working directory. Names for what is outside of it may stand in
front: two points for the directory above, a slash for the directory above all. -/
abbrev TreePath := List String

namespace TreePath

/-- The names of a path, without empty ones and those that stay in place. -/
def ofText (text : String) : TreePath :=
  (Text.fieldsAt '/' text).filter fun name => name != "" && name != "."

/-- Whether a name is that of a directory outside. -/
def isOutside (name : String) : Bool := name == ".." || name == "/"

/-- The directory above. -/
def above (path : TreePath) : TreePath :=
  match path.getLast? with
  | some name => if name = "/" then path else if name = ".." then path ++ [".."] else path.dropLast
  | none => [".."]

/-- The path as text. -/
def text : TreePath → String
  | "/" :: names => "/" ++ "/".intercalate names
  | names => "/".intercalate names

end TreePath

/-- What stands at a path. -/
inductive FileEntry
  | directory
  | file (bytes : List UInt8)
  deriving DecidableEq, Repr

/-- The directories and files below a root. -/
structure FileTree where
  entries : Table TreePath FileEntry := []

namespace FileTree

/-- The most bytes a name may have. -/
def nameLimit : Nat := 255

/-- What stands at a path; the working directory and those outside are directories. -/
def get? (tree : FileTree) (path : TreePath) : Option FileEntry :=
  if path.all TreePath.isOutside then some .directory else tree.entries.get? path

/-- Walks the rest of a path from a directory: what stands at its end, if every name on the way is
that of a directory. -/
def walk (tree : FileTree) (reached : TreePath) : TreePath → Except IoError (Option FileEntry)
  | [] => .ok (some .directory)
  | name :: rest =>
    if nameLimit < name.utf8ByteSize then .error .nameTooLong
    else
      match tree.get? (reached ++ [name]), rest with
      | found, [] => .ok found
      | none, _ => .error .notFound
      | some .directory, _ => walk tree (reached ++ [name]) rest
      | some (.file _), _ => .error .notDirectory

/-- What stands at a path. -/
def find (tree : FileTree) (path : TreePath) : Except IoError (Option FileEntry) :=
  if path.any (·.contains '\x00') then .error .nulInName else tree.walk [] path

/-- The bytes of a file. -/
def readBytes (tree : FileTree) (path : TreePath) : Except IoError (List UInt8) :=
  match tree.find path with
  | .error e => .error e
  | .ok none => .error .notFound
  | .ok (some .directory) => .error .isDirectory
  | .ok (some (.file bytes)) => .ok bytes

/-- The text that bytes stand for. -/
def textOf (bytes : List UInt8) : Except IoError String :=
  match Utf8.textOf? bytes with
  | some text => .ok text
  | none => .error .notText

/-- The text of a file. -/
def readText (tree : FileTree) (path : TreePath) : Except IoError String :=
  (tree.readBytes path).bind textOf

/-- Makes the directories that are missing on the way from a directory; those made before a failure
stay. -/
def createFrom (tree : FileTree) (reached : TreePath) : TreePath → Except IoError Unit × FileTree
  | [] => (.ok (), tree)
  | name :: rest =>
    if nameLimit < name.utf8ByteSize then (.error .nameTooLong, tree)
    else
      match tree.get? (reached ++ [name]) with
      | some .directory => createFrom tree (reached ++ [name]) rest
      | some (.file _) => (.error (if rest = [] then .alreadyExists else .notDirectory), tree)
      | none =>
        createFrom ⟨tree.entries.set (reached ++ [name]) .directory⟩ (reached ++ [name]) rest

/-- Makes a directory with all those on the way to it. -/
def createDirectories (tree : FileTree) (path : TreePath) : Except IoError Unit × FileTree :=
  if path.any (·.contains '\x00') then (.error .nulInName, tree) else tree.createFrom [] path

/-- Writes a file in a directory that exists. -/
def writeBytes (tree : FileTree) (path : TreePath) (bytes : List UInt8) :
    Except IoError Unit × FileTree :=
  match tree.find path with
  | .error e => (.error e, tree)
  | .ok (some .directory) => (.error .isDirectory, tree)
  | .ok _ => (.ok (), ⟨tree.entries.set path (.file bytes)⟩)

/-- Gives a file another path, in place of a file that stands there. -/
def rename (tree : FileTree) (path target : TreePath) : Except IoError Unit × FileTree :=
  match tree.find path, tree.find target with
  | .error e, _ => (.error e, tree)
  | .ok none, _ => (.error .notFound, tree)
  | .ok (some .directory), _ => (.error .isDirectory, tree)
  | .ok (some (.file _)), .error e => (.error e, tree)
  | .ok (some (.file _)), .ok (some .directory) => (.error .isDirectory, tree)
  | .ok (some (.file bytes)), .ok _ =>
    (.ok (), ⟨(tree.entries.erase path).set target (.file bytes)⟩)

/-- Whether a path leads through another or ends there. -/
def isBelow (directory path : TreePath) : Bool := directory.isPrefixOf path

/-- The tree without what stands at a path and below it. -/
def remove (tree : FileTree) (path : TreePath) : FileTree :=
  ⟨tree.entries.filter fun entry => !isBelow path entry.1⟩

/-- The paths as text, relative to a directory and sorted, a directory with a slash at its end and
no bytes. -/
def listing (tree : FileTree) (directory : TreePath) : List (String × Option (List UInt8)) :=
  let below := tree.entries.filter fun entry => isBelow directory entry.1 && entry.1 != directory
  let inside := below.map fun (path, entry) => (path.drop directory.length, entry)
  let shown := (inside.filter fun entry => !entry.1.any TreePath.isOutside).map fun (path, entry) =>
    let text := "/".intercalate path
    match entry with
    | .directory => (text ++ "/", none)
    | .file content => (text, some content)
  shown.mergeSort fun a b => a.1 < b.1 || a.1 == b.1

end FileTree

end ConversationMemory
