import ConversationMemory.Settings.Given
import ConversationMemory.Settings.Toml.Fault
import ConversationMemory.Settings.Toml.Text

/-!
# TOML tables under construction

A text names its tables in headers and in dotted keys, in any order but each only once.

* `Toml.Node`: what stands under a key. `Toml.Form`: how a table has come about.
* `Toml.Nodes.openTable`, `Toml.Nodes.openItem`: a header has been read. `Toml.Nodes.assign`,
  `Toml.Nodes.assignInBraces`: a key has been given a value.
-/

namespace ConversationMemory.Toml

/-- A value and its kind. -/
structure Value where
  kind : Kind
  given : Given

/-- How a table has come about. -/
inductive Form
  /-- By a header of its own. -/
  | header
  /-- By a header that is longer. -/
  | implied
  /-- By a dotted key. -/
  | dotted
  deriving DecidableEq, Repr

/-- What stands under a key. Of a list of tables only the last one can still grow. -/
inductive Node
  | value (value : Value)
  | table (form : Form) (entries : List (String × Node))
  | tables (earlier : List (List (String × Node))) (last : List (String × Node))

/-- The entries of a table under construction. -/
abbrev Nodes := List (String × Node)

namespace Nodes

/-- The entries with a node for a key, in place of the one it had or at the end. -/
def put (nodes : Nodes) (key : String) (node : Node) : Nodes :=
  match nodes with
  | [] => [(key, node)]
  | (other, old) :: rest =>
    if other = key then (key, node) :: rest else (other, old) :: put rest key node

/-- Goes down a path, on which tables that are missing come about in a form, and changes the table
at its end. A dotted key does not lead through a table with a header of its own. -/
def change (form : Form) (passed : List String) (f : Nodes → Except Clash Nodes) (nodes : Nodes) :
    List String → Except Clash Nodes
  | [] => f nodes
  | key :: path => do
    let below (entries : Nodes) : Except Clash Nodes := change form (passed ++ [key]) f entries path
    match nodes.lookup key with
    | none => return nodes.put key (.table form (← below []))
    | some (.table old entries) =>
      if form = .dotted ∧ old = .header then .error (.usedKey key none)
      else return nodes.put key (.table old (← below entries))
    | some (.tables earlier last) => return nodes.put key (.tables earlier (← below last))
    | some (.value value) => .error (.noTable (passed ++ [key]) value.kind)

/-- A header of a table. -/
def openTable (nodes : Nodes) (key : Key) : Except Clash Nodes :=
  change .implied [] (fun entries =>
    match entries.lookup key.last with
    | none => .ok (entries.put key.last (.table .header []))
    | some (.table .implied inner) => .ok (entries.put key.last (.table .header inner))
    | some _ => .error (.usedHeader key.last key.path)) nodes key.path

/-- A header of one more table in a list. -/
def openItem (nodes : Nodes) (key : Key) : Except Clash Nodes :=
  change .implied [] (fun entries =>
    match entries.lookup key.last with
    | none => .ok (entries.put key.last (.tables [] []))
    | some (.tables earlier last) => .ok (entries.put key.last (.tables (earlier ++ [last]) []))
    | some _ => .error (.usedHeader key.last key.path)) nodes key.path

/-- Whether the table at the end of a path has come about by a dotted key; the empty path ends where
it starts, which no dotted key has made. -/
def endsDotted (nodes : Nodes) : List String → Bool
  | [] => false
  | key :: path =>
    match nodes.lookup key with
    | none => true
    | some (.table form entries) => if path = [] then form = .dotted else endsDotted entries path
    | some (.tables _ last) => if path = [] then false else endsDotted last path
    | some (.value _) => false

/-- Gives a dotted key a value, in a table that is named so. -/
def assignIn (table : Option (List String)) (nodes : Nodes) (key : Key) (value : Value) :
    Except Clash Nodes :=
  change .dotted [] (fun entries =>
    if key.path ≠ [] ∧ !nodes.endsDotted key.path then .error (.usedKey key.last none)
    else if (entries.lookup key.last).isSome then .error (.usedKey key.last table)
    else .ok (entries.put key.last (.value value))) nodes key.path

/-- Gives a dotted key a value in the table of the last header. -/
def assign (nodes : Nodes) (header : List String) (key : Key) (value : Value) :
    Except Clash Nodes :=
  change .implied [] (fun entries => entries.assignIn (some header) key value) nodes header

/-- In braces a path through a table in braces uses its key again. -/
def inBraces : Clash → Clash
  | .noTable path .inlineTable => .usedKey (path.getLastD "") none
  | clash => clash

/-- Gives a dotted key a value in a table in braces. -/
def assignInBraces (nodes : Nodes) (key : Key) (value : Value) : Except Clash Nodes :=
  (nodes.assignIn none key value).mapError inBraces

end Nodes

mutual

/-- The finished value of a node. -/
def Node.given : Node → Given
  | .value value => value.given
  | .table _ entries => .table (givenEntries entries)
  | .tables earlier last => .list (givenTables earlier ++ [.table (givenEntries last)])

/-- The finished entries. -/
def givenEntries : List (String × Node) → List (String × Given)
  | [] => []
  | (key, node) :: rest => (key, node.given) :: givenEntries rest

/-- The finished tables of a list. -/
def givenTables : List (List (String × Node)) → List Given
  | [] => []
  | entries :: rest => .table (givenEntries entries) :: givenTables rest

end

end ConversationMemory.Toml
