import ConversationMemory.Settings.Given
import ConversationMemory.Settings.Path
import ConversationMemory.Table

/-!
# Settings in layers

A setting counts as the last source that names it gives it.

* `Setting`: what the sources laid so far have set under a name. `Origin`: the source that a value
  is from.
* `Setting.lay`: lays a value over what stands in its place. `Setting.layAt`: lays it over what
  stands at the end of a path. `Setting.laySource`: lays a whole source.

Names of settings are made of ASCII letters; their case does not matter.
-/

namespace ConversationMemory

/-- The source that a value is from. -/
inductive Origin
  | file (path : String)
  | environment
  deriving DecidableEq, Repr

/-- The source in words. -/
def Origin.describe : Origin → String
  | file path => path
  | environment => "the environment"

/-- What the sources have set under a name: a value of one of them, a list, or a section. -/
inductive Setting
  | value (given : Given) (origin : Option Origin)
  | list (items : List Setting) (origin : Option Origin)
  | group (entries : List (String × Setting)) (origin : Option Origin)
  deriving Repr, Inhabited

namespace Setting

mutual

/-- A value of a source as a whole. -/
def ofGiven (origin : Option Origin) : Given → Setting
  | .list items => list (ofItems origin items) origin
  | .table entries => group (ofEntries origin entries) origin
  | given => value given origin

/-- The items of a list. -/
def ofItems (origin : Option Origin) : List Given → List Setting
  | [] => []
  | item :: rest => ofGiven origin item :: ofItems origin rest

/-- The entries of a table. -/
def ofEntries (origin : Option Origin) : List (String × Given) → List (String × Setting)
  | [] => []
  | (name, given) :: rest => (name, ofGiven origin given) :: ofEntries origin rest

end

/-! ## Laying one source over others -/

/-- A name without regard to case. -/
def fold (name : String) : String := String.ofList (name.toList.map Char.toLower)

/-- The entries of a section; anything else has none. -/
def entries : Option Setting → Table String Setting
  | some (group entries _) => entries
  | _ => []

/-- A section with other entries, in place of what stands there. -/
def withEntries (entries : Table String Setting) : Option Setting → Setting
  | some (group _ origin) => group entries origin
  | _ => group entries none

mutual

/-- Lays a value over what stands in its place. Of a table each entry goes its own way; one without
entries leaves everything as it is. -/
def lay (origin : Option Origin) : Given → Option Setting → Setting
  | .table [], some below => below
  | .table given, below => withEntries (layAll origin given (entries below)) below
  | given, _ => ofGiven origin given

/-- Lays the entries of a table over those of a section. -/
def layAll (origin : Option Origin) :
    List (String × Given) → Table String Setting → Table String Setting
  | [], below => below
  | (name, given) :: rest, below =>
    layAll origin rest (below.set (fold name) (lay origin given (below.get? (fold name))))

end

/-! ## Along a path -/

/-- The items of a list; anything else has none. -/
def items : Option Setting → List Setting
  | some (list items _) => items
  | _ => []

/-- A list with other items, in place of what stands there. -/
def withItems (items : List Setting) : Option Setting → Setting
  | some (list _ origin) => list items origin
  | _ => list items none

/-- So many settings that say nothing. -/
def gaps (count : Nat) : List Setting := List.replicate count (value .nothing none)

/-- The items of a list that reaches a place, with gaps at its end or its front if need be. -/
def reaching (i : Int) (items : List Setting) : List Setting :=
  if 0 ≤ i then items ++ gaps (i.toNat + 1 - items.length)
  else gaps (i.natAbs - items.length) ++ items

/-- A place counted from the front of a list that reaches it. -/
def fromFront (i : Int) (length : Nat) : Nat := if 0 ≤ i then i.toNat else length - i.natAbs

/-- Changes what stands at the end of a path. On the way sections and lists come about in place of
anything else. -/
def change (f : Option Setting → Setting) : List Step → Option Setting → Setting
  | [], below => f below
  | .name name :: path, below =>
    let old := entries below
    withEntries (old.set (fold name) (change f path (old.get? (fold name)))) below
  | .index i :: path, below =>
    let old := reaching i (items below)
    withItems (old.modify (fromFront i old.length) fun item => change f path (some item)) below

/-- Whether a path ends at a place in a list. -/
def endsInList (path : List Step) : Bool :=
  match path.getLast? with
  | some (.index _) => true
  | _ => false

/-- Lays a value over what stands at the end of a path. In a list it takes the place of the item. -/
def layAt (origin : Option Origin) (given : Given) (path : List Step) (below : Setting) : Setting :=
  change (if endsInList path then fun _ => ofGiven origin given else lay origin given) path
    (some below)

/-- A source whose names are paths, laid over others. -/
def laySource (origin : Option Origin) (source : List (String × Given)) (below : Setting) :
    Setting :=
  source.foldl (fun below entry => layAt origin entry.2 (pathOf entry.1) below) below

end Setting

end ConversationMemory
