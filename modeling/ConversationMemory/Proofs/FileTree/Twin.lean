import ConversationMemory.Proofs.FileTree.View

/-!
# Two file trees side by side

* `FileTree.Comparison`: in what the entries at a path may differ. A path is `Plain` when the
  directories on the way to it may not differ at all.
* `find_alike`, `createDirectories_alike`, `writeBytes_alike`, `rename_alike`: operations on trees
  that are alike end alike.
-/

namespace ConversationMemory.FileTree

/-- In what two trees may differ at each path: never in whether there is a directory. -/
structure Comparison where
  alike : TreePath → Option FileEntry → Option FileEntry → Prop
  refl : ∀ path entry, alike path entry entry
  directory : ∀ {path entry entry'}, alike path entry entry' →
    (entry = some .directory ↔ entry' = some .directory)

namespace Comparison

variable {c : Comparison} {t u : FileTree} {reached names path : TreePath} {last : String}

/-- The trees differ in nothing but what they may. -/
def Holds (c : Comparison) (t u : FileTree) : Prop := ∀ path, c.alike path (t.get? path) (u.get? path)

/-- Nothing may differ on the way along the names. -/
def Plain (c : Comparison) (reached names : TreePath) : Prop :=
  ∀ q, q ≠ [] → q <+: names → ∀ entry entry', c.alike (reached ++ q) entry entry' → entry = entry'

theorem Plain.get? (plain : c.Plain [] names) (h : c.Holds t u) :
    ∀ q, q ≠ [] → q <+: names → t.get? q = u.get? q :=
  fun q hq hprefix => plain q hq hprefix _ _ (h q)

theorem Plain.tail {name : String} {rest : TreePath} (plain : c.Plain reached (name :: rest)) :
    c.Plain (reached ++ [name]) rest := by
  intro q hq hprefix entry entry' h
  refine plain (name :: q) (by simp) ((List.prefix_cons_inj name).2 hprefix) entry entry' ?_
  simpa using h

theorem Holds.set (h : c.Holds t u) (inside : IsInside path) {entry entry' : FileEntry}
    (same : c.alike path (some entry) (some entry')) :
    c.Holds ⟨t.entries.set path entry⟩ ⟨u.entries.set path entry'⟩ := by
  intro p
  rw [get?_set inside, get?_set inside]
  by_cases hp : p = path
  · rw [if_pos hp, if_pos hp, hp]
    exact same
  · rw [if_neg hp, if_neg hp]
    exact h p

theorem Holds.erase (h : c.Holds t u) (inside : IsInside path) :
    c.Holds ⟨t.entries.erase path⟩ ⟨u.entries.erase path⟩ := by
  intro p
  rw [get?_erase inside, get?_erase inside]
  by_cases hp : p = path
  · rw [if_pos hp, if_pos hp]
    exact c.refl p none
  · rw [if_neg hp, if_neg hp]
    exact h p

theorem find_alike (h : c.Holds t u) (plain : c.Plain [] names) (last : String) :
    (∃ e, t.find (names ++ [last]) = .error e ∧ u.find (names ++ [last]) = .error e) ∨
      ∃ entry entry', t.find (names ++ [last]) = .ok entry ∧
        u.find (names ++ [last]) = .ok entry' ∧ c.alike (names ++ [last]) entry entry' := by
  rcases find_pair names last (plain.get? h) with ⟨e, ht, hu⟩ | ⟨ht, hu⟩
  · exact .inl ⟨e, ht, hu⟩
  · exact .inr ⟨_, _, ht, hu, h _⟩

theorem createFrom_alike (h : c.Holds t u) (plain : c.Plain reached names) :
    (t.createFrom reached names).1 = (u.createFrom reached names).1 ∧
      c.Holds (t.createFrom reached names).2 (u.createFrom reached names).2 := by
  induction names generalizing t u reached with
  | nil => exact ⟨rfl, h⟩
  | cons name rest ih =>
    have here : t.get? (reached ++ [name]) = u.get? (reached ++ [name]) :=
      plain [name] (by simp) ⟨rest, rfl⟩ _ _ (h _)
    rw [createFrom, createFrom, here]
    split
    · exact ⟨rfl, h⟩
    · cases hget : u.get? (reached ++ [name]) with
      | none =>
        exact ih (h.set (isInside_of_free hget) (c.refl _ _)) plain.tail
      | some entry =>
        cases entry with
        | file bytes => exact ⟨rfl, h⟩
        | directory => exact ih h plain.tail

theorem createDirectories_alike (h : c.Holds t u) (plain : c.Plain [] names) :
    (t.createDirectories names).1 = (u.createDirectories names).1 ∧
      c.Holds (t.createDirectories names).2 (u.createDirectories names).2 := by
  rw [createDirectories, createDirectories]
  split
  · exact ⟨rfl, h⟩
  · exact createFrom_alike h plain

theorem writeBytes_alike (h : c.Holds t u) (plain : c.Plain [] names) {bytes bytes' : List UInt8}
    (same : c.alike (names ++ [last]) (some (.file bytes)) (some (.file bytes'))) :
    (t.writeBytes (names ++ [last]) bytes).1 = (u.writeBytes (names ++ [last]) bytes').1 ∧
      c.Holds (t.writeBytes (names ++ [last]) bytes).2 (u.writeBytes (names ++ [last]) bytes').2 := by
  rcases find_pair names last (plain.get? h) with ⟨e, ht, hu⟩ | ⟨ht, hu⟩
  · rw [writeBytes_error ht, writeBytes_error hu]
    exact ⟨rfl, h⟩
  · have here := c.directory (h (names ++ [last]))
    by_cases hdirectory : t.get? (names ++ [last]) = some .directory
    · rw [hdirectory] at ht
      rw [here.1 hdirectory] at hu
      rw [writeBytes_directory ht, writeBytes_directory hu]
      exact ⟨rfl, h⟩
    · rw [writeBytes_ok ht hdirectory, writeBytes_ok hu fun heq => hdirectory (here.2 heq)]
      exact ⟨rfl, h.set (isInside_of_get? hdirectory) same⟩

theorem rename_alike (h : c.Holds t u) (plain : c.Plain [] names) {above : TreePath}
    {name : String} (plain' : c.Plain [] above) {bytes bytes' : List UInt8}
    (ht : t.get? (names ++ [last]) = some (.file bytes))
    (hu : u.get? (names ++ [last]) = some (.file bytes'))
    (same : c.alike (above ++ [name]) (some (.file bytes)) (some (.file bytes'))) :
    (t.rename (names ++ [last]) (above ++ [name])).1 =
        (u.rename (names ++ [last]) (above ++ [name])).1 ∧
      c.Holds (t.rename (names ++ [last]) (above ++ [name])).2
        (u.rename (names ++ [last]) (above ++ [name])).2 := by
  have file : t.get? (names ++ [last]) ≠ some .directory := by
    rw [ht]
    intro h
    cases h
  have inside := isInside_of_get? file
  rcases find_pair names last (plain.get? h) with ⟨e, hfind, hfind'⟩ | ⟨hfind, hfind'⟩
  · rw [rename, rename, hfind, hfind']
    exact ⟨rfl, h⟩
  · rw [ht] at hfind
    rw [hu] at hfind'
    rcases find_pair above name (plain'.get? h) with ⟨e, goal, goal'⟩ | ⟨goal, goal'⟩
    · rw [rename_error hfind goal, rename_error hfind' goal']
      exact ⟨rfl, h⟩
    · have here := c.directory (h (above ++ [name]))
      by_cases hdirectory : t.get? (above ++ [name]) = some .directory
      · rw [hdirectory] at goal
        rw [here.1 hdirectory] at goal'
        rw [rename_directory hfind goal, rename_directory hfind' goal']
        exact ⟨rfl, h⟩
      · rw [rename_ok hfind goal hdirectory,
          rename_ok hfind' goal' fun heq => hdirectory (here.2 heq)]
        exact ⟨rfl, (h.erase inside).set (isInside_of_get? hdirectory) same⟩

end Comparison

end ConversationMemory.FileTree
