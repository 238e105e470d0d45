import ConversationMemory.FileTree
import ConversationMemory.Proofs.Text.Encoding
import Mathlib.Data.List.Induction

/-!
# What stands in a file tree

Everything about a tree is said by what stands at its paths (`FileTree.get?`).

* `get?_set`, `get?_erase`: what the tables of a tree say about its paths.
* `walk_concat`: a walk takes one step after the other. `walk_congr`: it looks at nothing but the
  directories on its way.
* `createFrom_of_walk`: directories that are there need not be made; **`createFrom_eq`**: those that
  are missing are made, and nothing else. `walk_of_createFrom`: after that they are there.
* `writeBytes_view`, `rename_view`: what stands in the tree after a write and after a renaming;
  `find_of_rename`: a renamed file is found at its new place.
-/

namespace ConversationMemory.FileTree

variable {tree other : FileTree} {reached names path : TreePath} {last : String}

/-! ## Entries -/

/-- The path is not one of those that are always directories. -/
def IsInside (path : TreePath) : Prop := path.all TreePath.isOutside = false

theorem isInside_of_get? (h : tree.get? path ≠ some .directory) : IsInside path := by
  by_cases outside : path.all TreePath.isOutside = true
  · rw [get?, if_pos outside] at h
    exact absurd rfl h
  · simpa [IsInside] using outside

theorem isInside_of_free (h : tree.get? path = none) : IsInside path := by
  refine isInside_of_get? (show tree.get? path ≠ some .directory from ?_)
  rw [h]
  intro heq
  cases heq

theorem get?_set (h : IsInside path) (entry : FileEntry) (at' : TreePath) :
    (⟨tree.entries.set path entry⟩ : FileTree).get? at' =
      if at' = path then some entry else tree.get? at' := by
  by_cases heq : at' = path
  · subst heq
    have inside : ¬ at'.all TreePath.isOutside = true := by simp [show _ = false from h]
    rw [get?, if_neg inside, if_pos rfl, Table.get?_set_self]
  · rw [if_neg heq, get?, get?, Table.get?_set_of_ne _ heq]

theorem get?_erase (h : IsInside path) (at' : TreePath) :
    (⟨tree.entries.erase path⟩ : FileTree).get? at' =
      if at' = path then none else tree.get? at' := by
  by_cases heq : at' = path
  · subst heq
    have inside : ¬ at'.all TreePath.isOutside = true := by simp [show _ = false from h]
    rw [get?, if_neg inside, if_pos rfl, Table.get?_erase_self]
  · rw [if_neg heq, get?, get?, Table.get?_erase_of_ne heq]

/-! ## Walks -/

theorem walk_single (tree : FileTree) (reached : TreePath) (name : String) :
    tree.walk reached [name] =
      if nameLimit < name.utf8ByteSize then .error .nameTooLong
      else .ok (tree.get? (reached ++ [name])) := by
  rw [walk]

theorem walk_cons (tree : FileTree) (reached : TreePath) (name : String) {rest : TreePath}
    (h : rest ≠ []) :
    tree.walk reached (name :: rest) =
      if nameLimit < name.utf8ByteSize then .error .nameTooLong
      else
        match tree.get? (reached ++ [name]) with
        | none => .error .notFound
        | some .directory => tree.walk (reached ++ [name]) rest
        | some (.file _) => .error .notDirectory := by
  obtain ⟨next, more, rfl⟩ := List.exists_cons_of_ne_nil h
  rw [walk.eq_def]
  simp only
  split
  · rfl
  · cases tree.get? (reached ++ [name]) with
    | none => rfl
    | some entry => cases entry <;> rfl

theorem walk_concat (tree : FileTree) (names : TreePath) (last : String) :
    ∀ reached, tree.walk reached (names ++ [last]) =
      match tree.walk reached names with
      | .error e => .error e
      | .ok none => .error .notFound
      | .ok (some (.file _)) => .error .notDirectory
      | .ok (some .directory) =>
        if nameLimit < last.utf8ByteSize then .error .nameTooLong
        else .ok (tree.get? (reached ++ names ++ [last])) := by
  induction names with
  | nil =>
    intro reached
    rw [List.nil_append, walk_single, List.append_nil]
    rfl
  | cons name rest ih =>
    intro reached
    have step := ih (reached ++ [name])
    rw [List.cons_append, walk_cons _ _ _ (by simp)]
    by_cases hrest : rest = []
    · subst hrest
      rw [walk_single]
      split
      · rfl
      · cases tree.get? (reached ++ [name]) with
        | none => rfl
        | some entry =>
          cases entry with
          | file bytes => rfl
          | directory => simp [walk]
    · rw [walk_cons _ _ _ hrest]
      split
      · rfl
      · cases tree.get? (reached ++ [name]) with
        | none => rfl
        | some entry =>
          cases entry with
          | file bytes => rfl
          | directory => simpa using step

theorem walk_eq_ok {entry : Option FileEntry} (h : tree.walk reached names = .ok entry)
    (hnames : names ≠ []) : entry = tree.get? (reached ++ names) := by
  obtain ⟨names, last, rfl⟩ := (List.eq_nil_or_concat names).resolve_left hnames
  rw [List.concat_eq_append] at h ⊢
  rw [walk_concat] at h
  split at h
  · cases h
  · cases h
  · cases h
  · split at h
    · cases h
    · rw [← Except.ok.inj h, List.append_assoc]

theorem walk_directory {entry : Option FileEntry}
    (h : tree.walk reached (names ++ [last]) = .ok entry) :
    tree.walk reached names = .ok (some .directory) ∧ last.utf8ByteSize ≤ nameLimit ∧
      entry = tree.get? (reached ++ names ++ [last]) := by
  rw [walk_concat] at h
  split at h
  · cases h
  · cases h
  · cases h
  · rename_i hwalk
    split at h
    · cases h
    · exact ⟨hwalk, by omega, (Except.ok.inj h).symm⟩

theorem short_of_walk {entry : Option FileEntry} (h : tree.walk reached names = .ok entry) :
    ∀ name ∈ names, name.utf8ByteSize ≤ nameLimit := by
  induction names using List.reverseRecOn generalizing entry with
  | nil => exact nofun
  | append_singleton names last ih =>
    obtain ⟨walk, short, -⟩ := walk_directory h
    intro name hmem
    rcases List.mem_append.1 hmem with hmem | hmem
    · exact ih walk name hmem
    · rw [List.mem_singleton.1 hmem]
      exact short

theorem walk_congr (h : ∀ q, q ≠ [] → q <+: names →
    tree.get? (reached ++ q) = other.get? (reached ++ q)) :
    tree.walk reached names = other.walk reached names := by
  induction names generalizing reached with
  | nil => rfl
  | cons name rest ih =>
    have here : tree.get? (reached ++ [name]) = other.get? (reached ++ [name]) :=
      h [name] (by simp) ⟨rest, rfl⟩
    have further : tree.walk (reached ++ [name]) rest = other.walk (reached ++ [name]) rest := by
      refine ih fun q hq hprefix => ?_
      have := h (name :: q) (by simp) (List.prefix_cons_inj name |>.2 hprefix)
      simpa using this
    by_cases hrest : rest = []
    · subst hrest
      rw [walk_single, walk_single, here]
    · rw [walk_cons _ _ _ hrest, walk_cons _ _ _ hrest, here, further]

theorem walk_of_directories (short : ∀ name ∈ names, name.utf8ByteSize ≤ nameLimit)
    (h : ∀ q, q ≠ [] → q <+: names → tree.get? (reached ++ q) = some .directory) :
    tree.walk reached names = .ok (some .directory) := by
  induction names generalizing reached with
  | nil => rfl
  | cons name rest ih =>
    have here : tree.get? (reached ++ [name]) = some .directory := h [name] (by simp) ⟨rest, rfl⟩
    have further : tree.walk (reached ++ [name]) rest = .ok (some .directory) := by
      refine ih (fun next hnext => short next (by simp [hnext])) fun q hq hprefix => ?_
      have := h (name :: q) (by simp) (List.prefix_cons_inj name |>.2 hprefix)
      simpa using this
    have hshort : ¬ nameLimit < name.utf8ByteSize := Nat.not_lt.2 (short name (by simp))
    by_cases hrest : rest = []
    · subst hrest
      rw [walk_single, if_neg hshort, here]
    · rw [walk_cons _ _ _ hrest, if_neg hshort, here]
      exact further

theorem walk_of_free (short : ∀ name ∈ names, name.utf8ByteSize ≤ nameLimit)
    (free : ∀ q, q ≠ [] → q <+: names →
      tree.get? (reached ++ q) = none ∨ tree.get? (reached ++ q) = some .directory) :
    tree.walk reached names = .ok (some .directory) ∨ tree.walk reached names = .ok none ∨
      tree.walk reached names = .error .notFound := by
  induction names generalizing reached with
  | nil => exact .inl rfl
  | cons name rest ih =>
    have here := free [name] (by simp) ⟨rest, rfl⟩
    have hshort : ¬ nameLimit < name.utf8ByteSize := Nat.not_lt.2 (short name (by simp))
    by_cases hrest : rest = []
    · subst hrest
      rw [walk_single, if_neg hshort]
      rcases here with hnone | hfound
      · exact .inr (.inl (by rw [hnone]))
      · exact .inl (by rw [hfound])
    · rw [walk_cons _ _ _ hrest, if_neg hshort]
      rcases here with hnone | hfound
      · exact .inr (.inr (by rw [hnone]))
      · rw [hfound]
        refine ih (fun next hnext => short next (by simp [hnext])) fun q hq hprefix => ?_
        have := free (name :: q) (by simp) ((List.prefix_cons_inj name).2 hprefix)
        simpa using this

theorem get?_of_walk (h : tree.walk reached names = .ok (some .directory)) :
    ∀ q, q ≠ [] → q <+: names → tree.get? (reached ++ q) = some .directory := by
  intro q hq hprefix
  obtain ⟨rest, rfl⟩ := hprefix
  induction rest using List.reverseRecOn with
  | nil =>
    rw [List.append_nil] at h
    exact (walk_eq_ok h hq).symm
  | append_singleton rest last ih =>
    rw [← List.append_assoc] at h
    exact ih (walk_directory h).1

/-! ## Making directories -/

theorem createFrom_of_walk (h : tree.walk reached names = .ok (some .directory)) :
    tree.createFrom reached names = (.ok (), tree) := by
  induction names generalizing reached with
  | nil => rfl
  | cons name rest ih =>
    have here := get?_of_walk h [name] (by simp) ⟨rest, rfl⟩
    obtain ⟨hshort, further⟩ : ¬ nameLimit < name.utf8ByteSize ∧
        tree.walk (reached ++ [name]) rest = .ok (some .directory) := by
      by_cases hrest : rest = []
      · subst hrest
        rw [walk_single] at h
        split at h
        · cases h
        · rename_i hshort
          exact ⟨hshort, rfl⟩
      · rw [walk_cons _ _ _ hrest, here] at h
        split at h
        · cases h
        · rename_i hshort
          exact ⟨hshort, h⟩
    rw [createFrom, if_neg hshort, here]
    exact ih further

/-- **Directories that are missing are made, and nothing else.** -/
theorem createFrom_eq (short : ∀ name ∈ names, name.utf8ByteSize ≤ nameLimit)
    (free : ∀ q, q ≠ [] → q <+: names →
      tree.get? (reached ++ q) = none ∨ tree.get? (reached ++ q) = some .directory) :
    ∃ after, tree.createFrom reached names = (.ok (), after) ∧
      (∀ q, q ≠ [] → q <+: names → after.get? (reached ++ q) = some .directory) ∧
      ∀ p, (∀ q, q ≠ [] → q <+: names → p ≠ reached ++ q) → after.get? p = tree.get? p := by
  induction names generalizing tree reached with
  | nil => exact ⟨tree, rfl, fun q hq hprefix => absurd (List.prefix_nil.1 hprefix) hq,
      fun p _ => rfl⟩
  | cons name rest ih =>
    have hshort : ¬ nameLimit < name.utf8ByteSize := Nat.not_lt.2 (short name (by simp))
    have shorts : ∀ next ∈ rest, next.utf8ByteSize ≤ nameLimit := fun next hnext =>
      short next (by simp [hnext])
    -- the directory of the first name, made or found
    obtain ⟨start, hstart, hdirectory, hsame⟩ : ∃ start : FileTree,
        tree.createFrom reached (name :: rest) = start.createFrom (reached ++ [name]) rest ∧
        start.get? (reached ++ [name]) = some .directory ∧
        ∀ p, p ≠ reached ++ [name] → start.get? p = tree.get? p := by
      rcases free [name] (by simp) ⟨rest, rfl⟩ with hnone | hfound
      · refine ⟨⟨tree.entries.set (reached ++ [name]) .directory⟩, ?_, ?_, ?_⟩
        · rw [createFrom, if_neg hshort, hnone]
        · rw [get?_set (isInside_of_free hnone), if_pos rfl]
        · intro p hp
          rw [get?_set (isInside_of_free hnone), if_neg hp]
      · refine ⟨tree, ?_, hfound, fun p _ => rfl⟩
        rw [createFrom, if_neg hshort, hfound]
    have further : ∀ q, q ≠ [] → q <+: rest → start.get? (reached ++ [name] ++ q) = none ∨
        start.get? (reached ++ [name] ++ q) = some .directory := by
      intro q hq hprefix
      rw [hsame _ (by simp [hq])]
      have := free (name :: q) (by simp) ((List.prefix_cons_inj name).2 hprefix)
      simpa using this
    obtain ⟨after, hafter, made, kept⟩ := ih shorts further
    refine ⟨after, hstart.trans hafter, ?_, ?_⟩
    · intro q hq hprefix
      obtain ⟨first, q, rfl⟩ := List.exists_cons_of_ne_nil hq
      obtain ⟨rfl, hrest⟩ := List.cons_prefix_cons.1 hprefix
      by_cases hnil : q = []
      · subst hnil
        rw [kept _ fun q' hq' _ heq => by simp [hq'] at heq]
        exact hdirectory
      · simpa using made q hnil hrest
    · intro p hp
      rw [kept p fun q hq hprefix => ?_, hsame p (hp [name] (by simp) ⟨rest, rfl⟩)]
      have := hp (name :: q) (by simp) ((List.prefix_cons_inj name).2 hprefix)
      simpa using this

theorem createFrom_keeps {after : FileTree} {result : Except IoError Unit}
    (h : tree.createFrom reached names = (result, after)) {p : TreePath}
    (hp : tree.get? p = some .directory) : after.get? p = some .directory := by
  induction names generalizing tree reached with
  | nil =>
    cases h
    exact hp
  | cons name rest ih =>
    rw [createFrom] at h
    split at h
    · cases h
      exact hp
    · split at h
      · exact ih h hp
      · cases h
        exact hp
      · rename_i hnone
        refine ih h ?_
        rw [get?_set (isInside_of_free hnone)]
        split
        · rfl
        · exact hp

theorem walk_of_createFrom {after : FileTree}
    (h : tree.createFrom reached names = (.ok (), after)) :
    after.walk reached names = .ok (some .directory) := by
  induction names generalizing tree reached with
  | nil => rfl
  | cons name rest ih =>
    rw [createFrom] at h
    split at h
    · cases h
    · rename_i hshort
      obtain ⟨start, hstart, hcreate⟩ : ∃ start : FileTree,
          start.get? (reached ++ [name]) = some .directory ∧
            start.createFrom (reached ++ [name]) rest = (.ok (), after) := by
        split at h
        · rename_i hfound
          exact ⟨tree, hfound, h⟩
        · cases h
        · rename_i hnone
          refine ⟨_, ?_, h⟩
          rw [get?_set (isInside_of_free hnone), if_pos rfl]
      have here := createFrom_keeps hcreate hstart
      by_cases hrest : rest = []
      · subst hrest
        rw [walk_single, if_neg hshort, here]
      · rw [walk_cons _ _ _ hrest, if_neg hshort, here]
        exact ih hcreate

/-! ## Paths from the working directory -/

theorem not_any_nul (clean : ∀ name ∈ names, '\x00' ∉ name.toList) :
    ¬ (names.any fun name => name.contains '\x00') = true := by
  rw [List.any_eq_true]
  rintro ⟨name, hmem, hnul⟩
  rw [String.contains_char_eq, decide_eq_true_iff] at hnul
  exact clean name hmem hnul

theorem find_of_clean (tree : FileTree) (clean : ∀ name ∈ names, '\x00' ∉ name.toList) :
    tree.find names = tree.walk [] names := by
  rw [find, if_neg (not_any_nul clean)]

/-- What a path leads to, unless it cannot be followed. Two trees with the same directories on the
way agree about that. -/
theorem find_pair (names : TreePath) (last : String)
    (h : ∀ q, q ≠ [] → q <+: names → tree.get? q = other.get? q) :
    (∃ e, tree.find (names ++ [last]) = .error e ∧ other.find (names ++ [last]) = .error e) ∨
      tree.find (names ++ [last]) = .ok (tree.get? (names ++ [last])) ∧
        other.find (names ++ [last]) = .ok (other.get? (names ++ [last])) := by
  rw [find, find]
  split
  · exact .inl ⟨_, rfl, rfl⟩
  · have same : tree.walk [] names = other.walk [] names := walk_congr h
    rw [walk_concat, walk_concat, ← same, List.nil_append]
    cases tree.walk [] names with
    | error e => exact .inl ⟨e, rfl, rfl⟩
    | ok entry =>
      cases entry with
      | none => exact .inl ⟨_, rfl, rfl⟩
      | some entry =>
        cases entry with
        | file bytes => exact .inl ⟨_, rfl, rfl⟩
        | directory =>
          by_cases hlong : nameLimit < last.utf8ByteSize
          · exact .inl ⟨.nameTooLong, by simp [hlong], by simp [hlong]⟩
          · exact .inr ⟨by simp [hlong], by simp [hlong]⟩

theorem get?_of_find {entry : Option FileEntry} (h : tree.find path = .ok entry) :
    tree.get? path = entry := by
  rw [find] at h
  split at h
  · cases h
  · by_cases hnil : path = []
    · subst hnil
      exact Except.ok.inj h
    · exact (walk_eq_ok h hnil).symm

theorem find_of_createDirectories {after : FileTree} {names : TreePath}
    (h : tree.createDirectories names = (.ok (), after)) {q : TreePath} (hq : q <+: names) :
    after.find q = .ok (some .directory) := by
  rw [createDirectories] at h
  split at h
  · cases h
  · rename_i hnul
    obtain ⟨rest, rfl⟩ := hq
    have : ¬ (q.any fun name => name.contains '\x00') = true := by
      intro hany
      exact hnul (by rw [List.any_append, hany, Bool.true_or])
    rw [find, if_neg this]
    have hwalk := walk_of_createFrom h
    clear h hnul
    induction rest using List.reverseRecOn with
    | nil => simpa using hwalk
    | append_singleton rest last ih =>
      rw [← List.append_assoc] at hwalk
      exact ih (walk_directory hwalk).1

theorem createDirectories_of_find {entry : Option FileEntry}
    (h : tree.find (names ++ [last]) = .ok entry) :
    tree.createDirectories names = (.ok (), tree) := by
  rw [find] at h
  split at h
  · cases h
  · rename_i hnul
    have : ¬ (names.any fun name => name.contains '\x00') = true := by
      intro hany
      exact hnul (by rw [List.any_append, hany, Bool.true_or])
    rw [createDirectories, if_neg this]
    exact createFrom_of_walk (walk_directory h).1

/-! ## Reading -/

theorem readText_eq (tree : FileTree) (path : TreePath) : tree.readText path =
    match tree.find path with
    | .error e => .error e
    | .ok none => .error .notFound
    | .ok (some .directory) => .error .isDirectory
    | .ok (some (.file bytes)) => textOf bytes := by
  rw [readText, readBytes]
  cases tree.find path with
  | error e => rfl
  | ok entry =>
    cases entry with
    | none => rfl
    | some entry => cases entry <;> rfl

theorem textOf_bytesOf (text : String) : textOf (Utf8.bytesOf text) = .ok text := by
  rw [textOf, Utf8.textOf?_bytesOf]

theorem readText_eq_ok {text : String} : tree.readText path = .ok text ↔
    ∃ bytes, tree.find path = .ok (some (.file bytes)) ∧ Utf8.textOf? bytes = some text := by
  rw [readText_eq]
  cases tree.find path with
  | error e => simp
  | ok entry =>
    cases entry with
    | none => simp
    | some entry =>
      cases entry with
      | directory => simp
      | file bytes => cases read : Utf8.textOf? bytes <;> simp [textOf, read]

/-! ## Writing and renaming -/

section

variable {target : TreePath} {entry : Option FileEntry} {e : IoError} {bytes : List UInt8}

theorem writeBytes_error (h : tree.find path = .error e) :
    tree.writeBytes path bytes = (.error e, tree) := by
  rw [writeBytes, h]

theorem writeBytes_directory (h : tree.find path = .ok (some .directory)) :
    tree.writeBytes path bytes = (.error .isDirectory, tree) := by
  rw [writeBytes, h]

theorem writeBytes_ok (h : tree.find path = .ok entry) (hentry : entry ≠ some .directory) :
    tree.writeBytes path bytes = (.ok (), ⟨tree.entries.set path (.file bytes)⟩) := by
  rw [writeBytes, h]
  split
  · contradiction
  · rename_i heq
    exact absurd (Except.ok.inj heq) hentry
  · rfl

theorem get?_of_writeBytes {after : FileTree} (h : tree.writeBytes path bytes = (.ok (), after)) :
    after.get? path = some (.file bytes) := by
  cases hfind : tree.find path with
  | error e =>
    rw [writeBytes_error hfind] at h
    cases h
  | ok entry =>
    by_cases hentry : entry = some .directory
    · subst hentry
      rw [writeBytes_directory hfind] at h
      cases h
    · rw [writeBytes_ok hfind hentry] at h
      cases h
      rw [← get?_of_find hfind] at hentry
      rw [get?_set (isInside_of_get? hentry), if_pos rfl]

theorem rename_error (h : tree.find path = .ok (some (.file bytes))) (h' : tree.find target = .error e) :
    tree.rename path target = (.error e, tree) := by
  rw [rename, h, h']

theorem rename_directory (h : tree.find path = .ok (some (.file bytes)))
    (h' : tree.find target = .ok (some .directory)) :
    tree.rename path target = (.error .isDirectory, tree) := by
  rw [rename, h, h']

theorem rename_ok (h : tree.find path = .ok (some (.file bytes)))
    (h' : tree.find target = .ok entry) (hentry : entry ≠ some .directory) :
    tree.rename path target =
      (.ok (), ⟨(tree.entries.erase path).set target (.file bytes)⟩) := by
  rw [rename, h, h']
  match entry, hentry with
  | none, _ => rfl
  | some (.file _), _ => rfl

theorem writeBytes_view (h : tree.find path = .ok entry) (hentry : entry ≠ some .directory)
    (bytes : List UInt8) : ∃ after, tree.writeBytes path bytes = (.ok (), after) ∧
      ∀ p, after.get? p = if p = path then some (.file bytes) else tree.get? p := by
  have inside : IsInside path := by
    rw [← get?_of_find h] at hentry
    exact isInside_of_get? hentry
  exact ⟨_, writeBytes_ok h hentry, get?_set inside _⟩

/-- A file that can be renamed stands at its new place afterwards and no longer at the old one, and
everything else is as it was. -/
theorem rename_view (h : tree.find path = .ok (some (.file bytes)))
    (h' : tree.find target = .ok entry) (hentry : entry ≠ some .directory) :
    ∃ after, tree.rename path target = (.ok (), after) ∧ ∀ p, after.get? p =
      if p = target then some (.file bytes) else if p = path then none else tree.get? p := by
  have source : IsInside path := by
    refine isInside_of_get? (show tree.get? path ≠ some .directory from ?_)
    rw [get?_of_find h]
    intro heq
    cases heq
  have goal : IsInside target := by
    rw [← get?_of_find h'] at hentry
    exact isInside_of_get? hentry
  refine ⟨_, rename_ok h h' hentry, fun p => ?_⟩
  rw [get?_set goal, get?_erase source]

theorem writeBytes_elsewhere {after : FileTree} {result : Except IoError Unit}
    (wrote : tree.writeBytes path bytes = (result, after)) {p : TreePath} (away : p ≠ path) :
    after.get? p = tree.get? p := by
  obtain rfl : (tree.writeBytes path bytes).2 = after := by rw [wrote]
  cases found : tree.find path with
  | error e => rw [writeBytes_error found]
  | ok entry =>
    by_cases directory : entry = some .directory
    · rw [directory] at found
      rw [writeBytes_directory found]
    · obtain ⟨after, wrote, views⟩ := writeBytes_view found directory bytes
      rw [wrote, views, if_neg away]

theorem rename_elsewhere {after : FileTree} {result : Except IoError Unit}
    (moved : tree.rename path target = (result, after)) {p : TreePath} (away : p ≠ path)
    (away' : p ≠ target) : after.get? p = tree.get? p := by
  obtain rfl : (tree.rename path target).2 = after := by rw [moved]
  rw [rename]
  split
  case h_6 bytes entry free source goal =>
    obtain ⟨after, renamed, views⟩ := rename_view source goal free
    rw [rename_ok source goal free] at renamed
    rw [(Prod.mk.inj renamed).2, views, if_neg away', if_neg away]
  all_goals rfl

theorem rename_cases (h : tree.get? path = some (.file bytes)) :
    (tree.rename path target).2 = tree ∨ tree.get? target ≠ some .directory ∧
      (tree.rename path target).2 = ⟨(tree.entries.erase path).set target (.file bytes)⟩ := by
  cases hfind : tree.find path with
  | error e => exact .inl (by rw [rename, hfind])
  | ok entry =>
    rw [← get?_of_find hfind, h] at hfind
    cases hgoal : tree.find target with
    | error e => exact .inl (by rw [rename_error hfind hgoal])
    | ok entry' =>
      by_cases hdirectory : entry' = some .directory
      · rw [hdirectory] at hgoal
        exact .inl (by rw [rename_directory hfind hgoal])
      · refine .inr ⟨?_, by rw [rename_ok hfind hgoal hdirectory]⟩
        rwa [get?_of_find hgoal]

theorem find_of_rename {after : FileTree} (h : tree.rename path target = (.ok (), after)) :
    ∃ bytes, tree.get? path = some (.file bytes) ∧ after.find target = .ok (some (.file bytes)) := by
  obtain ⟨bytes, entry, source, goal, free⟩ : ∃ bytes entry, tree.find path = .ok (some (.file bytes)) ∧
      tree.find target = .ok entry ∧ entry ≠ some .directory := by
    rw [rename] at h
    split at h
    case h_6 bytes entry free source goal => exact ⟨bytes, entry, source, goal, free⟩
    all_goals cases h
  have there := get?_of_find source
  obtain ⟨renamed, hrenamed, views⟩ := rename_view source goal free
  obtain rfl : renamed = after := (Prod.mk.inj (hrenamed.symm.trans h)).2
  obtain ⟨names, last, rfl⟩ : ∃ names last, target = names ++ [last] := by
    rcases List.eq_nil_or_concat target with rfl | ⟨names, last, rfl⟩
    · exact absurd (Except.ok.inj goal).symm free
    · exact ⟨names, last, List.concat_eq_append⟩
  -- the directories on the way are neither the file nor its new place
  have way (q : TreePath) (hq : q ≠ []) (hle : q <+: names) : tree.get? q = renamed.get? q := by
    have directory : tree.get? q = some .directory := by
      rw [find] at goal
      split at goal
      · cases goal
      · exact get?_of_walk (walk_directory goal).1 q hq hle
    rw [views, if_neg, if_neg]
    · rintro rfl
      rw [there] at directory
      cases directory
    · rintro rfl
      have := hle.length_le
      rw [List.length_append, List.length_singleton] at this
      omega
  refine ⟨bytes, there, ?_⟩
  rcases find_pair names last way with ⟨e, refused, -⟩ | ⟨-, found⟩
  · rw [goal] at refused
    cases refused
  · rw [found, views, if_pos rfl]

/-! ### Directories stay -/

theorem createDirectories_keeps (path : TreePath) (h : tree.get? names = some .directory) :
    (tree.createDirectories path).2.get? names = some .directory := by
  rw [createDirectories]
  split
  · exact h
  · exact createFrom_keeps rfl h

theorem writeBytes_keeps (path : TreePath) (bytes : List UInt8) (h : tree.get? names = some .directory) :
    (tree.writeBytes path bytes).2.get? names = some .directory := by
  cases hfind : tree.find path with
  | error e => rwa [writeBytes_error hfind]
  | ok entry =>
    by_cases hentry : entry = some .directory
    · subst hentry
      rwa [writeBytes_directory hfind]
    · rw [writeBytes_ok hfind hentry]
      rw [← get?_of_find hfind] at hentry
      rw [get?_set (isInside_of_get? hentry), if_neg]
      · exact h
      · rintro rfl
        exact hentry h

theorem rename_keeps (target : TreePath) (source : tree.get? path = some (.file bytes))
    (h : tree.get? names = some .directory) :
    (tree.rename path target).2.get? names = some .directory := by
  obtain same | ⟨goal, renamed⟩ := @rename_cases tree path target bytes source
  · rwa [same]
  · have inside : IsInside path := by
      refine isInside_of_get? (show tree.get? path ≠ some .directory from ?_)
      rw [source]
      intro heq
      cases heq
    rw [renamed, get?_set (isInside_of_get? goal), if_neg, get?_erase inside, if_neg]
    · exact h
    · rintro rfl
      rw [source] at h
      cases h
    · rintro rfl
      exact goal h

end

end ConversationMemory.FileTree
