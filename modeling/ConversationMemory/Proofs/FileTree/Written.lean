import ConversationMemory.FileTree.Written
import ConversationMemory.Proofs.FileTree.View

/-!
# Where written paths lead

* `follow_cons`: how a path that leads somewhere goes on, name by name.
* `follow_keeps`: a path leads to the same place as long as no directory goes away.
* `makeFrom_of_follow`: on a path that leads somewhere nothing is to be made.
* `IsPlace`: a place that only directories lead to; **`isPlace_of_follow`**: written paths lead to
  such places.
-/

namespace ConversationMemory.WrittenPath

variable {tree other : FileTree} {place goal : TreePath} {names : List String}

/-- The three ways in which a path that leads somewhere goes on: a name stays in place, leads to the
directory above, or to a directory of this name. -/
theorem follow_cons {name : String} {rest : List String}
    (h : follow tree place (name :: rest) = .ok goal) :
    (stays name = true ∧ follow tree place rest = .ok goal) ∨
      (¬ stays name = true ∧ name = ".." ∧ follow tree place.above rest = .ok goal) ∨
      (¬ stays name = true ∧ name ≠ ".." ∧ name.utf8ByteSize ≤ FileTree.nameLimit ∧
        tree.get? (place ++ [name]) = some .directory ∧
        follow tree (place ++ [name]) rest = .ok goal) := by
  rw [follow] at h
  by_cases hstays : stays name = true
  · rw [if_pos hstays] at h
    exact .inl ⟨hstays, h⟩
  · rw [if_neg hstays] at h
    by_cases hup : name = ".."
    · rw [if_pos hup] at h
      exact .inr (.inl ⟨hstays, hup, h⟩)
    · rw [if_neg hup] at h
      by_cases hlong : FileTree.nameLimit < name.utf8ByteSize
      · rw [if_pos hlong] at h
        cases h
      · rw [if_neg hlong] at h
        split at h
        · cases h
        · cases h
        · rename_i hfound
          exact .inr (.inr ⟨hstays, hup, Nat.not_lt.1 hlong, hfound, h⟩)

theorem follow_keeps (h : follow tree place names = .ok goal)
    (keeps : ∀ q, tree.get? q = some .directory → other.get? q = some .directory) :
    follow other place names = .ok goal := by
  induction names generalizing place with
  | nil => exact h
  | cons name rest ih =>
    rw [follow]
    rcases follow_cons h with ⟨hstays, h⟩ | ⟨hgoes, hup, h⟩ | ⟨hgoes, hdown, short, found, h⟩
    · rw [if_pos hstays]
      exact ih h
    · rw [if_neg hgoes, if_pos hup]
      exact ih h
    · rw [if_neg hgoes, if_neg hdown, if_neg (Nat.not_lt.2 short), keeps _ found]
      exact ih h

theorem makeFrom_of_follow (h : follow tree place names = .ok goal) (made : Bool) :
    makeFrom tree place made names = (.ok (), tree) := by
  induction names generalizing place with
  | nil => rfl
  | cons name rest ih =>
    rw [makeFrom]
    rcases follow_cons h with ⟨hstays, h⟩ | ⟨hgoes, hup, h⟩ | ⟨hgoes, hdown, short, found, h⟩
    · rw [if_pos hstays]
      exact ih h
    · rw [if_neg hgoes, if_pos hup]
      exact ih h
    · rw [if_neg hgoes, if_neg hdown, if_neg (Nat.not_lt.2 short), found]
      exact ih h

/-! ## Places -/

/-- A place that only directories lead to, the names of which stand above it only in front. -/
structure IsPlace (tree : FileTree) (place : TreePath) : Prop where
  walks : tree.walk [] place = .ok (some .directory)
  short : ∀ name ∈ place, name.utf8ByteSize ≤ FileTree.nameLimit
  clean : ∀ name ∈ place, '\x00' ∉ name.toList
  outside : ∀ q, q <+: place → q.getLast? = some ".." → q.all TreePath.isOutside = true

theorem IsPlace.find (h : IsPlace tree place) : tree.find place = .ok (some .directory) := by
  rw [FileTree.find, if_neg (FileTree.not_any_nul h.clean), h.walks]

theorem IsPlace.keeps (h : IsPlace tree place)
    (keeps : ∀ q, tree.get? q = some .directory → other.get? q = some .directory) :
    IsPlace other place where
  walks := by
    refine FileTree.walk_of_directories h.short fun q hq hle => keeps _ ?_
    exact FileTree.get?_of_walk h.walks q hq hle
  short := h.short
  clean := h.clean
  outside := h.outside

theorem IsPlace.concat (h : IsPlace tree place) {name : String}
    (fits : name.utf8ByteSize ≤ FileTree.nameLimit) (clean : '\x00' ∉ name.toList)
    (up : name = ".." → place.all TreePath.isOutside = true)
    (found : tree.get? (place ++ [name]) = some .directory) : IsPlace tree (place ++ [name]) where
  walks := by
    rw [FileTree.walk_concat, h.walks]
    dsimp only
    rw [if_neg (Nat.not_lt.2 fits), List.nil_append, found]
  short := by
    intro other hmem
    rcases List.mem_append.1 hmem with hmem | hmem
    · exact h.short other hmem
    · rw [List.mem_singleton.1 hmem]
      exact fits
  clean := by
    intro other hmem
    rcases List.mem_append.1 hmem with hmem | hmem
    · exact h.clean other hmem
    · rw [List.mem_singleton.1 hmem]
      exact clean
  outside := by
    intro q hq hlast
    rcases List.prefix_concat_iff.1 hq with rfl | hq
    · rw [List.getLast?_concat, Option.some.injEq] at hlast
      rw [List.all_append, up hlast, hlast]
      rfl
    · exact h.outside q hq hlast

theorem IsPlace.nil (tree : FileTree) : IsPlace tree [] where
  walks := rfl
  short _ hmem := nomatch hmem
  clean _ hmem := nomatch hmem
  outside q hq _ := by
    rw [List.prefix_nil.1 hq]
    rfl

theorem IsPlace.above (h : IsPlace tree place) : IsPlace tree place.above := by
  have up (outside : place.all TreePath.isOutside = true) : IsPlace tree (place ++ [".."]) := by
    refine h.concat (by decide) (by decide) (fun _ => outside) ?_
    rw [FileTree.get?, if_pos]
    rw [List.all_append, outside]
    rfl
  rw [TreePath.above]
  split
  · rename_i name hlast
    split
    · exact h
    · split
      · rename_i hup
        exact up (h.outside place (List.prefix_refl _) (by rw [hlast, hup]))
      · obtain ⟨front, rfl⟩ := List.getLast?_eq_some_iff.1 hlast
        rw [List.dropLast_concat]
        exact ⟨(FileTree.walk_directory h.walks).1, fun name hmem => h.short name (by simp [hmem]),
          fun name hmem => h.clean name (by simp [hmem]),
          fun q hq => h.outside q (hq.trans (List.prefix_append _ _))⟩
  · exact (IsPlace.nil tree).concat (by decide) (by decide) (fun _ => rfl) rfl

/-- **Written paths lead to places that only directories lead to.** -/
theorem isPlace_of_follow (h : follow tree place names = .ok goal) (start : IsPlace tree place)
    (clean : ∀ name ∈ names, '\x00' ∉ name.toList) : IsPlace tree goal := by
  induction names generalizing place with
  | nil =>
    cases h
    exact start
  | cons name rest ih =>
    have later : ∀ name ∈ rest, '\x00' ∉ name.toList := fun next hnext =>
      clean next (by simp [hnext])
    rcases follow_cons h with ⟨-, h⟩ | ⟨-, -, h⟩ | ⟨-, hdown, short, found, h⟩
    · exact ih h start later
    · exact ih h start.above later
    · exact ih h (start.concat short (clean name (by simp)) (fun hup => absurd hup hdown) found) later

/-! ## Opening a directory -/

theorem mem_intercalate {name : String} (h : name ∈ names) {c : Char} (hc : c ∈ name.toList)
    (between : String) : c ∈ (between.intercalate names).toList := by
  induction names with
  | nil => cases h
  | cons first rest ih =>
    by_cases hrest : rest = []
    · subst hrest
      rw [List.mem_singleton.1 h] at hc
      rwa [String.intercalate_singleton]
    · rw [String.intercalate_cons_of_ne_nil hrest, String.toList_append, String.toList_append,
        List.mem_append, List.mem_append]
      rcases List.mem_cons.1 h with rfl | hmem
      · exact .inl (.inl hc)
      · exact .inr (ih hmem)

theorem clean_of_refusal {path : WrittenPath} (h : path.text = "" ∨ path.refusal? = none) :
    ∀ name ∈ path.names, '\x00' ∉ name.toList := by
  intro name hmem hnul
  have inside : '\x00' ∈ path.text.toList := mem_intercalate hmem hnul "/"
  rcases h with hempty | hrefusal
  · rw [hempty] at inside
    cases inside
  · have nul : path.text.contains '\x00' = true := by
      rw [String.contains_char_eq, decide_eq_true_iff]
      exact inside
    rw [refusal?, nul] at hrefusal
    split at hrefusal <;> cases hrefusal

theorem isPlace_start (path : WrittenPath) (tree : FileTree) : IsPlace tree path.start := by
  rw [start]
  split
  · exact (IsPlace.nil tree).concat (by decide) (by decide) (fun _ => rfl) rfl
  · exact .nil tree

theorem makeAll_of_directory {path : WrittenPath} (h : path.directory tree = .ok goal)
    (free : path.text = "" ∨ path.refusal? = none) : path.makeAll tree = (.ok (), tree) := by
  rw [makeAll]
  split
  · rfl
  · rename_i hempty
    rw [free.resolve_left hempty]
    exact makeFrom_of_follow h false

theorem free_of_makeAll {path : WrittenPath} {after : FileTree}
    (h : path.makeAll tree = (.ok (), after)) : path.text = "" ∨ path.refusal? = none := by
  rw [makeAll] at h
  split at h
  · rename_i hempty
    exact .inl hempty
  · split at h
    · cases h
    · rename_i hnone
      exact .inr hnone

end ConversationMemory.WrittenPath
