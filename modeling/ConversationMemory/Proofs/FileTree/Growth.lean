import ConversationMemory.Proofs.FileTree.View

/-!
# Trees that only get more directories

* `IsRooted`: everything in a tree stands in a directory. `isRooted_of_entries` tells it from the
  entries. `IsRooted.createDirectories`, `IsRooted.writeBytes`, `IsRooted.rename`, `IsRooted.remove`:
  the operations keep it so.
* `Grows`: directories have been added where nothing was. **`grows_createDirectories`**: no more than
  that happens when directories are made, whether it succeeds or not.
* `Grows.file_iff`: the same files stand in the tree before and after.
-/

namespace ConversationMemory.FileTree

variable {tree after : FileTree} {path target names reached : TreePath} {last : String} {bytes : List UInt8}
  {result : Except IoError Unit}

/-! ## Trees in which everything stands in a directory -/

/-- Everything in the tree stands in a directory. -/
def IsRooted (tree : FileTree) : Prop :=
  ∀ names last, tree.get? (names ++ [last]) ≠ none → tree.get? names = some .directory

theorem IsRooted.directory (h : tree.IsRooted) (found : tree.get? path ≠ none) (le : names <+: path)
    (ne : names ≠ path) : tree.get? names = some .directory := by
  obtain ⟨rest, rfl⟩ := le
  -- the last name goes first, until what is left is the path itself
  induction rest using List.reverseRecOn with
  | nil => exact absurd (List.append_nil names).symm ne
  | append_singleton rest last ih =>
    rw [← List.append_assoc] at found
    have above := h _ _ found
    by_cases hrest : rest = []
    · rw [hrest, List.append_nil] at above
      exact above
    · refine ih ?_ fun heq => hrest (List.self_eq_append_right.1 heq)
      rw [above]
      exact Option.some_ne_none _

theorem isRooted_of_entries
    (h : ∀ entry ∈ tree.entries, tree.get? entry.1.dropLast = some .directory) : tree.IsRooted := by
  intro names last found
  obtain ⟨entry, there⟩ := Option.ne_none_iff_exists'.1 found
  rw [get?] at there
  split at there
  · rename_i outside
    rw [List.all_append, Bool.and_eq_true] at outside
    rw [get?, if_pos outside.1]
  · have above := h _ (Table.mem_of_get? there)
    rwa [List.dropLast_concat] at above

/-- What is put at a path in a directory stands in a directory, and so does everything else when a
directory is left one. -/
theorem IsRooted.of_set (h : tree.IsRooted) {entry : FileEntry}
    (above : ∀ names last, path = names ++ [last] → tree.get? names = some .directory)
    (views : ∀ p, after.get? p = if p = path then some entry else tree.get? p)
    (keeps : tree.get? path = some .directory → entry = .directory) : after.IsRooted := by
  intro names last found
  have stands : tree.get? names = some .directory := by
    by_cases here : names ++ [last] = path
    · exact above names last here.symm
    · rw [views, if_neg here] at found
      exact h names last found
  rw [views]
  split
  · rename_i here
    rw [here] at stands
    rw [keeps stands]
  · exact stands

theorem IsRooted.of_erase (h : tree.IsRooted) (leaf : tree.get? path ≠ some .directory)
    (views : ∀ p, after.get? p = if p = path then none else tree.get? p) : after.IsRooted := by
  intro names last found
  rw [views] at found
  split at found
  · exact absurd rfl found
  · have stands := h names last found
    rw [views, if_neg]
    · exact stands
    · rintro rfl
      exact leaf stands

theorem IsRooted.createFrom (h : tree.IsRooted) (here : tree.get? reached = some .directory) :
    (tree.createFrom reached names).2.IsRooted := by
  induction names generalizing tree reached with
  | nil => exact h
  | cons name rest ih =>
    rw [FileTree.createFrom]
    split
    · exact h
    · split
      · rename_i found
        exact ih h found
      · exact h
      · rename_i nothing
        have views := @get?_set tree _ (isInside_of_free nothing) .directory
        refine ih (h.of_set ?_ views fun _ => rfl) ?_
        · intro names last same
          rw [(List.append_inj' same rfl).1] at here
          exact here
        · rw [views, if_pos rfl]

theorem IsRooted.createDirectories (h : tree.IsRooted)
    (made : tree.createDirectories path = (result, after)) : after.IsRooted := by
  obtain rfl : (tree.createDirectories path).2 = after := by rw [made]
  rw [FileTree.createDirectories]
  split
  · exact h
  · exact h.createFrom rfl

theorem above_of_find {entry : Option FileEntry} (found : tree.find path = .ok entry)
    (names : TreePath) (last : String) (here : path = names ++ [last]) :
    tree.get? names = some .directory := by
  rw [here, find] at found
  split at found
  · cases found
  · have walk := (walk_directory found).1
    by_cases hnames : names = []
    · rw [hnames]
      rfl
    · exact get?_of_walk walk names hnames (List.prefix_refl _)

theorem IsRooted.writeBytes (h : tree.IsRooted) (wrote : tree.writeBytes path bytes = (result, after)) :
    after.IsRooted := by
  obtain rfl : (tree.writeBytes path bytes).2 = after := by rw [wrote]
  cases found : tree.find path with
  | error e => rwa [writeBytes_error found]
  | ok entry =>
    by_cases directory : entry = some .directory
    · subst directory
      rwa [writeBytes_directory found]
    · obtain ⟨after, wrote, views⟩ := writeBytes_view found directory bytes
      rw [wrote]
      refine h.of_set (above_of_find found) views fun there => ?_
      rw [get?_of_find found] at there
      exact absurd there directory

theorem IsRooted.rename (h : tree.IsRooted) (moved : tree.rename path target = (result, after)) :
    after.IsRooted := by
  obtain rfl : (tree.rename path target).2 = after := by rw [moved]
  unfold FileTree.rename
  split
  case h_6 bytes entry free source goal =>
    have leaf : tree.get? path ≠ some .directory := by
      rw [get?_of_find source]
      exact fun same => FileEntry.noConfusion (Option.some.inj same)
    have free' : tree.get? target ≠ some .directory := by
      rw [get?_of_find goal]
      exact fun same => free (by rw [same])
    have erased := h.of_erase leaf (get?_erase (isInside_of_get? leaf))
    refine erased.of_set ?_ (get?_set (isInside_of_get? free') _) ?_
    · intro names last here
      rw [get?_erase (isInside_of_get? leaf), if_neg]
      · exact above_of_find goal names last here
      · rintro rfl
        exact leaf (above_of_find goal _ last here)
    · rw [get?_erase (isInside_of_get? leaf)]
      split
      · exact fun same => absurd same.symm (Option.some_ne_none _)
      · exact fun there => absurd there free'
  all_goals exact h

theorem get?_filter (entries : Table TreePath FileEntry) (keep : TreePath → Bool) (at' : TreePath) :
    Table.get? (entries.filter fun entry => keep entry.1) at' =
      if keep at' = true then entries.get? at' else none := by
  induction entries with
  | nil => simp [Table.get?]
  | cons entry rest ih =>
    obtain ⟨other, kept⟩ := entry
    by_cases hother : other = at'
    · subst hother
      by_cases hkeep : keep other = true <;> simp [Table.get?, hkeep, ih]
    · by_cases hkeep : keep other = true <;> simp [Table.get?, hkeep, hother, ih]

theorem IsRooted.remove (h : tree.IsRooted) (path : TreePath) : (tree.remove path).IsRooted := by
  intro names last found
  rw [FileTree.remove, get?, get?_filter tree.entries fun p => !isBelow path p] at found ⊢
  by_cases outside : names.all TreePath.isOutside = true
  · rw [if_pos outside]
  · have inside : ¬ (names ++ [last]).all TreePath.isOutside = true := by
      rw [List.all_append, Bool.and_eq_true]
      exact fun both => outside both.1
    rw [if_neg inside] at found
    rw [if_neg outside]
    split at found
    · rename_i stays
      have above := h names last (by rwa [get?, if_neg inside])
      rw [get?, if_neg outside] at above
      rw [if_pos, above]
      -- what is not below the path is in a directory that is not below it either
      rw [isBelow, Bool.not_eq_true', Bool.eq_false_iff, ne_eq, List.isPrefixOf_iff_prefix] at stays ⊢
      exact fun below => stays (below.trans (List.prefix_append _ _))
    · exact absurd rfl found

/-! ## More directories -/

/-- Directories have been added where nothing was, and nothing else has changed. -/
def Grows (tree after : FileTree) : Prop :=
  ∀ p, after.get? p = tree.get? p ∨ tree.get? p = none ∧ after.get? p = some .directory

theorem Grows.refl (tree : FileTree) : tree.Grows tree := fun _ => .inl rfl

theorem createFrom_cases (tree : FileTree) (reached names p : TreePath) :
    (tree.createFrom reached names).2.get? p = tree.get? p ∨
      (tree.get? p = none ∧ (tree.createFrom reached names).2.get? p = some .directory) ∧
        p <+: reached ++ names := by
  induction names generalizing tree reached with
  | nil => exact .inl rfl
  | cons name rest ih =>
    rw [createFrom, List.append_cons reached name rest]
    split
    · exact .inl rfl
    · split
      · exact ih tree (reached ++ [name])
      · exact .inl rfl
      · rename_i nothing
        have views := @get?_set tree _ (isInside_of_free nothing) .directory p
        rcases ih ⟨tree.entries.set (reached ++ [name]) .directory⟩ (reached ++ [name]) with
          same | ⟨⟨free, made⟩, le⟩
        · rw [same, views]
          split
          · rename_i here
            exact .inr ⟨⟨here ▸ nothing, rfl⟩, here ▸ List.prefix_append _ _⟩
          · exact .inl rfl
        · rw [views] at free
          split at free
          · cases free
          · exact .inr ⟨⟨free, made⟩, le⟩

theorem createDirectories_elsewhere (made : tree.createDirectories path = (result, after))
    {p : TreePath} (away : ¬ p <+: path) : after.get? p = tree.get? p := by
  obtain rfl : (tree.createDirectories path).2 = after := by rw [made]
  rw [createDirectories]
  split
  · rfl
  · exact (createFrom_cases tree [] path p).resolve_right fun made => away made.2

/-- **Making directories adds directories, whether it succeeds or not.** -/
theorem grows_createDirectories (made : tree.createDirectories path = (result, after)) :
    tree.Grows after := by
  obtain rfl : (tree.createDirectories path).2 = after := by rw [made]
  intro p
  rw [createDirectories]
  split
  · exact .inl rfl
  · exact (createFrom_cases tree [] path p).imp id And.left

theorem Grows.file_iff (h : tree.Grows after) :
    after.get? path = some (.file bytes) ↔ tree.get? path = some (.file bytes) := by
  rcases h path with same | ⟨free, made⟩
  · rw [same]
  · simp [free, made]

end ConversationMemory.FileTree
