import ConversationMemory.Proofs.Store.Refinement

/-!
# What a store in files refuses

A name need not be one that files can have: it may be too long, hold a zero, or be the point that
has no file beside it.

* `Mirrors.readFile_of_not_has`: without a resource nothing is read, whatever its name.
* `Mirrors.writeJson_refused`: under such a name nothing is written, though directories may be made.
* **`take_follows`**: every step is answered as in memory, or refused with all resources as they were.
-/

namespace ConversationMemory

open FileBacked (Family Fits IsSegment filePath sparePath directoryOf fileName spareName step)
open WrittenPath (IsPlace)

variable {files : FileBacked} {memory : InMemory} {tree : FileTree} {family : Family}
  {namespaceName name : String}

/-! ## Names -/

namespace FileBacked

theorem hasDoublePoint_of_points {cs : List Char} (h : ['.', '.'] <:+: cs) :
    hasDoublePoint cs = true := by
  obtain ⟨front, back, rfl⟩ := h
  induction front with
  | nil => rfl
  | cons c rest ih =>
    rw [List.cons_append, List.cons_append, hasDoublePoint.eq_def]
    split
    · rfl
    · rename_i heq
      cases heq
      exact ih
    · contradiction

theorem IsSegment.spelled (h : IsSegment name) :
    name ≠ "" ∧ '/' ∉ name.toList ∧ '\\' ∉ name.toList ∧ ¬ ['.', '.'] <:+: name.toList := by
  unfold IsSegment segment at h
  split at h
  · cases h
  · rename_i nonEmpty
    split at h
    · cases h
    · rename_i separators
      split at h
      · cases h
      · rename_i points
        have absent (c : Char) (hc : (c == '/' || c == '\\') = true) : c ∉ name.toList :=
          fun hmem => separators (List.any_eq_true.2 ⟨c, hmem, hc⟩)
        refine ⟨?_, absent '/' rfl, absent '\\' rfl, fun hinfix =>
          points (hasDoublePoint_of_points hinfix)⟩
        rintro rfl
        exact nonEmpty rfl

theorem IsSegment.fits {ending : String} (h : IsSegment name) (clean : '\x00' ∉ name.toList)
    (short : (name ++ ending).utf8ByteSize ≤ FileTree.nameLimit) : Fits ending name :=
  ⟨h.spelled.1, h.spelled.2.1, h.spelled.2.2.1, h.spelled.2.2.2, clean, short⟩

theorem IsSegment.not_isOutside (h : IsSegment name) : TreePath.isOutside name = false := by
  rw [TreePath.isOutside, Bool.or_eq_false_iff, beq_eq_false_iff_ne, beq_eq_false_iff_ne]
  refine ⟨?_, ?_⟩
  · rintro rfl
    exact h.spelled.2.2.2 ⟨[], [], rfl⟩
  · rintro rfl
    exact h.spelled.2.1 (List.mem_singleton.2 rfl)

end FileBacked

/-! ## Directories -/

theorem FileTree.createFrom_append {reached front : TreePath}
    (h : tree.walk reached front = .ok (some .directory)) (back : TreePath) :
    tree.createFrom reached (front ++ back) = tree.createFrom (reached ++ front) back := by
  induction front generalizing reached with
  | nil => rw [List.nil_append, List.append_nil]
  | cons name rest ih =>
    have here := FileTree.get?_of_walk h [name] (by simp) ⟨rest, rfl⟩
    have created := FileTree.createFrom_of_walk h
    rw [FileTree.createFrom] at created
    rw [List.cons_append, FileTree.createFrom]
    by_cases hlong : FileTree.nameLimit < name.utf8ByteSize
    · rw [if_pos hlong] at created
      cases created
    · rw [if_neg hlong, here]
      dsimp only
      rw [ih]
      · rw [List.append_assoc]
        rfl
      · by_cases hrest : rest = []
        · rw [hrest]
          rfl
        · rw [FileTree.walk_cons _ _ _ hrest, if_neg hlong, here] at h
          exact h

namespace Mirrors

theorem createDirectories (h : Mirrors files memory) (fits : Fits "" namespaceName)
    (family : Family) :
    ∃ made, files.tree.createDirectories (directoryOf files.root family namespaceName) =
        (.ok (), made) ∧ Mirrors { files with tree := made } memory := by
  have orderly := h.isOrderly fits (show Fits ".json.tmp" "a" by decide) family
  obtain ⟨made, hmade, views⟩ := orderly.createDirectories fits
  have keeps (q : TreePath) (hq : files.tree.get? q = some .directory) :
      made.get? q = some .directory := by
    rw [views]
    split
    · rfl
    · exact hq
  -- nothing with a point in its name is on the way
  have stays {last : String} (point : FileBacked.HasPoint last) (family' : Family)
      (namespaceName' : String) :
      made.get? (directoryOf files.root family' namespaceName' ++ [last]) =
        files.tree.get? (directoryOf files.root family' namespaceName' ++ [last]) := by
    rw [views, if_neg fun hp => FileBacked.not_prefix_directoryOf point hp.2]
  refine ⟨made, hmade, ?_⟩
  constructor
  case home => exact h.home.keeps keeps
  case leads => exact WrittenPath.follow_keeps h.leads keeps
  case free => exact h.free
  case named => exact h.named
  case shown =>
    intro family' namespaceName' name' fits' nameFits'
    rw [filePath, stays (FileBacked.hasPoint_fileName name')]
    exact h.shown _ _ _ fits' nameFits'
  case only =>
    intro names text below hfile
    rw [views] at hfile
    split at hfile
    · cases hfile
    · exact h.only names text below hfile
  case reachable =>
    intro family' namespaceName' name' has q hq hle
    exact keeps q (h.reachable _ _ _ has q hq hle)
  case spare =>
    intro family' namespaceName' name' fits'
    rw [sparePath, stays (FileBacked.hasPoint_spareName name')]
    exact h.spare _ _ _ fits'

/-! ## Reading -/

theorem readFile_of_not_has {α : Type} (h : Mirrors files memory) (here : IsSegment namespaceName)
    (has : ¬ memory.Has namespaceName name family) (d : Json.Decoder α) :
    FileBacked.readFile files.tree d (filePath files.root family namespaceName name) = .ok none ∨
      ∃ e, FileBacked.readFile files.tree d (filePath files.root family namespaceName name) =
        .error e := by
  rw [FileBacked.readFile]
  split
  · exact .inl rfl
  · exact .inr ⟨_, rfl⟩
  · rename_i text hread
    obtain ⟨bytes, hfind, -⟩ := FileTree.readText_eq_ok.1 hread
    have found := FileTree.get?_of_find hfind
    have below : IsBelow (namesOf family namespaceName name) := by
      refine ⟨by simp [namesOf], fun other hmem => ?_⟩
      rcases List.mem_append.1 hmem with hmem | hmem
      · rcases FileBacked.step_cases namespaceName with ⟨-, hnil⟩ | ⟨-, hone⟩
        · rw [hnil] at hmem
          cases hmem
        · rw [hone] at hmem
          rw [List.mem_singleton.1 hmem]
          exact here.not_isOutside
      · rcases List.mem_cons.1 hmem with rfl | hmem
        · exact directory_not_isOutside family
        · rw [List.mem_singleton.1 hmem]
          exact FileBacked.fileName_not_isOutside name
    rw [filePath_eq] at found
    obtain ⟨family', namespaceName', name', has', same⟩ := h.only _ bytes below found
    have paths : filePath [] family namespaceName name = filePath [] family' namespaceName' name' := by
      rw [filePath_eq, filePath_eq, same]
    obtain ⟨rfl, rfl, rfl⟩ := FileBacked.filePath_inj.1 paths
    exact absurd has' has

/-! ## Writing -/

theorem createDirectories_refused (h : Mirrors files memory) (here : IsSegment namespaceName)
    (unfit : ¬ Fits "" namespaceName) (family : Family) :
    ∃ e, files.tree.createDirectories (directoryOf files.root family namespaceName) =
      (.error e, files.tree) := by
  have away : step namespaceName = [namespaceName] := by
    rw [step, if_neg]
    rintro rfl
    exact unfit (by decide)
  rw [FileTree.createDirectories]
  split
  · exact ⟨_, rfl⟩
  · rename_i clean
    refine ⟨.nameTooLong, ?_⟩
    have noNul : '\x00' ∉ namespaceName.toList := by
      intro hmem
      refine clean (List.any_eq_true.2 ⟨namespaceName, by simp [directoryOf, away], ?_⟩)
      rw [String.contains_char_eq, decide_eq_true_iff]
      exact hmem
    have long : FileTree.nameLimit < namespaceName.utf8ByteSize := by
      by_contra short
      refine unfit (here.fits noNul ?_)
      rw [String.append_empty]
      exact Nat.not_lt.1 short
    rw [directoryOf, List.append_assoc, FileTree.createFrom_append h.home.walks, away,
      List.singleton_append, FileTree.createFrom, if_pos long]

/-- **Under a name that no file can have nothing is written, and every resource stays as it was.** -/
theorem writeJson_refused (h : Mirrors files memory) (here : IsSegment namespaceName)
    (there : IsSegment name)
    (unfit : ¬ (Fits "" namespaceName ∧ Fits ".json.tmp" name ∧ name ≠ ".")) (family : Family)
    (value : Json) :
    ∃ e after, FileBacked.writeJson files.tree (filePath files.root family namespaceName name)
        value = (.error e, after) ∧ Mirrors { files with tree := after } memory := by
  rw [FileBacked.writeJson, FileBacked.dropLast_filePath]
  by_cases fits : Fits "" namespaceName
  case neg =>
    obtain ⟨e, hmade⟩ := h.createDirectories_refused here fits family
    rw [hmade]
    exact ⟨_, _, rfl, h⟩
  case pos =>
    obtain ⟨made, hmade, mirrors⟩ := h.createDirectories fits family
    -- the directories are there, and the file beside it cannot be written
    obtain ⟨e, hwrite⟩ : ∃ e, made.writeBytes
        (FileBacked.temporaryOf (filePath files.root family namespaceName name))
        (Utf8.bytesOf value.pretty) = (.error e, made) := by
      rw [FileBacked.temporaryOf_filePath]
      split
      · have above : made.find (files.root ++ step namespaceName) = .ok (some .directory) :=
          FileTree.find_of_createDirectories hmade (List.prefix_append _ _)
        exact ⟨_, by rw [FileBacked.dropLast_directoryOf, FileTree.writeBytes_directory above]⟩
      · rename_i point
        suffices hfind : ∃ e, made.find (sparePath files.root family namespaceName name) =
            .error e by
          obtain ⟨e, hfind⟩ := hfind
          exact ⟨e, FileTree.writeBytes_error hfind⟩
        rw [FileTree.find]
        split
        · exact ⟨_, rfl⟩
        · rename_i clean
          have noNul : '\x00' ∉ name.toList := by
            intro hmem
            refine clean (List.any_eq_true.2 ⟨spareName name, by simp [sparePath], ?_⟩)
            rw [String.contains_char_eq, decide_eq_true_iff]
            simp [spareName, hmem]
          have long : FileTree.nameLimit < (spareName name).utf8ByteSize := by
            by_contra short
            refine unfit ⟨fits, there.fits noNul ?_, point⟩
            have whole : name ++ ".json.tmp" = spareName name := by
              rw [spareName, String.append_assoc]
              rfl
            rw [whole]
            exact Nat.not_lt.1 short
          refine ⟨.nameTooLong, ?_⟩
          have directory : made.walk [] (directoryOf files.root family namespaceName) =
              .ok (some .directory) := by
            have found := FileTree.find_of_createDirectories hmade (List.prefix_refl _)
            rw [FileTree.find] at found
            split at found
            · cases found
            · exact found
          rw [sparePath, FileTree.walk_concat, directory]
          dsimp only
          rw [if_pos long]
    rw [hmade]
    dsimp only
    rw [hwrite]
    exact ⟨_, _, rfl, mirrors⟩

end Mirrors

/-! ## Steps -/

/-- The answer of a step that has no effect and finds nothing. -/
def StoreAnswer.IsRefusal : StoreAnswer → Prop
  | .failed _ | .value none => True
  | _ => False

/-- A step is answered as in memory, or refused with all resources as they were. -/
inductive Follows (memory : InMemory) (step : StoreStep) : StoreAnswer × FileBacked → Prop
  | agrees {after} (agree : Agree after (memory.take step)) : Follows memory step after
  | refused {answer files} (refusal : answer.IsRefusal) (mirrors : Mirrors files memory) :
    Follows memory step (answer, files)

variable {family : Family}

theorem pathOf_cases (root : TreePath) (family : Family) (namespaceName name : String) :
    (∃ e, FileBacked.pathOf root family namespaceName name = .error e) ∨
      IsSegment namespaceName ∧ IsSegment name ∧
        FileBacked.pathOf root family namespaceName name =
          .ok (filePath root family namespaceName name) := by
  cases hpath : FileBacked.pathOf root family namespaceName name with
  | error e => exact .inl ⟨e, rfl⟩
  | ok path =>
    obtain ⟨here, there, rfl⟩ := FileBacked.pathOf_eq_ok.1 hpath
    exact .inr ⟨here, there, rfl⟩

theorem Mirrors.save_refused {α : Type} (h : Mirrors files memory) (here : IsSegment namespaceName)
    (there : IsSegment name)
    (unfit : ¬ (Fits "" namespaceName ∧ Fits ".json.tmp" name ∧ name ≠ ".")) (family : Family)
    (value : Json) (result : α) :
    ∃ e after, files.save (filePath files.root family namespaceName name) value result =
      (.failed e, after) ∧ Mirrors after memory := by
  obtain ⟨e, after, wrote, mirrors⟩ := h.writeJson_refused here there unfit family value
  refine ⟨e, { files with tree := after }, ?_, mirrors⟩
  rw [FileBacked.save, wrote]

theorem Mirrors.not_has (h : Mirrors files memory)
    (unfit : ¬ (Fits "" namespaceName ∧ Fits ".json.tmp" name ∧ name ≠ ".")) (family : Family) :
    ¬ memory.Has namespaceName name family :=
  fun has => unfit (h.named family namespaceName name has)

theorem follows_put (h : Mirrors files memory) {record : MemoryRecord}
    (unfit : ¬ (Fits "" record.metadata.namespaceName ∧ Fits ".json.tmp" record.metadata.name ∧
      record.metadata.name ≠ ".")) :
    Follows memory (.put record) (files.take (.put record)) := by
  rw [FileBacked.take, FileBacked.put, FileBacked.recordPath]
  rcases pathOf_cases files.root .memory record.metadata.namespaceName record.metadata.name with
    ⟨e, hpath⟩ | ⟨here, there, hpath⟩
  · rw [hpath]
    exact .refused trivial h
  · rw [hpath]
    dsimp only
    rcases h.readFile_of_not_has here (h.not_has unfit .memory) MemoryRecord.decoder with
      hread | ⟨e, hread⟩
    · obtain ⟨e, after, saved, mirrors⟩ := h.save_refused here there unfit .memory
        (record.atVersion 1).toJson (record.atVersion 1)
      rw [FileBacked.readRecord, hread]
      dsimp only [Option.elim]
      rw [show Store.nextVersion? 0 = some 1 from rfl]
      dsimp only
      rw [saved]
      exact .refused trivial mirrors
    · rw [FileBacked.readRecord, hread]
      exact .refused trivial h

theorem follows_setValue (h : Mirrors files memory) {key : ValueKey}
    (unfit : ¬ (Fits "" key.namespaceName ∧ Fits ".json.tmp" key.name ∧ key.name ≠ "."))
    (value : String) :
    Follows memory (.setValue key value) (files.take (.setValue key value)) := by
  rw [FileBacked.take, FileBacked.setValue, FileBacked.valuesPath]
  rcases pathOf_cases files.root (.values key.kind) key.namespaceName key.name with
    ⟨e, hpath⟩ | ⟨here, there, hpath⟩
  · rw [hpath]
    exact .refused trivial h
  · rw [hpath]
    dsimp only
    rcases h.readFile_of_not_has here (h.not_has unfit (.values key.kind)) Json.Decoder.textMap with
      hread | ⟨e, hread⟩
    · obtain ⟨e, after, saved, mirrors⟩ := h.save_refused here there unfit (.values key.kind)
        (valuesJson (Entries.insert [] key.key value)) ()
      rw [FileBacked.readValues, hread]
      dsimp only [Option.getD]
      rw [← valuesJson, saved]
      exact .refused trivial mirrors
    · rw [FileBacked.readValues, hread]
      exact .refused trivial h

theorem Mirrors.get_refused (h : Mirrors files memory)
    (unfit : ¬ (Fits "" namespaceName ∧ Fits ".json.tmp" name ∧ name ≠ ".")) :
    ∃ e, files.get name namespaceName = .error e := by
  rw [FileBacked.get, FileBacked.recordPath]
  rcases pathOf_cases files.root .memory namespaceName name with ⟨e, hpath⟩ | ⟨here, there, hpath⟩
  · rw [hpath]
    exact ⟨_, rfl⟩
  · rw [hpath]
    dsimp only
    rcases h.readFile_of_not_has here (h.not_has unfit .memory) MemoryRecord.decoder with
      hread | ⟨e, hread⟩ <;>
    · rw [FileBacked.readRecord, hread]
      exact ⟨_, rfl⟩

theorem follows_updateStatus (h : Mirrors files memory) {record : MemoryRecord}
    (unfit : ¬ (Fits "" record.metadata.namespaceName ∧ Fits ".json.tmp" record.metadata.name ∧
      record.metadata.name ≠ ".")) :
    Follows memory (.updateStatus record) (files.take (.updateStatus record)) := by
  rw [FileBacked.take, FileBacked.updateStatus, FileBacked.withStatus, FileBacked.recordPath]
  rcases pathOf_cases files.root .memory record.metadata.namespaceName record.metadata.name with
    ⟨e, hpath⟩ | ⟨here, there, hpath⟩
  · rw [hpath]
    exact .refused trivial h
  · rw [hpath]
    dsimp only
    rcases h.readFile_of_not_has here (h.not_has unfit .memory) MemoryRecord.decoder with
      hread | ⟨e, hread⟩ <;>
    · rw [FileBacked.readRecord, hread]
      exact .refused trivial h

theorem Mirrors.configValue_refused (h : Mirrors files memory) {key : ValueKey}
    (unfit : ¬ (Fits "" key.namespaceName ∧ Fits ".json.tmp" key.name ∧ key.name ≠ ".")) :
    files.configValue key = .ok none ∨ ∃ e, files.configValue key = .error e := by
  rw [FileBacked.configValue, FileBacked.valuesPath]
  rcases pathOf_cases files.root (.values key.kind) key.namespaceName key.name with
    ⟨e, hpath⟩ | ⟨here, there, hpath⟩
  · rw [hpath]
    exact .inr ⟨_, rfl⟩
  · rw [hpath]
    dsimp only
    rcases h.readFile_of_not_has here (h.not_has unfit (.values key.kind)) Json.Decoder.textMap with
      hread | ⟨e, hread⟩
    · rw [FileBacked.readValues, hread]
      exact .inl rfl
    · rw [FileBacked.readValues, hread]
      exact .inr ⟨_, rfl⟩

/-- **Every step is answered as in memory, or refused with all resources as they were.** -/
theorem take_follows (h : Mirrors files memory) (step : StoreStep) :
    Follows memory step (files.take step) := by
  -- a step whose names are those of a resource agrees, any other one is refused
  cases step with
  | put record =>
    by_cases fits : Fits "" record.metadata.namespaceName ∧
      Fits ".json.tmp" record.metadata.name ∧ record.metadata.name ≠ "."
    · exact .agrees (agree_put h fits.1 fits.2.1 fits.2.2)
    · exact follows_put h fits
  | get name namespaceName =>
    by_cases fits : Fits "" namespaceName ∧ Fits ".json.tmp" name ∧ name ≠ "."
    · refine .agrees ?_
      rw [FileBacked.take, InMemory.take, get_eq h fits.1 fits.2.1]
      exact .of_mirrors h
    · obtain ⟨e, hget⟩ := h.get_refused fits
      rw [FileBacked.take, hget]
      exact .refused trivial h
  | updateStatus record =>
    by_cases fits : Fits "" record.metadata.namespaceName ∧
      Fits ".json.tmp" record.metadata.name ∧ record.metadata.name ≠ "."
    · exact .agrees (agree_updateStatus h fits.1 fits.2.1)
    · exact follows_updateStatus h fits
  | setValue key value =>
    by_cases fits : Fits "" key.namespaceName ∧ Fits ".json.tmp" key.name ∧ key.name ≠ "."
    · exact .agrees (agree_setValue h value fits.1 fits.2.1 fits.2.2)
    · exact follows_setValue h fits value
  | configValue key =>
    by_cases fits : Fits "" key.namespaceName ∧ Fits ".json.tmp" key.name ∧ key.name ≠ "."
    · refine .agrees ?_
      rw [FileBacked.take, InMemory.take, configValue_eq h fits.1 fits.2.1]
      exact .of_mirrors h
    · rcases h.configValue_refused fits with hvalue | ⟨e, hvalue⟩ <;>
      · rw [FileBacked.take, hvalue]
        exact .refused trivial h
  | reopen =>
    refine .agrees ?_
    rw [FileBacked.take, InMemory.take, h.reopens]
    exact .of_mirrors h

end ConversationMemory
