import ConversationMemory.Proofs.Json.ReadBack
import ConversationMemory.Proofs.Settings.Toml.Document
import ConversationMemory.Settings.Load

/-!
# What a file with settings says

* `Settings.JsonSays`: what a JSON text says. **`ofJson_of_says`**: so it is read.
* `Format.Says`: what a text in one of the formats says. **`entries_of_says`**: what is read sets
  the same.
* `FileSays`: what the file that an environment asks for says, if there is one.
  **`fileSource_of_says`**: it is found, and read.
-/

namespace ConversationMemory.Settings

variable {sets : List (Key × Value)}

/-! ## JSON texts -/

/-- A string, or a whole number of 64 bits with its sign. A greater one stands for a double. -/
inductive JsonScalar : Given → Json → Prop
  | string (s : String) : JsonScalar (.text s) (.string s)
  | whole {i : Int} (low : -2 ^ 63 ≤ i) (high : i < 2 ^ 63) :
    JsonScalar (.integer i) (.number (.integer i))

/-- A string or a whole number, or an object of such values with different names. -/
inductive JsonContent : Given → Json → Prop
  | scalar {g v} (h : JsonScalar g v) : JsonContent g v
  | object {parts fields}
    (h : List.Forall₂ (fun part field => part.1 = field.1 ∧ JsonScalar part.2 field.2) parts fields)
    (distinct : (parts.map Prod.fst).Nodup) : JsonContent (.table parts) (.object fields)

/-- A text says an object with different names, whose fields are the entries. -/
inductive JsonSays : List Char → List (String × Given) → Prop
  | object {front cs behind entries fields} (blank : Json.AllBlank front)
    (blank' : Json.AllBlank behind) (spells : Json.Spells (.object fields) cs)
    (h : List.Forall₂ (fun entry field => entry.1 = field.1 ∧ JsonContent entry.2 field.2) entries
      fields)
    (distinct : (entries.map Prod.fst).Nodup) : JsonSays (front ++ (cs ++ behind)) entries

theorem ofFields_eq_map (fields : List (String × Json)) :
    Given.ofFields fields = fields.map fun field => (field.1, Given.ofJson field.2) := by
  induction fields with
  | nil => rfl
  | cons field fields ih =>
    obtain ⟨name, value⟩ := field
    rw [Given.ofFields, List.map_cons, ih]

theorem JsonScalar.reads {g : Given} {v : Json} (h : JsonScalar g v) (levels : Nat) :
    Json.ReadsAs levels v v ∧ Given.ofJson v = g := by
  cases h with
  | string s => exact ⟨Json.readsAs_string s, rfl⟩
  | @whole i low high =>
    have bound : Number.signedBound = 2 ^ 63 := by decide
    have most : (Json.maxNat64 : Int) = 2 ^ 64 - 1 := by decide
    refine ⟨Json.readsAs_integer (by rw [bound]; omega) (by rw [most]; omega), ?_⟩
    rw [Given.ofJson, Given.ofNumber, bound, if_pos ⟨low, high⟩]

/-- What objects give, without regard to the order of their fields. -/
inductive SameGiven : Given → Given → Prop
  | refl (g : Given) : SameGiven g g
  | table {parts parts'} (perm : parts'.Perm parts) : SameGiven (.table parts) (.table parts')

theorem ofList_perm {fields : Fields} (distinct : (fields.map Prod.fst).Nodup) :
    (Given.ofFields (Entries.ofList fields)).Perm (Given.ofFields fields) := by
  rw [ofFields_eq_map, ofFields_eq_map]
  exact (Entries.perm_ofList (List.pairwise_map.1 distinct)).map _

theorem names_of_forall₂ {α β : Type} {r : α → β → Prop} {entries : List (String × α)}
    {fields : List (String × β)}
    (h : List.Forall₂ (fun entry field => entry.1 = field.1 ∧ r entry.2 field.2) entries fields) :
    fields.map Prod.fst = entries.map Prod.fst := by
  induction h with
  | nil => rfl
  | cons first _ ih => rw [List.map_cons, List.map_cons, first.1, ih]

theorem JsonContent.reads {g : Given} {v : Json} (h : JsonContent g v) {levels : Nat}
    (some : 0 < levels) : ∃ w, Json.ReadsAs (levels + 1) v w ∧ SameGiven g (Given.ofJson w) := by
  cases h with
  | scalar h =>
    obtain ⟨reads, rfl⟩ := h.reads (levels + 1)
    exact ⟨_, reads, .refl _⟩
  | @object parts fields h distinct =>
    rw [← names_of_forall₂ h] at distinct
    have inside : List.Forall₂ (fun x y => x.1 = y.1 ∧ Json.ReadsAs levels x.2 y.2) fields fields ∧
        Given.ofFields fields = parts := by
      clear distinct
      induction h with
      | nil => exact ⟨.nil, rfl⟩
      | @cons part field _ _ first _ ih =>
        obtain ⟨reads, given⟩ := first.2.reads levels
        refine ⟨.cons ⟨rfl, reads⟩ ih.1, ?_⟩
        rw [ofFields_eq_map, List.map_cons, ← ofFields_eq_map, ih.2, given, ← first.1]
    refine ⟨_, Json.readsAs_object some inside.1, ?_⟩
    rw [Given.ofJson, ← inside.2]
    exact .table (ofList_perm distinct)

theorem sets?_same {entries : List (String × Given)} {fields : Fields}
    (h : List.Forall₂ (fun entry field => entry.1 = field.1 ∧
      SameGiven entry.2 (Given.ofJson field.2)) entries fields)
    (set : sets? entries = some sets) :
    ∃ sets', sets? (Given.ofFields fields) = some sets' ∧ sets'.Perm sets := by
  induction h generalizing sets with
  | nil => exact ⟨sets, set, .refl _⟩
  | @cons entry field entries fields first _ ih =>
    obtain ⟨name, given⟩ := entry
    obtain ⟨name', value⟩ := field
    obtain ⟨rfl, same⟩ : name = name' ∧ SameGiven given (Given.ofJson value) := first
    obtain ⟨front, later, one, rest, rfl⟩ := sets?_cons.1 set
    obtain ⟨later', rest', perm⟩ := ih rest
    obtain ⟨front', one', perm'⟩ : ∃ front', entrySets? name (Given.ofJson value) = some front' ∧
        front'.Perm front := by
      generalize Given.ofJson value = given' at same ⊢
      cases same with
      | refl => exact ⟨front, one, .refl _⟩
      | table moved =>
        obtain ⟨sectionName, path, parts⟩ := entrySets?_table.1 one
        obtain ⟨front', parts', perm⟩ := partSets?_perm moved.symm parts
        exact ⟨front', entrySets?_table.2 ⟨sectionName, path, parts'⟩, perm⟩
    exact ⟨front' ++ later', sets?_cons.2 ⟨front', later', one', rest', rfl⟩, perm'.append perm⟩

/-- **A JSON text is read as entries that set the same as those that it says.** -/
theorem ofJson_of_says {text : String} {entries : List (String × Given)}
    (h : JsonSays text.toList entries) (set : sets? entries = some sets) :
    ∃ value read sets', Json.parse text = .ok value ∧ Given.ofJson value = .table read ∧
      sets? read = some sets' ∧ sets'.Perm sets := by
  generalize letters : text.toList = all at h
  obtain ⟨blank, blank', spells, h, distinct⟩ := h
  rename_i front cs behind fields
  obtain ⟨values, reads, same⟩ : ∃ values : Fields,
      List.Forall₂ (fun x y => x.1 = y.1 ∧ Json.ReadsAs 127 x.2 y.2) fields values ∧
      List.Forall₂ (fun entry value => entry.1 = value.1 ∧
        SameGiven entry.2 (Given.ofJson value.2)) entries values := by
    clear distinct set spells
    induction h with
    | nil => exact ⟨[], .nil, .nil⟩
    | @cons entry field entries fields first _ ih =>
      obtain ⟨values, reads, same⟩ := ih
      obtain ⟨w, read, given⟩ := first.2.reads (by decide : 0 < 126)
      exact ⟨(field.1, w) :: values, .cons ⟨rfl, read⟩ reads, .cons ⟨first.1, given⟩ same⟩
  have parsed := Json.parse_of_spaced letters blank blank' spells
    (Json.readsAs_object (by decide) reads)
  obtain ⟨sets', set', perm⟩ := sets?_same same set
  rw [← names_of_forall₂ (r := fun g v => SameGiven g (Given.ofJson v)) same] at distinct
  obtain ⟨read, all, perm'⟩ := sets?_perm (ofList_perm distinct).symm set'
  exact ⟨_, _, read, parsed, by rw [Given.ofJson], all, perm'.trans perm⟩

/-! ## Texts in both formats -/

/-- What a text in a format says. -/
def Format.Says (format : Format) (text : List Char) (entries : List (String × Given)) : Prop :=
  match format with
  | .toml => Toml.Says text entries
  | .json => JsonSays text entries

/-- **A text that sets each key once is read as entries that set the same.** -/
theorem entries_of_says {format : Format} {text : String} {entries : List (String × Given)}
    (h : format.Says text.toList entries) (set : sets? entries = some sets)
    (distinct : (sets.map Prod.fst).Nodup) (path : String) :
    ∃ read sets', format.entries path text = .ok read ∧ sets? read = some sets' ∧
      sets'.Perm sets := by
  cases format with
  | toml => exact Toml.parse_of_says h set distinct
  | json =>
    obtain ⟨value, read, sets', parsed, given, all, perm⟩ := ofJson_of_says h set
    exact ⟨read, sets', by simp only [Format.entries, parsed, given], all, perm⟩

/-! ## Where the file is -/

theorem pathOf_eq (name : String) : pathOf name = ⟨"config" :: Text.fieldsAt '/' name⟩ := by
  have front : ("config/" ++ name).toList = "config".toList ++ '/' :: name.toList := by simp
  rw [pathOf, WrittenPath.ofText, Text.fieldsAt, front, Text.splitAt_append rfl]
  rfl

theorem fieldsAt_eq_self {name : String} (one : '/' ∉ name.toList) :
    Text.fieldsAt '/' name = [name] := by
  have apart : ∀ c ∈ name.toList, (c == '/') = false := by
    rintro c mem
    exact beq_false_of_ne fun same => one (same ▸ mem)
  rw [Text.fieldsAt, Text.splitAt_of_none apart, List.map_singleton, String.ofList_toList]

theorem trimmed_concat {first name : String} {names : List String}
    (proper : WrittenPath.isProper name = true) :
    WrittenPath.trimmed (first :: (names ++ [name])) = first :: (names ++ [name]) := by
  have goes : WrittenPath.stays name = false := by
    simp only [WrittenPath.isProper, Bool.and_eq_true, Bool.not_eq_true'] at proper
    exact proper.1
  simp [WrittenPath.trimmed, goes]

theorem lastName?_concat {first name : String} {names : List String}
    (proper : WrittenPath.isProper name = true) :
    lastName? ⟨first :: (names ++ [name])⟩ = some name := by
  rw [lastName?, trimmed_concat proper, ← List.cons_append, List.getLast?_concat,
    Option.filter_some, if_pos proper]

/-- **The file of a name without a slash is in the directory itself**, as that name or with the
extension of a format in addition. -/
theorem Format.pathOf_eq {name : String} (one : '/' ∉ name.toList)
    (proper : WrittenPath.isProper name = true) (format : Format) :
    format.pathOf name = ⟨["config", name ++ "." ++ format.extension]⟩ := by
  have names : Settings.pathOf name = ⟨"config" :: ([] ++ [name])⟩ := by
    rw [Settings.pathOf_eq, fieldsAt_eq_self one, List.nil_append]
  rw [Format.pathOf, names, lastName?_concat proper]
  simp only [trimmed_concat proper]
  rfl

theorem extension?_concat {front extension : String} (begun : front ≠ "")
    (one : '.' ∉ extension.toList) : extension? (front ++ "." ++ extension) = some extension := by
  have letters : (front ++ "." ++ extension).toList.reverse =
      extension.toList.reverse ++ '.' :: front.toList.reverse := by simp
  have kept : ∀ c ∈ extension.toList.reverse, (c != '.') = true := by
    rintro c mem
    exact bne_iff_ne.2 fun same => one (same ▸ List.mem_reverse.1 mem)
  obtain ⟨c, cs, more⟩ := List.exists_cons_of_ne_nil
    (List.reverse_eq_nil_iff.not.2 fun nothing => begun (String.toList_eq_nil_iff.1 nothing))
  rw [extension?, letters, List.span_eq_takeWhile_dropWhile, List.takeWhile_append_of_pos kept,
    List.dropWhile_append_of_pos kept, more]
  simp

theorem isProper_concat (front : String) (format : Format) :
    WrittenPath.isProper (front ++ "." ++ format.extension) = true := by
  have last : ∃ c, (front ++ "." ++ format.extension).toList.getLast? = some c ∧ c ≠ '.' := by
    cases format <;> exact ⟨_, by simp [Format.extension]; rfl, by decide⟩
  obtain ⟨c, last, other⟩ := last
  have apart (name : String) (point : ∀ c ∈ name.toList.getLast?, c = '.') :
      front ++ "." ++ format.extension ≠ name := fun same => other (point c (same ▸ last))
  simp [WrittenPath.isProper, WrittenPath.stays, apart "" (by simp), apart "." (by simp),
    apart ".." (by simp)]

theorem formatOf?_pathOf {front : String} (begun : ∃ c ∈ front.toList.getLast?, c ≠ '/')
    (format : Format) : formatOf? (pathOf (front ++ "." ++ format.extension)) = some format := by
  obtain ⟨c, last, other⟩ := begun
  obtain ⟨cs, letters⟩ := List.getLast?_eq_some_iff.1 last
  have apart : ∀ x ∈ c :: ("." ++ format.extension).toList, (x == '/') = false := by
    rintro x (_ | ⟨_, mem⟩)
    · exact beq_false_of_ne other
    · revert x
      cases format <;> decide
  -- What stands behind the last slash is not empty, and goes on with the extension.
  obtain ⟨names, part, begun, fields⟩ : ∃ names part, part ≠ "" ∧
      Text.fieldsAt '/' (front ++ "." ++ format.extension) =
        names ++ [part ++ "." ++ format.extension] := by
    have whole : (front ++ "." ++ format.extension).toList =
        cs ++ c :: ("." ++ format.extension).toList := by simp [letters]
    have nonempty := Text.splitAt_ne_nil (· == '/') cs
    refine ⟨(Text.splitAt (· == '/') cs).dropLast.map .ofList,
      .ofList ((Text.splitAt (· == '/') cs).getLast nonempty ++ [c]), by simp, ?_⟩
    rw [Text.fieldsAt, whole, Text.splitAt_append_of_none apart, List.map_append,
      List.map_singleton]
    simp [← String.toList_inj]
  have one : '.' ∉ format.extension.toList := by cases format <;> decide
  rw [formatOf?, pathOf_eq, fields, lastName?_concat (isProper_concat part format),
    Option.bind_some, extension?_concat begun one]
  cases format <;> rfl

/-- What the file that is looked for under a name says; nothing if there is none. The one of exactly
this name comes first, and then the one with the extension of TOML. -/
inductive FileSays (tree : FileTree) (name : String) : List (String × Given) → Prop
  | absent (nowhere : ∀ path ∈ candidates name, bytesAt? tree path = none) : FileSays tree name []
  | named {front format text entries} (same : name = front ++ "." ++ Format.extension format)
    (begun : ∃ c ∈ front.toList.getLast?, c ≠ '/')
    (there : bytesAt? tree (pathOf name) = some (Utf8.bytesOf text))
    (h : format.Says text.toList entries) : FileSays tree name entries
  | extended {format text entries} (unnamed : bytesAt? tree (pathOf name) = none)
    (first : format ≠ .toml → bytesAt? tree (Format.toml.pathOf name) = none)
    (there : bytesAt? tree (Format.pathOf format name) = some (Utf8.bytesOf text))
    (h : format.Says text.toList entries) : FileSays tree name entries

theorem FileSays.found {tree : FileTree} {name : String} {entries : List (String × Given)}
    (h : FileSays tree name entries) :
    foundAt? tree name = none ∧ entries = [] ∨ ∃ format path text,
      foundAt? tree name = some (format, path, Utf8.bytesOf text) ∧
        format.Says text.toList entries := by
  unfold foundAt?
  cases h with
  | absent nowhere =>
    have unnamed := nowhere _ List.mem_cons_self
    have unextended (format : Format) (mem : format ∈ Format.all) :
        bytesAt? tree (format.pathOf name) = none :=
      nowhere _ (List.mem_cons_of_mem _ (List.mem_map_of_mem mem))
    rw [unnamed]
    refine .inl ⟨List.findSome?_eq_none_iff.2 fun format mem => ?_, rfl⟩
    rw [unextended format mem]
    rfl
  | @named front format text _ same begun there h =>
    refine .inr ⟨format, Settings.pathOf name, text, ?_, h⟩
    rw [there, same]
    simp only [formatOf?_pathOf begun, Option.map_some]
  | @extended format text _ unnamed first there h =>
    refine .inr ⟨format, format.pathOf name, text, ?_, h⟩
    rw [unnamed]
    cases format with
    | toml => simp [Format.all, there]
    | json => simp [Format.all, there, first (by decide)]

/-- **The file that an environment asks for is found, and read as what it says.** -/
theorem fileSource_of_says {tree : FileTree} {environment : Entries String}
    {entries : List (String × Given)} (h : FileSays tree (fileName environment) entries)
    (set : sets? entries = some sets) (distinct : (sets.map Prod.fst).Nodup) :
    ∃ file sets', fileSource tree environment = .ok file ∧
      sets? (file.elim [] Prod.snd) = some sets' ∧ sets'.Perm sets := by
  unfold fileSource findFile?
  obtain ⟨nowhere, rfl⟩ | ⟨format, path, text, found, h⟩ := h.found
  · refine ⟨none, sets, ?_, set, .refl _⟩
    rw [nowhere]
    rfl
  · obtain ⟨entries', sets', read, all, perm⟩ :=
      entries_of_says h set distinct (TreePath.text (.ofText path.text))
    refine ⟨some (.file (TreePath.text (.ofText path.text)), entries'), sets', ?_, all, perm⟩
    simp only [found, Option.bind_eq_bind, Option.bind_some, Utf8.textOf?_bytesOf,
      File.readSource, read, Except.map, Option.pure_def]

end ConversationMemory.Settings
