import ConversationMemory.Proofs.Settings.File

/-!
# Settings in layers, key by key

A source that is laid over others gives the keys that it sets their values and leaves all others as
they are, also those of the same section. So each setting is the one of the environment, or else the
one of the file, or else the standard one, and the settings can always be read.

* `under`: what the layers hold under a key. `Becomes`: what a source that sets a key to some value,
  or does not set it, makes of what is held there.
* `Lays`: all keys become what some source sets them to; `lays_laySource` for the sources of
  `sets?`.
* `read_of_becomes`: layers that hold values of the right types are read as these values.
-/

namespace ConversationMemory.Settings

open Setting

/-! ## Under a key -/

/-- What the layers hold under a key, in its section. -/
def under (all : Setting) (key : Key) : Option Setting :=
  (entries ((entries (some all)).get? key.sectionName)).get? key.partName

/-- What is held under a key stays when no source sets it, and else becomes the value that it is set
to. -/
inductive Becomes (key : Key) : Option Value → Option Setting → Option Setting → Prop
  | kept {slot} : Becomes key none slot slot
  | set {slot given origin value} (valued : key.value? given = some value) :
    Becomes key (some value) slot (some (.value given origin))

theorem Becomes.trans {key : Key} {first second : Option Value} {a b c : Option Setting}
    (h : Becomes key first a b) (h' : Becomes key second b c) :
    Becomes key (second.or first) a c := by
  cases h' with
  | kept => exact h
  | set valued => exact .set valued

theorem Becomes.eq_of_none {key : Key} {a b : Option Setting} (h : Becomes key none a b) :
    b = a := by
  cases h
  rfl

/-- All keys become what some source sets them to. -/
def Lays (sets : List (Key × Value)) (below above : Setting) : Prop :=
  ∀ key, Becomes key (lastOf sets key) (under below key) (under above key)

theorem Lays.trans {sets later : List (Key × Value)} {a b c : Setting} (h : Lays sets a b)
    (h' : Lays later b c) : Lays (sets ++ later) a c := fun key => by
  rw [lastOf_append]
  exact (h key).trans (h' key)

/-! ## Laying the parts of a section -/

@[simp] theorem entries_withEntries (parts : Table String Setting) (below : Option Setting) :
    entries (some (withEntries parts below)) = parts := by
  rcases below with _ | (_ | _ | _) <;> rfl

theorem entries_lay_table (origin : Option Origin) (parts : List (String × Given))
    (below : Option Setting) :
    entries (some (lay origin (.table parts) below)) = layAll origin parts (entries below) := by
  rcases parts with _ | ⟨part, parts⟩ <;> cases below <;> simp [lay, layAll]

theorem lay_of_value? {key : Key} {given : Given} {value : Value} (origin : Option Origin)
    (below : Option Setting) (h : key.value? given = some value) :
    lay origin given below = .value given origin := by
  cases given with
  | text | integer => rfl
  | _ => cases h

theorem becomes_layAll {sectionName : String} {parts : List (String × Given)}
    {sets : List (Key × Value)} (h : partSets? sectionName parts = some sets)
    (origin : Option Origin) (below : Table String Setting) {key : Key}
    (inSection : fold sectionName = key.sectionName) :
    Becomes key (lastOf sets key) (below.get? key.partName)
      ((layAll origin parts below).get? key.partName) := by
  induction parts generalizing below sets with
  | nil =>
    cases h
    exact .kept
  | cons part rest ih =>
    obtain ⟨name, given⟩ := part
    simp only [partSets?, Option.bind_eq_bind, Option.bind_eq_some_iff] at h
    obtain ⟨⟨other, value⟩, first, others, later, ⟨⟩⟩ := h
    obtain ⟨sections, parts, valued⟩ := assignment?_eq_some first
    rw [← List.singleton_append, lastOf_append, layAll, lay_of_value? _ _ valued, parts]
    refine Becomes.trans ?_ (ih later _)
    rw [lastOf_singleton]
    by_cases same : key = other
    · subst same
      rw [if_pos rfl, Table.get?_set_self]
      exact .set valued
    · have apart : key.partName ≠ other.partName :=
        fun names => same (Key.eq_of_names (inSection.symm.trans sections) names)
      rw [if_neg same, Table.get?_set_of_ne _ apart]
      exact .kept

theorem lastOf_eq_none_of_partSets? {sectionName : String} {parts : List (String × Given)}
    {sets : List (Key × Value)} (h : partSets? sectionName parts = some sets) {key : Key}
    (elsewhere : fold sectionName ≠ key.sectionName) : lastOf sets key = none := by
  induction parts generalizing sets with
  | nil =>
    cases h
    rfl
  | cons part rest ih =>
    obtain ⟨name, given⟩ := part
    simp only [partSets?, Option.bind_eq_bind, Option.bind_eq_some_iff] at h
    obtain ⟨⟨other, value⟩, first, others, later, ⟨⟩⟩ := h
    have apart : key ≠ other := by
      rintro rfl
      exact elsewhere (assignment?_eq_some first).1
    rw [← List.singleton_append, lastOf_append, ih later, lastOf_singleton, if_neg apart]
    rfl

/-! ## Laying a source -/

theorem lays_section {sectionName : String} {parts : List (String × Given)}
    {sets : List (Key × Value)} (h : partSets? sectionName parts = some sets)
    {origin : Option Origin} {f : Option Setting → Setting}
    (lays : ∀ slot, entries (some (f slot)) = layAll origin parts (entries slot))
    (below : Setting) : Lays sets below (change f [.name sectionName] (some below)) := by
  intro key
  simp only [under, change, entries_withEntries]
  by_cases inSection : fold sectionName = key.sectionName
  · rw [inSection, Table.get?_set_self, lays]
    exact becomes_layAll h origin _ inSection
  · rw [Table.get?_set_of_ne _ (Ne.symm inSection), lastOf_eq_none_of_partSets? h inSection]
    exact .kept

theorem lays_layAt {name : String} {given : Given} {sets : List (Key × Value)}
    (h : entrySets? name given = some sets) (origin : Option Origin) (below : Setting) :
    Lays sets below (layAt origin given (Setting.pathOf name) below) := by
  unfold entrySets? at h
  split at h
  · rename_i sectionName parts path
    rw [path]
    exact lays_section h (entries_lay_table origin parts) below
  · rename_i given _ _ sectionName partName path
    rw [path]
    obtain ⟨set, assigned, rfl⟩ := Option.map_eq_some_iff.mp h
    have one : partSets? sectionName [(partName, given)] = some [set] := by
      simp [partSets?, assigned]
    -- A part by its path is laid as a table of this part alone.
    have alone (slot : Option Setting) :
        entries (some (change (lay origin given) [.name partName] slot)) =
          layAll origin [(partName, given)] (entries slot) := by
      simp [change, layAll]
    exact lays_section one alone below
  · cases h

theorem lays_laySource {source : List (String × Given)} {sets : List (Key × Value)}
    (h : sets? source = some sets) (origin : Option Origin) (below : Setting) :
    Lays sets below (laySource origin source below) := by
  induction source generalizing below sets with
  | nil =>
    cases h
    exact fun _ => .kept
  | cons entry rest ih =>
    simp only [sets?, Option.bind_eq_bind, Option.bind_eq_some_iff] at h
    obtain ⟨first, laid, others, later, ⟨⟩⟩ := h
    exact (lays_layAt laid origin below).trans (ih later _)

theorem becomes_layers {file : Option (Origin × List (String × Given))} {sets : List (Key × Value)}
    (fromFile : sets? (file.elim [] Prod.snd) = some sets) {environment : Entries String}
    (fromEnvironment : OnlySets environment) (key : Key) :
    Becomes key
      ((environmentValue? environment key).or ((lastOf sets key).or (standard.valueOf key))) none
      (under (layers file environment) key) := by
  obtain ⟨bottom, fromStandard, standardValue⟩ := sets?_standard
  obtain ⟨top, fromVariables, variableValue⟩ := sets?_environmentSource fromEnvironment
  have nothing : under (.group [] none) key = none := rfl
  have first := lays_laySource fromStandard none (.group [] none)
  have second : Lays sets (laySource none standard.source (.group [] none))
      (file.elim (laySource none standard.source (.group [] none)) fun source =>
        laySource (some source.1) source.2 (laySource none standard.source (.group [] none))) := by
    cases file with
    | none => exact lays_laySource fromFile none _
    | some source => exact lays_laySource fromFile (some source.1) _
  have all := (first.trans second).trans (lays_laySource fromVariables (some .environment) _)
  have becomes := all key
  rwa [lastOf_append, lastOf_append, standardValue, variableValue, nothing] at becomes

/-! ## Reading the layers -/

section Read

variable {all : Setting} {parts : Parts} {name : String} {key : Key} {value : Value}
  {slot : Option Setting}

theorem section?_of_becomes (shape : Shape) (h : Becomes key (some value) none (under all key))
    (named : shape.name = key.sectionName) :
    ∃ parts, all.section? shape = .ok parts ∧
      ∀ other : Key, other.sectionName = key.sectionName →
        parts.find other.partName =
          (under all other).map (located (shape.name ++ "." ++ other.partName)) := by
  obtain ⟨setting, held⟩ : ∃ setting, under all key = some setting := by
    generalize under all key = slot at h
    cases h with
    | set valued => exact ⟨_, rfl⟩
  rw [under] at held
  cases stands : (entries (some all)).get? key.sectionName with
  | none =>
    rw [stands] at held
    cases held
  | some slot =>
    rw [stands] at held
    cases slot with
    | value | list => cases held
    | group parts origin =>
      refine ⟨_, by rw [section?, named, stands]; rfl, fun other same => ?_⟩
      rw [under, same, stands]
      rfl

theorem required_of_find {part : String} {given : Given} {origin : Option Origin} {α : Type}
    {f : Given → Except Given.Misfit α} {a : α}
    (found : parts.find part = (some (.value given origin)).map (located name))
    (read : f given = .ok a) : parts.required part f = .ok a := by
  simp [Parts.required, found, located, Located.read, read]

theorem toText_required (h : Becomes key (some value) none slot) (kind : key.isTimeout = false)
    (found : parts.find key.partName = slot.map (located name)) :
    ∃ text, value = .text text ∧ parts.required key.partName Given.toText = .ok text := by
  cases h with
  | set valued =>
    obtain ⟨text, read, rfl⟩ := Key.toText_of_value? kind valued
    exact ⟨text, rfl, required_of_find found read⟩

theorem toNat64_required (h : Becomes key (some value) none slot) (kind : key.isTimeout = true)
    (found : parts.find key.partName = slot.map (located name)) :
    ∃ ms : UInt64, value = .milliseconds ms.toNat ∧
      parts.required key.partName Given.toNat64 = .ok ms := by
  cases h with
  | set valued =>
    obtain ⟨n, read, bound, rfl⟩ := Key.toNat64_of_value? kind valued
    refine ⟨.ofNat n, ?_, required_of_find found read⟩
    rw [UInt64.toNat_ofNat_of_lt' bound]

theorem optionalNat64_optional {value : Option Value} (h : Becomes key value none slot)
    (kind : key.isTimeout = true) (found : parts.find key.partName = slot.map (located name)) :
    ∃ ms : Option UInt64, value = ms.map (.milliseconds ·.toNat) ∧
      parts.optional key.partName optionalNat64 = .ok ms := by
  cases h with
  | kept => exact ⟨none, rfl, by simp [Parts.optional, found]⟩
  | set valued =>
    obtain ⟨n, read, bound, rfl⟩ := Key.toNat64_of_value? kind valued
    have optional := Key.optionalNat64_of_value? valued
    refine ⟨some (.ofNat n), ?_, ?_⟩
    · rw [Option.map_some, UInt64.toNat_ofNat_of_lt' bound]
    · simp [Parts.optional, found, located, Located.read, optional, read, Except.map]

theorem read_of_becomes {values : Key → Option Value}
    (h : ∀ key, Becomes key (values key) none (under all key))
    (present : ∀ key, key ≠ .operationTimeout → values key ≠ none) :
    ∃ settings, read all = .ok settings ∧ ∀ key, settings.valueOf key = values key := by
  have held (key : Key) (must : key ≠ .operationTimeout) :
      ∃ value, values key = some value ∧ Becomes key (some value) none (under all key) := by
    obtain ⟨value, same⟩ := Option.ne_none_iff_exists'.mp (present key must)
    exact ⟨value, same, same ▸ h key⟩
  obtain ⟨_, pathValue, path⟩ := held .messagesPath (by decide)
  obtain ⟨_, agentValue, agent⟩ := held .userAgent (by decide)
  obtain ⟨_, requestValue, request⟩ := held .requestTimeout (by decide)
  obtain ⟨_, rootValue, root⟩ := held .storeRoot (by decide)
  obtain ⟨_, levelValue, level⟩ := held .logLevel (by decide)
  obtain ⟨memory, memoryOk, inMemory⟩ := section?_of_becomes memoryShape path rfl
  obtain ⟨store, storeOk, inStore⟩ := section?_of_becomes storeShape root rfl
  obtain ⟨logging, loggingOk, inLogging⟩ := section?_of_becomes loggingShape level rfl
  obtain ⟨messagesPath, rfl, pathOk⟩ := toText_required path rfl (inMemory .messagesPath rfl)
  obtain ⟨userAgent, rfl, agentOk⟩ := toText_required agent rfl (inMemory .userAgent rfl)
  obtain ⟨requestTimeoutMs, rfl, requestOk⟩ :=
    toNat64_required request rfl (inMemory .requestTimeout rfl)
  obtain ⟨operationTimeoutMs, operationValue, operationOk⟩ :=
    optionalNat64_optional (h .operationTimeout) rfl (inMemory .operationTimeout rfl)
  obtain ⟨storeRoot, rfl, rootOk⟩ := toText_required root rfl (inStore .storeRoot rfl)
  obtain ⟨logLevel, rfl, levelOk⟩ := toText_required level rfl (inLogging .logLevel rfl)
  refine ⟨⟨⟨messagesPath, userAgent, requestTimeoutMs, operationTimeoutMs⟩, storeRoot, logLevel⟩,
    ?_, fun key => ?_⟩
  · simp only [Key.partName] at pathOk agentOk requestOk operationOk rootOk levelOk
    simp [read, memoryOk, storeOk, loggingOk, pathOk, agentOk, requestOk, operationOk, rootOk,
      levelOk, bind, Except.bind, pure, Except.pure]
  · cases key with
    | messagesPath => exact pathValue.symm
    | userAgent => exact agentValue.symm
    | requestTimeout => exact requestValue.symm
    | operationTimeout => exact operationValue.symm
    | storeRoot => exact rootValue.symm
    | logLevel => exact levelValue.symm

end Read

/-- **Settings are layered key by key.** Where the file, be it a text in TOML or in JSON, and the
environment set nothing but keys, with values of their types, there are settings, each key on its
own: that of the environment, or else that of the file, or else the standard one. Laying a source
leaves what stands under each key that it does not set. -/
theorem load_key_by_key {tree : FileTree} {environment : Entries String}
    {entries : List (String × Given)} {fileSets : List (Key × Value)}
    (said : FileSays tree (fileName environment) entries) (fromFile : sets? entries = some fileSets)
    (distinct : (fileSets.map Prod.fst).Nodup) (fromEnvironment : OnlySets environment) :
    (∃ settings, load tree environment = .ok settings ∧
      ∀ key, settings.valueOf key =
        (environmentValue? environment key).or
          ((lastOf fileSets key).or (standard.valueOf key))) ∧
      ∀ (origin : Option Origin) source sets below key, sets? source = some sets →
        lastOf sets key = none → under (laySource origin source below) key = under below key := by
  constructor
  · have present (key : Key) (must : key ≠ .operationTimeout) :
        (environmentValue? environment key).or ((lastOf fileSets key).or (standard.valueOf key)) ≠
          none := by
      have standardly : standard.valueOf key ≠ none := by cases key <;> trivial
      simp [standardly]
    obtain ⟨file, read, found, sets, perm⟩ := fileSource_of_says said fromFile distinct
    have becomes (key : Key) : Becomes key ((environmentValue? environment key).or
        ((lastOf fileSets key).or (standard.valueOf key))) none
        (under (layers file environment) key) := by
      rw [lastOf_perm perm.symm distinct key]
      exact becomes_layers sets fromEnvironment key
    obtain ⟨settings, read, values⟩ := read_of_becomes becomes present
    refine ⟨settings, ?_, values⟩
    rw [load, found]
    exact read
  · intro origin source sets below key fromSource unset
    have becomes := lays_laySource fromSource origin below key
    rw [unset] at becomes
    exact becomes.eq_of_none

/-- A text in TOML that sets parts of two sections. -/
def deskText : String :=
  "[memory]\nuser_agent = \"desk\"\nrequest_timeout_ms = 5\n\n[store]\nroot = \"data\"\n"

/-- What it says. -/
def deskEntries : List (String × Given) :=
  [("memory", .table []), ("memory", .table [("user_agent", .text "desk")]),
    ("memory", .table [("request_timeout_ms", .integer 5)]), ("store", .table []),
    ("store", .table [("root", .text "data")])]

/-- A text in JSON. -/
def homeText : String :=
  "\x7b\"memory\":\x7b\"user_agent\":\"home\",\"operation_timeout_ms\":7\x7d\x7d"

/-- What it says. -/
def homeEntries : List (String × Given) :=
  [("memory", .table [("user_agent", .text "home"), ("operation_timeout_ms", .integer 7)])]

/-- A directory with a file of each. -/
def desk : FileTree where
  entries := [(["config"], .directory), (["config", "dev.toml"], .file (Utf8.bytesOf deskText)),
    (["config", "default.json"], .file (Utf8.bytesOf homeText))]

/-- An environment that asks for the first file and sets two parts of the same sections, one of them
over the file. -/
def shell : Entries String :=
  [("PATH", "/bin"), ("CONFIG_ENV", "dev"), ("APP__MEMORY__OPERATION_TIMEOUT_MS", "1500"),
    ("APP__STORE__ROOT", "kept")]

theorem deskText_says : Toml.Says deskText.toList deskEntries := by
  have five : Toml.Scalar ['5'] (.integer 5) :=
    .whole (.decimal (s := []) .none (.digits (by decide) .nil
      ⟨[5], .cons ⟨by decide, by decide⟩ .nil, rfl⟩)) (by decide) (by decide)
  have lines : Toml.Lines {} _ _ :=
    .header (a := []) Toml.blanks_nil (.bare "memory" (by decide) (by decide) Toml.blanks_nil)
      ⟨by decide, by decide⟩ (.feed _) <|
    .part rfl (.bare "user_agent" (by decide) (by decide) Toml.blanks_space) Toml.blanks_space
      (.plainly "desk" (by decide)) (.feed _) <|
    .part rfl (.bare "request_timeout_ms" (by decide) (by decide) Toml.blanks_space)
      Toml.blanks_space five (.feed _) <|
    .empty (.feed _) <|
    .header (a := []) Toml.blanks_nil (.bare "store" (by decide) (by decide) Toml.blanks_nil)
      ⟨by decide, by decide⟩ (.feed _) <|
    .part rfl (.bare "root" (by decide) (by decide) Toml.blanks_space) Toml.blanks_space
      (.plainly "data" (by decide)) (.feed _) .nil
  exact .plain lines

theorem homeText_says : JsonSays homeText.toList homeEntries := by
  have letters : homeText.toList = [] ++ (Json.compactChars (.object [("memory", .object
      [("user_agent", .string "home"),
        ("operation_timeout_ms", .number (.integer 7))])]) ++ []) := by
    decide +kernel
  rw [letters]
  refine .object Json.allBlank_nil Json.allBlank_nil (Json.compactChars_spells _)
    (.cons ⟨rfl, .object (.cons ⟨rfl, .string _⟩ (.cons ⟨rfl, .whole ?_ ?_⟩ .nil)) ?_⟩ .nil) ?_
  all_goals decide

theorem bytesAt?_desk :
    bytesAt? desk ⟨["config", "dev"]⟩ = none ∧
      bytesAt? desk ⟨["config", "dev.toml"]⟩ = some (Utf8.bytesOf deskText) ∧
      bytesAt? desk ⟨["config", "default"]⟩ = none ∧
      bytesAt? desk ⟨["config", "default.toml"]⟩ = none ∧
      bytesAt? desk ⟨["config", "default.json"]⟩ = some (Utf8.bytesOf homeText) := by
  have plain : ∀ name ∈ ["dev", "dev.toml", "default", "default.toml", "default.json"],
      (⟨["config", name]⟩ : WrittenPath).refusal? = none := by
    simp only [WrittenPath.refusal?, WrittenPath.text, String.contains_char_eq]
    decide +kernel
  simp only [bytesAt?, WrittenPath.readBytes, WrittenPath.find, plain "dev" (by decide),
    plain "dev.toml" (by decide), plain "default" (by decide), plain "default.toml" (by decide),
    plain "default.json" (by decide)]
  decide +kernel

theorem fileSays_shell : FileSays desk (fileName shell) deskEntries := by
  obtain ⟨unnamed, there, -⟩ := bytesAt?_desk
  have name : fileName shell = "dev" := by decide
  have one : '/' ∉ "dev".toList := by decide
  have said : Format.toml.Says deskText.toList _ := deskText_says
  rw [name]
  refine .extended ?_ (absurd rfl) ?_ said
  · rwa [pathOf_eq, fieldsAt_eq_self one]
  · rwa [Format.pathOf_eq one (by decide)]

theorem fileSays_home : FileSays desk (fileName []) homeEntries := by
  obtain ⟨-, -, unnamed, first, there⟩ := bytesAt?_desk
  have name : fileName [] = "default" := by decide
  have one : '/' ∉ "default".toList := by decide
  have said : Format.json.Says homeText.toList _ := homeText_says
  rw [name]
  refine .extended ?_ (fun _ => ?_) ?_ said
  · rwa [pathOf_eq, fieldsAt_eq_self one]
  · rwa [Format.pathOf_eq one (by decide)]
  · rwa [Format.pathOf_eq one (by decide)]

theorem onlySets_shell : OnlySets shell := by
  refine ⟨by decide, fun name text mem isSetting => ?_⟩
  simp only [shell, List.mem_cons, Prod.mk.injEq, List.not_mem_nil, or_false] at mem
  rcases mem with ⟨rfl, rfl⟩ | ⟨rfl, rfl⟩ | ⟨rfl, rfl⟩ | ⟨rfl, rfl⟩
  · exact absurd (by decide +kernel) isSetting
  · exact absurd (by decide +kernel) isSetting
  · have decimal : Nat.repr 1500 = "1500" := by decide +kernel
    exact ⟨.operationTimeout, .milliseconds 1500, rfl,
      decimal ▸ Key.value?_repr rfl (by decide +kernel)⟩
  · exact ⟨.storeRoot, .text "kept", rfl, rfl⟩

theorem onlySets_nil : OnlySets [] := ⟨by decide, by rintro _ _ ⟨⟩⟩

/-- The first file and the environment share two sections, and all five parts that they set count;
without an environment those of the other file do. -/
theorem load_key_by_key_desk :
    (∃ settings, load desk shell = .ok settings ∧ ∀ key, settings.valueOf key =
        Settings.valueOf ⟨⟨"/messages", "desk", 5, some 1500⟩, "kept", "info"⟩ key) ∧
      (∃ settings, load desk [] = .ok settings ∧ ∀ key, settings.valueOf key =
        Settings.valueOf ⟨⟨"/messages", "home", 30000, some 7⟩, standard.storeRoot, "info"⟩ key) ∧
      ∀ below, under (laySource none [("memory.user_agent", .text "other")] below) .messagesPath =
        under below .messagesPath := by
  have deskSets : sets? deskEntries =
      some [(.userAgent, .text "desk"), (.requestTimeout, .milliseconds 5),
        (.storeRoot, .text "data")] := by decide +kernel
  have homeSets : sets? homeEntries =
      some [(.userAgent, .text "home"), (.operationTimeout, .milliseconds 7)] := by decide +kernel
  obtain ⟨⟨settings, loaded, values⟩, leaves⟩ :=
    load_key_by_key fileSays_shell deskSets (by decide) onlySets_shell
  obtain ⟨⟨settings', loaded', values'⟩, -⟩ :=
    load_key_by_key fileSays_home homeSets (by decide) onlySets_nil
  refine ⟨⟨settings, loaded, fun key => (values key).trans ?_⟩,
    ⟨settings', loaded', fun key => (values' key).trans ?_⟩, fun below => ?_⟩
  · cases key <;> decide +kernel
  · cases key <;> decide +kernel
  · exact leaves none _ [(.userAgent, .text "other")] below .messagesPath (by decide +kernel) rfl

end ConversationMemory.Settings
