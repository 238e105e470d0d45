import ConversationMemory.Proofs.Entries
import ConversationMemory.Settings.Load

/-!
# The six settings, key by key

What a source sets, without regard to how it is laid over others.

* `Key`: the settings by name. `Value`: what one of them can be. `Settings.valueOf`: the value of
  each key in some settings.
* `Key.value?`: the value that a key takes from what a source gives, when that is of its type.
  `toText_of_value?`, `toNat64_of_value?` and `optionalNat64_of_value?` say that reading the
  settings takes the same value. `value?_repr`: any number of 64 bits can be given for a time.
* `sets?`: what the entries of a source set, when they set nothing but the six keys to values of
  their types. `lastOf`: what a key is set to last.
* `OnlySets`: an environment that sets nothing else either; `sets?_environmentSource` says what it
  sets.
-/

namespace ConversationMemory.Settings

/-! ## Keys and their values -/

/-- The settings by name. -/
inductive Key
  | messagesPath
  | userAgent
  | requestTimeout
  | operationTimeout
  | storeRoot
  | logLevel
  deriving DecidableEq, Repr

/-- What a setting can be. -/
inductive Value
  | text (text : String)
  | milliseconds (count : Nat)
  deriving DecidableEq, Repr

/-- The value of a key; only the time for a whole operation need not have one. -/
def valueOf (settings : Settings) : Key → Option Value
  | .messagesPath => some (.text settings.memory.messagesPath)
  | .userAgent => some (.text settings.memory.userAgent)
  | .requestTimeout => some (.milliseconds settings.memory.requestTimeoutMs.toNat)
  | .operationTimeout => settings.memory.operationTimeoutMs.map (.milliseconds ·.toNat)
  | .storeRoot => some (.text settings.storeRoot)
  | .logLevel => some (.text settings.logLevel)

namespace Key

/-- All keys. -/
def all : List Key :=
  [messagesPath, userAgent, requestTimeout, operationTimeout, storeRoot, logLevel]

/-- The section that a key is in. -/
def sectionName : Key → String
  | messagesPath | userAgent | requestTimeout | operationTimeout => "memory"
  | storeRoot => "store"
  | logLevel => "logging"

/-- The name of a key in its section. -/
def partName : Key → String
  | messagesPath => "messages_path"
  | userAgent => "user_agent"
  | requestTimeout => "request_timeout_ms"
  | operationTimeout => "operation_timeout_ms"
  | storeRoot => "root"
  | logLevel => "level"

/-- The variable of the environment that sets a key. -/
def variableName : Key → String
  | messagesPath => "APP__MEMORY__MESSAGES_PATH"
  | userAgent => "APP__MEMORY__USER_AGENT"
  | requestTimeout => "APP__MEMORY__REQUEST_TIMEOUT_MS"
  | operationTimeout => "APP__MEMORY__OPERATION_TIMEOUT_MS"
  | storeRoot => "APP__STORE__ROOT"
  | logLevel => "APP__LOGGING__LEVEL"

/-- Keys whose value is a time. -/
def isTimeout : Key → Bool
  | requestTimeout | operationTimeout => true
  | _ => false

theorem eq_of_names {key other : Key} (sections : key.sectionName = other.sectionName)
    (parts : key.partName = other.partName) : key = other := by
  revert sections parts
  cases key <;> cases other <;> decide

theorem variableName_inj {key other : Key} (h : key.variableName = other.variableName) :
    key = other := by
  revert h
  cases key <;> cases other <;> decide

/-! ## What a source gives a key -/

/-- The number that decimal digits make up. -/
def decimal? (text : String) : Option Nat :=
  if text.toList ≠ [] ∧ text.toList.all Char.isDigit then some (Nat.ofDigitChars 10 text.toList 0)
  else none

/-- A time in milliseconds, a number of 64 bits. -/
def time? (count : Nat) : Option Value :=
  if count < UInt64.size then some (.milliseconds count) else none

/-- The value that a key takes from what a source gives: a text as it is, and for a time a number or
its digits. Nothing else is of the type of a key. -/
def value? (key : Key) : Given → Option Value
  | .text text => if key.isTimeout then (decimal? text).bind time? else some (.text text)
  | .integer i => if key.isTimeout ∧ 0 ≤ i then time? i.toNat else none
  | _ => none

theorem value?_repr {key : Key} {n : Nat} (kind : key.isTimeout = true) (bound : n < UInt64.size) :
    key.value? (.text n.repr) = some (.milliseconds n) := by
  have digits : ∀ c ∈ Nat.toDigits 10 n, c.isDigit = true :=
    fun _ hc => Nat.isDigit_of_mem_toDigits (by decide) (by decide) hc
  have read : decimal? n.repr = some n := by
    simpa [decimal?, Nat.toList_repr, Nat.ofDigitChars_ten_toDigits] using digits
  rw [value?, if_pos kind, read, Option.bind_some, time?, if_pos bound]

/-! ## Digits -/

theorem toLower_eq_self {c : Char} (h : c.isDigit = true) : c.toLower = c := by
  refine dif_neg ?_
  simp only [Char.isDigit, ge_iff_le, UInt32.le_iff_toNat_le, Bool.and_eq_true,
    decide_eq_true_eq] at h ⊢
  have : '9'.val.toNat < 'A'.val.toNat := by decide
  omega

theorem hexDigit?_of_isDigit {c : Char} (h : c.isDigit = true) :
    Text.hexDigit? c = some (c.toNat - 48) := by
  simp only [Char.isDigit, ge_iff_le, Bool.and_eq_true, decide_eq_true_eq] at h
  exact if_pos h

theorem valueIn_eq_ofDigitChars {cs : List Char} (digits : cs.all Char.isDigit = true) :
    Text.valueIn 10 cs = Nat.ofDigitChars 10 cs 0 := by
  rw [Nat.ofDigitChars_eq_foldl, Text.valueIn]
  generalize 0 = n
  induction cs generalizing n with
  | nil => rfl
  | cons c rest ih =>
    rw [List.all_cons, Bool.and_eq_true] at digits
    rw [List.filterMap_cons_some (hexDigit?_of_isDigit digits.1), List.foldl_cons, List.foldl_cons,
      ih digits.2, Nat.mul_comm]
    rfl

theorem natOfDigits?_eq {cs : List Char} (nonempty : cs ≠ []) (digits : cs.all Char.isDigit = true)
    (bound : Nat.ofDigitChars 10 cs 0 < UInt64.size) :
    Given.natOfDigits? cs = some (Nat.ofDigitChars 10 cs 0) := by
  obtain ⟨c, rest, rfl⟩ := List.exists_cons_of_ne_nil nonempty
  have unsigned : c ≠ '+' := by
    rintro rfl
    simp [Char.isDigit] at digits
  have le : Nat.ofDigitChars 10 (c :: rest) 0 ≤ Given.greatest := Nat.le_sub_one_of_lt bound
  rw [← valueIn_eq_ofDigitChars digits] at le ⊢
  rw [List.all_eq_true] at digits
  simpa [Given.natOfDigits?, unsigned, le] using digits

theorem natOfText?_eq_natOfDigits? {text : String} (nonempty : text.toList ≠ [])
    (digits : text.toList.all Char.isDigit = true) :
    Given.natOfText? text = Given.natOfDigits? text.toList := by
  obtain ⟨c, rest, letters⟩ := List.exists_cons_of_ne_nil nonempty
  have first : c.isDigit = true := List.all_eq_true.mp digits c (by simp [letters])
  have noWord (word : String) (lettered : word.toList.head?.any Char.isDigit = false) :
      String.ofList (text.toList.map Char.toLower) ≠ word := by
    rintro rfl
    simp [letters, toLower_eq_self first, first] at lettered
  simp [Given.natOfText?, noWord "true" rfl, noWord "on" rfl, noWord "yes" rfl,
    noWord "false" rfl, noWord "off" rfl, noWord "no" rfl]

/-! ## Reading takes the same value -/

theorem toText_of_value? {key : Key} {given : Given} {value : Value} (kind : key.isTimeout = false)
    (h : key.value? given = some value) :
    ∃ text, given.toText = .ok text ∧ value = .text text := by
  cases given with
  | text text =>
    rw [value?, kind] at h
    cases h
    exact ⟨text, rfl, rfl⟩
  | integer i => simp [value?, kind] at h
  | _ => cases h

theorem toNat64_of_value? {key : Key} {given : Given} {value : Value} (kind : key.isTimeout = true)
    (h : key.value? given = some value) :
    ∃ n, given.toNat64 = .ok (UInt64.ofNat n) ∧ n < UInt64.size ∧ value = .milliseconds n := by
  cases given with
  | text text =>
    simp only [value?, kind, if_true, Option.bind_eq_some_iff, decimal?, time?, ne_eq,
      Option.ite_none_right_eq_some, Option.some.injEq] at h
    obtain ⟨n, ⟨⟨nonempty, digits⟩, rfl⟩, bound, rfl⟩ := h
    refine ⟨_, ?_, bound, rfl⟩
    rw [Given.toNat64, natOfText?_eq_natOfDigits? nonempty digits,
      natOfDigits?_eq nonempty digits bound]
    rfl
  | integer i =>
    simp only [value?, time?, Option.ite_none_right_eq_some, Option.some.injEq] at h
    obtain ⟨⟨-, natural⟩, bound, rfl⟩ := h
    exact ⟨i.toNat, if_pos natural, bound, rfl⟩
  | _ => cases h

theorem optionalNat64_of_value? {key : Key} {given : Given} {value : Value}
    (h : key.value? given = some value) :
    Setting.optionalNat64 given = given.toNat64.map some := by
  cases given with
  | nothing => cases h
  | _ => rfl

/-! ## By name -/

/-- The key of a part of a section; the case of names does not matter. -/
def ofNames? (sectionName partName : String) : Option Key :=
  all.find? fun key =>
    key.sectionName = Setting.fold sectionName ∧ key.partName = Setting.fold partName

theorem ofNames?_eq_some {sectionName partName : String} {key : Key}
    (h : ofNames? sectionName partName = some key) :
    Setting.fold sectionName = key.sectionName ∧ Setting.fold partName = key.partName := by
  have found := List.find?_some h
  simp only [decide_eq_true_eq] at found
  exact ⟨found.1.symm, found.2.symm⟩

end Key

/-! ## What a source sets -/

/-- The key that a part of a section is set under, with its value. -/
def assignment? (sectionName partName : String) (given : Given) : Option (Key × Value) := do
  let key ← Key.ofNames? sectionName partName
  let value ← key.value? given
  return (key, value)

/-- What the parts of a section set. -/
def partSets? (sectionName : String) : List (String × Given) → Option (List (Key × Value))
  | [] => some []
  | (partName, given) :: rest => do
    let first ← assignment? sectionName partName given
    let others ← partSets? sectionName rest
    return first :: others

/-- What an entry of a source sets: a section with its parts, or a part by its path. -/
def entrySets? (name : String) (given : Given) : Option (List (Key × Value)) :=
  match Setting.pathOf name, given with
  | [.name sectionName], .table parts => partSets? sectionName parts
  | [.name sectionName, .name partName], given =>
    (assignment? sectionName partName given).map ([·])
  | _, _ => none

/-- What a source sets, if that is nothing but keys with values of their types. -/
def sets? : List (String × Given) → Option (List (Key × Value))
  | [] => some []
  | (name, given) :: rest => do
    let first ← entrySets? name given
    let others ← sets? rest
    return first ++ others

theorem assignment?_eq_some {sectionName partName : String} {given : Given} {set : Key × Value}
    (h : assignment? sectionName partName given = some set) :
    Setting.fold sectionName = set.1.sectionName ∧ Setting.fold partName = set.1.partName ∧
      set.1.value? given = some set.2 := by
  simp only [assignment?, Option.bind_eq_bind, Option.bind_eq_some_iff] at h
  obtain ⟨key, named, value, valued, ⟨⟩⟩ := h
  obtain ⟨sections, parts⟩ := Key.ofNames?_eq_some named
  exact ⟨sections, parts, valued⟩

/-- What a key is set to last. -/
def lastOf (sets : List (Key × Value)) (key : Key) : Option Value := sets.reverse.lookup key

theorem lastOf_append (sets later : List (Key × Value)) (key : Key) :
    lastOf (sets ++ later) key = (lastOf later key).or (lastOf sets key) := by
  rw [lastOf, List.reverse_append, List.lookup_append]
  rfl

theorem lastOf_singleton (key other : Key) (value : Value) :
    lastOf [(key, value)] other = if other = key then some value else none := by
  rw [lastOf, List.reverse_singleton, List.lookup_cons]
  by_cases same : other = key
  · simp [same]
  · simp [same, beq_false_of_ne same]

theorem sets?_standard :
    ∃ sets, sets? standard.source = some sets ∧ ∀ key, lastOf sets key = standard.valueOf key :=
  ⟨_, rfl, fun key => by cases key <;> rfl⟩

/-! ## What an environment sets -/

/-- An environment whose variables for settings are those of keys, with texts of their types. -/
structure OnlySets (environment : Entries String) : Prop where
  distinct : (environment.map Prod.fst).Nodup
  settings : ∀ name text, (name, text) ∈ environment → settingOf? name ≠ none →
    ∃ key value, name = Key.variableName key ∧ key.value? (.text text) = some value

/-- The value that the variable of a key has. -/
def environmentValue? (environment : Entries String) (key : Key) : Option Value :=
  (environment.get? key.variableName).bind fun text => key.value? (.text text)

theorem OnlySets.of_cons {entry : String × String} {environment : Entries String}
    (h : OnlySets (entry :: environment)) : OnlySets environment :=
  ⟨(List.nodup_cons.mp h.distinct).2,
    fun name text mem => h.settings name text (List.mem_cons_of_mem _ mem)⟩

theorem settingOf?_variableName (key : Key) :
    settingOf? key.variableName = some (key.sectionName ++ "." ++ key.partName) := by
  cases key <;> decide +kernel

theorem entrySets?_of_value? {key : Key} {given : Given} {value : Value}
    (h : key.value? given = some value) :
    entrySets? (key.sectionName ++ "." ++ key.partName) given = some [(key, value)] := by
  have path : Setting.pathOf (key.sectionName ++ "." ++ key.partName) =
      [.name key.sectionName, .name key.partName] := by
    cases key <;> decide +kernel
  have named : Key.ofNames? key.sectionName key.partName = some key := by
    cases key <;> decide
  simp [entrySets?, path, assignment?, named, h]

theorem environmentSource_cons (name text : String) (rest : Entries String) :
    environmentSource ((name, text) :: rest) =
      ((settingOf? name).map (·, Given.text text)).toList ++ environmentSource rest := by
  cases set : settingOf? name <;> simp [environmentSource, set]

theorem sets?_environmentSource {environment : Entries String} (h : OnlySets environment) :
    ∃ sets, sets? (environmentSource environment) = some sets ∧
      ∀ key, lastOf sets key = environmentValue? environment key := by
  induction environment with
  | nil => exact ⟨[], rfl, fun _ => rfl⟩
  | cons entry rest ih =>
    obtain ⟨name, text⟩ := entry
    obtain ⟨sets, source, last⟩ := ih h.of_cons
    rw [environmentSource_cons]
    cases set : settingOf? name with
    | none =>
      refine ⟨sets, source, fun key => ?_⟩
      have other : key.variableName ≠ name := by
        rintro rfl
        cases set.symm.trans (settingOf?_variableName key)
      rw [last, environmentValue?, environmentValue?, Entries.get?_cons, if_neg other]
    | some setting =>
      obtain ⟨key, value, rfl, valued⟩ := h.settings name text List.mem_cons_self (by simp [set])
      cases set.symm.trans (settingOf?_variableName key)
      -- No later variable has this name, so what it sets is what its key is set to last.
      have fresh : Entries.get? rest key.variableName = none :=
        Option.eq_none_iff_forall_ne_some.mpr fun _ found =>
          (List.nodup_cons.mp h.distinct).1
            (List.mem_map.mpr ⟨_, Entries.mem_of_get? found, rfl⟩)
      refine ⟨[(key, value)] ++ sets, ?_, fun other => ?_⟩
      · rw [Option.map_some, Option.toList_some, List.singleton_append, sets?,
          entrySets?_of_value? valued, source]
        rfl
      · rw [lastOf_append, lastOf_singleton, last, environmentValue?, environmentValue?,
          Entries.get?_cons]
        by_cases same : other = key
        · simp [same, fresh, valued]
        · have apart : other.variableName ≠ key.variableName :=
            fun names => same (Key.variableName_inj names)
          simp [same, apart]

end ConversationMemory.Settings
