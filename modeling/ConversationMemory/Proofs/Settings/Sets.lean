import ConversationMemory.Proofs.Settings.Keys

/-!
# What sources set, in any order

* `sets?_append`, `partSets?_append`: sources and sections one after another.
* **`sets?_perm`**, `partSets?_perm`: the order does not matter for which keys are set to what;
  `lastOf_perm`: nor for what they are set to, when each is set once.
* `names_nodup`: the parts of a section that sets each key once have different names.
-/

namespace ConversationMemory.Settings

variable {sectionName : String} {sets others : List (Key × Value)}

/-! ## Sections -/

theorem partSets?_cons {name : String} {given : Given} {parts : List (String × Given)} :
    partSets? sectionName ((name, given) :: parts) = some sets ↔
      ∃ set later, assignment? sectionName name given = some set ∧
        partSets? sectionName parts = some later ∧ sets = set :: later := by
  simp only [partSets?, Option.bind_eq_bind, Option.bind_eq_some_iff, Option.pure_def,
    Option.some.injEq, eq_comm (b := sets)]
  constructor
  · rintro ⟨set, first, later, rest, same⟩
    exact ⟨set, later, first, rest, same⟩
  · rintro ⟨set, later, first, rest, same⟩
    exact ⟨set, first, later, rest, same⟩

theorem partSets?_append {parts more : List (String × Given)}
    (h : partSets? sectionName parts = some sets)
    (h' : partSets? sectionName more = some others) :
    partSets? sectionName (parts ++ more) = some (sets ++ others) := by
  induction parts generalizing sets with
  | nil =>
    cases h
    exact h'
  | cons part parts ih =>
    obtain ⟨set, later, first, rest, rfl⟩ := partSets?_cons.1 h
    exact partSets?_cons.2 ⟨set, later ++ others, first, ih rest, rfl⟩

theorem partSets?_perm {parts parts' : List (String × Given)} (perm : parts.Perm parts')
    (h : partSets? sectionName parts = some sets) :
    ∃ sets', partSets? sectionName parts' = some sets' ∧ sets'.Perm sets := by
  induction perm generalizing sets with
  | nil => exact ⟨sets, h, .refl _⟩
  | cons part _ ih =>
    obtain ⟨set, later, first, rest, rfl⟩ := partSets?_cons.1 h
    obtain ⟨later', rest', perm⟩ := ih rest
    exact ⟨set :: later', partSets?_cons.2 ⟨set, later', first, rest', rfl⟩, perm.cons set⟩
  | swap one two parts =>
    obtain ⟨set, later, first, rest, rfl⟩ := partSets?_cons.1 h
    obtain ⟨set', last, second, rest', rfl⟩ := partSets?_cons.1 rest
    exact ⟨set' :: set :: last, partSets?_cons.2
      ⟨set', set :: last, second, partSets?_cons.2 ⟨set, last, first, rest', rfl⟩, rfl⟩, .swap _ _ _⟩
  | trans _ _ ih ih' =>
    obtain ⟨middle, h, perm⟩ := ih h
    obtain ⟨last, h, perm'⟩ := ih' h
    exact ⟨last, h, perm'.trans perm⟩

theorem assignment?_key {name : String} {given given' : Given} {set set' : Key × Value}
    (h : assignment? sectionName name given = some set)
    (h' : assignment? sectionName name given' = some set') : set.1 = set'.1 := by
  simp only [assignment?, Option.bind_eq_bind, Option.bind_eq_some_iff] at h h'
  obtain ⟨key, named, _, _, ⟨⟩⟩ := h
  obtain ⟨key', named', _, _, ⟨⟩⟩ := h'
  exact Option.some.inj (named.symm.trans named')

theorem mem_partSets? {parts : List (String × Given)} {part : String × Given}
    (h : partSets? sectionName parts = some sets) (mem : part ∈ parts) :
    ∃ set ∈ sets, assignment? sectionName part.1 part.2 = some set := by
  induction parts generalizing sets with
  | nil => cases mem
  | cons other parts ih =>
    obtain ⟨set, later, first, rest, rfl⟩ := partSets?_cons.1 h
    rcases List.mem_cons.1 mem with rfl | mem
    · exact ⟨set, List.mem_cons_self, first⟩
    · obtain ⟨found, mem, assigned⟩ := ih rest mem
      exact ⟨found, List.mem_cons_of_mem _ mem, assigned⟩

theorem names_nodup {parts : List (String × Given)} (h : partSets? sectionName parts = some sets)
    (distinct : (sets.map Prod.fst).Nodup) : (parts.map Prod.fst).Nodup := by
  induction parts generalizing sets with
  | nil => exact .nil
  | cons part parts ih =>
    obtain ⟨set, later, first, rest, rfl⟩ := partSets?_cons.1 h
    obtain ⟨new, distinct⟩ := List.nodup_cons.1 distinct
    refine List.nodup_cons.2 ⟨fun mem => new ?_, ih rest distinct⟩
    obtain ⟨other, mem, same⟩ := List.mem_map.1 mem
    obtain ⟨found, mem, assigned⟩ := mem_partSets? rest mem
    rw [same] at assigned
    exact assignment?_key first assigned ▸ List.mem_map_of_mem mem

/-! ## Sources -/

theorem sets?_cons {name : String} {given : Given} {source : List (String × Given)} :
    sets? ((name, given) :: source) = some sets ↔
      ∃ first later, entrySets? name given = some first ∧ sets? source = some later ∧
        sets = first ++ later := by
  simp only [sets?, Option.bind_eq_bind, Option.bind_eq_some_iff, Option.pure_def,
    Option.some.injEq, eq_comm (b := sets)]
  constructor
  · rintro ⟨first, one, later, rest, same⟩
    exact ⟨first, later, one, rest, same⟩
  · rintro ⟨first, later, one, rest, same⟩
    exact ⟨first, one, later, rest, same⟩

theorem sets?_append {source more : List (String × Given)} :
    sets? (source ++ more) = some sets ↔
      ∃ first later, sets? source = some first ∧ sets? more = some later ∧ sets = first ++ later := by
  induction source generalizing sets with
  | nil => simp [sets?, eq_comm]
  | cons entry source ih =>
    obtain ⟨name, given⟩ := entry
    rw [List.cons_append, sets?_cons]
    constructor
    · rintro ⟨first, _, h, rest, rfl⟩
      obtain ⟨later, last, h', h'', rfl⟩ := ih.1 rest
      exact ⟨first ++ later, last, sets?_cons.2 ⟨_, _, h, h', rfl⟩, h'', (List.append_assoc ..).symm⟩
    · rintro ⟨_, last, whole, h'', rfl⟩
      obtain ⟨first, later, h, h', rfl⟩ := sets?_cons.1 whole
      exact ⟨first, later ++ last, h, ih.2 ⟨later, last, h', h'', rfl⟩, List.append_assoc ..⟩

theorem sets?_perm {source source' : List (String × Given)} (perm : source.Perm source')
    (h : sets? source = some sets) : ∃ sets', sets? source' = some sets' ∧ sets'.Perm sets := by
  induction perm generalizing sets with
  | nil => exact ⟨sets, h, .refl _⟩
  | cons entry _ ih =>
    obtain ⟨first, later, set, rest, rfl⟩ := sets?_cons.1 h
    obtain ⟨later', rest', perm⟩ := ih rest
    exact ⟨first ++ later', sets?_cons.2 ⟨first, later', set, rest', rfl⟩, perm.append_left first⟩
  | swap one two source =>
    obtain ⟨first, later, set, rest, rfl⟩ := sets?_cons.1 h
    obtain ⟨second, last, set', rest', rfl⟩ := sets?_cons.1 rest
    refine ⟨second ++ (first ++ last), sets?_cons.2
      ⟨second, _, set', sets?_cons.2 ⟨first, last, set, rest', rfl⟩, rfl⟩, ?_⟩
    rw [← List.append_assoc, ← List.append_assoc]
    exact List.perm_append_comm.append_right last
  | trans _ _ ih ih' =>
    obtain ⟨middle, h, perm⟩ := ih h
    obtain ⟨last, h, perm'⟩ := ih' h
    exact ⟨last, h, perm'.trans perm⟩

theorem entrySets?_table {name : String} {parts : List (String × Given)} :
    entrySets? name (.table parts) = some sets ↔
      ∃ sectionName, Setting.pathOf name = [.name sectionName] ∧
        partSets? sectionName parts = some sets := by
  constructor
  · intro h
    unfold entrySets? at h
    split at h
    · rename_i path same
      cases same
      exact ⟨_, path, h⟩
    · obtain ⟨set, assigned, rfl⟩ := Option.map_eq_some_iff.1 h
      obtain ⟨-, -, valued⟩ := assignment?_eq_some assigned
      cases valued
    · cases h
  · rintro ⟨sectionName, path, h⟩
    simpa only [entrySets?, path] using h

theorem lastOf_eq_some_iff {key : Key} {value : Value} (distinct : (sets.map Prod.fst).Nodup) :
    lastOf sets key = some value ↔ (key, value) ∈ sets := by
  induction sets generalizing value with
  | nil => simp [lastOf]
  | cons set later ih =>
    obtain ⟨other, given⟩ := set
    obtain ⟨new, once⟩ := List.nodup_cons.1 distinct
    rw [← List.singleton_append, lastOf_append, lastOf_singleton, List.singleton_append,
      List.mem_cons, ← ih once]
    by_cases same : key = other
    · subst same
      have none : lastOf later key = none := by
        rw [Option.eq_none_iff_forall_ne_some]
        intro value found
        exact new (List.mem_map.2 ⟨_, (ih once).1 found, rfl⟩)
      simp [none, eq_comm]
    · simp [same]

theorem lastOf_perm (perm : sets.Perm others) (distinct : (sets.map Prod.fst).Nodup) (key : Key) :
    lastOf sets key = lastOf others key := by
  refine Option.ext fun value => ?_
  rw [lastOf_eq_some_iff distinct, lastOf_eq_some_iff ((perm.map Prod.fst).nodup_iff.1 distinct),
    perm.mem_iff]

end ConversationMemory.Settings
