import ConversationMemory.Json.Decoder
import ConversationMemory.Proofs.Entries
import ConversationMemory.Proofs.Json.Skip
import ConversationMemory.Proofs.Text.Encoding

/-!
# Decoders on texts and on values

* `Decoder.Takes`: what a decoder gives on every text that says a value. `Decoder.FollowsOn`: this is
  what it gives for the value.
* `followsOn_text`, `followsOn_nat64`, `followsOn_optional`, `followsOn_map`, `followsOn_textMap`:
  the common decoders do.
* `Decoder.Assembles`: how the fields of an object make up a record. **`takes_record`**: a record is
  made up so, and fields that nobody asked for are skipped; **`followsOn_record`**: it follows the
  value when its fields do.
* **`decodeText_of_spells`**, `decodeBytes_of_spells`: so a whole text is decoded as the value that it
  says.
-/

namespace ConversationMemory.Json.Decoder

variable {α β : Type} {d : Decoder α} {v : Json} {levels : Nat}

/-- On every text that says the value, the decoder gives this result. -/
def Takes (d : Decoder α) (levels : Nat) (v : Json) (a : α) : Prop :=
  ∀ (cs blanks rest : List Char) (c : Cursor), Spells v cs → AllBlank blanks → NoNumberAhead rest →
    c.rest = blanks ++ (cs ++ rest) →
    ∃ after, after.rest = rest ∧ d.ofText levels c = .ok (a, after)

/-- On every text that says the value, the decoder gives what it gives for the value. -/
def FollowsOn (d : Decoder α) (levels : Nat) (v : Json) : Prop :=
  ∀ a, d.ofValue v = .ok a → d.Takes levels v a

/-! ## Scalars -/

theorem followsOn_text (levels : Nat) (v : Json) : text.FollowsOn levels v := by
  intro a ha cs blanks rest c spells blank _ hc
  have hskip := rest_skipBlanks hc blank (spells.noBlankAhead rest)
  cases spells with
  | @string s _ quoted =>
    obtain rfl : s = a := Except.ok.inj ha
    obtain ⟨_, letters, rfl, rfl⟩ := quoted.head
    obtain ⟨after, hafter, hread⟩ := readString_spelled quoted hskip
    refine ⟨after, hafter, ?_⟩
    simp only [text, hskip, List.cons_append]
    exact hread
  | null | boolTrue | boolFalse | number | array | object => cases ha

theorem followsOn_nat64 (levels : Nat) {n : Nat} (hn : n ≤ maxNat64) :
    nat64.FollowsOn levels (.nat n) := by
  intro a ha cs blanks rest c spells blank number hc
  have hskip := rest_skipBlanks hc blank (spells.noBlankAhead rest)
  have hcs : cs = Nat.toDigits 10 n := by
    generalize hv : Json.nat n = v at spells
    cases spells <;> cases hv
    rfl
  subst hcs
  obtain ⟨after, hafter, hread⟩ := readNumber_toDigits hn hskip number
  refine ⟨after, hafter, ?_⟩
  obtain ⟨x, ds, hds, hx⟩ := toDigits_head n
  have notMinus : x ≠ '-' := by
    rintro rfl
    revert hx
    decide
  have hvalue : toNat64 (.integer n) = .ok a := ha
  have hrest : c.skipBlanks.rest = x :: (ds ++ rest) := by rw [hskip, hds, List.cons_append]
  simp only [nat64, hrest, hx, if_true, hread, bind, Except.bind, hvalue]
  rfl

/-! ## Decoders made from others -/

theorem Takes.map {a : α} (h : d.Takes levels v a) (f : α → β) : (d.map f).Takes levels v (f a) := by
  intro cs blanks rest c spells blank number hc
  obtain ⟨after, hafter, hread⟩ := h cs blanks rest c spells blank number hc
  exact ⟨after, hafter, by simp [Decoder.map, hread, bind, Except.bind, pure, Except.pure]⟩

theorem followsOn_map {f : α → β} (h : d.FollowsOn levels v) : (d.map f).FollowsOn levels v := by
  intro b hb
  simp only [map] at hb
  cases ha : d.ofValue v with
  | error e =>
    rw [ha] at hb
    cases hb
  | ok a =>
    rw [ha] at hb
    cases hb
    exact (h a ha).map f

theorem followsOn_optional (h : v ≠ .null → d.FollowsOn levels v) :
    d.optional.FollowsOn levels v := by
  intro b hb cs blanks rest c spells blank number hc
  have hskip := rest_skipBlanks hc blank (spells.noBlankAhead rest)
  by_cases hnull : v = .null
  · subst hnull
    cases hb
    cases spells
    have hn : c.skipBlanks.rest = 'n' :: 'u' :: 'l' :: 'l' :: rest := hskip
    have hu := rest_skip hn
    have hl := rest_skip hu
    have hl' := rest_skip hl
    refine ⟨_, rest_skip hl', ?_⟩
    simp [optional, hn, readWord, hu, hl, hl', bind, Except.bind, pure, Except.pure]
  · obtain ⟨x, more, rfl, hx⟩ := spells.head
    have notNull : x ≠ 'n' := by
      rintro rfl
      exact hnull (eq_null_of_headOf hx)
    obtain ⟨a, ha, rfl⟩ : ∃ a, d.ofValue v = .ok a ∧ some a = b := by
      have hb' : (d.ofValue v).map some = .ok b := by
        cases v <;> first | exact absurd rfl hnull | exact hb
      cases hd : d.ofValue v with
      | error e =>
        rw [hd] at hb'
        cases hb'
      | ok a =>
        rw [hd] at hb'
        exact ⟨a, rfl, Except.ok.inj hb'⟩
    obtain ⟨after, hafter, hread⟩ := h hnull a ha _ [] rest c.skipBlanks spells allBlank_nil number
      hskip
    refine ⟨after, hafter, ?_⟩
    simp only [optional, hskip, List.cons_append]
    split
    · rename_i heq
      exact absurd (List.cons.inj heq).1 notNull
    · simp [hread, bind, Except.bind, pure, Except.pure]

/-! ## Records -/

theorem enter_of_lt {levels : Nat} (h : 1 < levels) (c : Cursor) : enter levels c = .ok c.skip :=
  if_neg (by omega)

section

variable {fields : List (Field α)} {record : α} {given : List (String × Json)}

/-- The fields of an object, after those of which the keys have been seen, make up a record. Those
that nobody asked for do not count. -/
inductive Assembles (fields : List (Field α)) (levels : Nat) :
    List String → α → List (String × Json) → α → Prop
  | done {seen record} (complete : missing? fields seen = none) :
    Assembles fields levels seen record [] record
  | skip {seen before key value others record}
    (unknown : fields.find? (fun field => field.key == key) = none)
    (rest : Assembles fields levels seen before others record) :
    Assembles fields levels seen before ((key, value) :: others) record
  | take {seen before key value others field change record}
    (known : fields.find? (fun field => field.key == key) = some field)
    (new : seen.contains key = false) (takes : field.update.Takes levels value change)
    (rest : Assembles fields levels (key :: seen) (change before) others record) :
    Assembles fields levels seen before ((key, value) :: others) record

theorem Assembles.behind {seen : List String} {before : α}
    (h : Assembles fields levels seen before given record) {front : List (String × Json)}
    (unknown : ∀ entry ∈ front, fields.find? (fun field => field.key == entry.1) = none) :
    Assembles fields levels seen before (front ++ given) record := by
  induction front with
  | nil => exact h
  | cons entry front ih =>
    exact .skip (unknown entry (by simp)) (ih fun entry hmem => unknown entry (by simp [hmem]))

theorem fieldsOfText_assembled {seen : List String} {before : α}
    (h : Assembles fields levels seen before given record) :
    ∀ (fuel : Nat) (first : Bool) (c : Cursor) (cs rest : List Char),
      SpellsFields first given cs → c.rest = cs ++ rest → given.length < fuel →
      ∃ left after, fieldsOfText fields levels fuel first seen before c = .ok (record, left) ∧
        after.rest = rest ∧ closeObject left = .ok after := by
  induction h with
  | done complete =>
    intro fuel first c cs rest spells hc hfuel
    obtain ⟨n, rfl⟩ := Nat.exists_eq_succ_of_ne_zero (by omega : fuel ≠ 0)
    obtain ⟨hnext, after, hafter, hclose⟩ := nextKey_nil spells hc
    refine ⟨c, after, ?_, hafter, hclose⟩
    simp [fieldsOfText, hnext, complete, bind, Except.bind, pure, Except.pure]
  | @skip seen before key value others record unknown _ ih =>
    intro fuel first c cs rest spells hc hfuel
    obtain ⟨n, rfl⟩ := Nat.exists_eq_succ_of_ne_zero (by omega : fuel ≠ 0)
    obtain ⟨quoted, named, valued, blanks, text, more, hnext, hname, hcolon, hvalued, hblanks, hsays,
      hothers, -⟩ := nextKey_cons spells hc
    have steps : 2 * text.length ≤ valued.steps := by
      simp only [Cursor.steps, hvalued, List.length_append]
      omega
    obtain ⟨next, hrest, hskip⟩ := skipped value text blanks (more ++ rest) valued _ hsays hblanks
      (hothers.noNumberAhead rest) hvalued steps
    obtain ⟨left, after, hread, hafter, hclose⟩ := ih n false next more rest hothers hrest
      (Nat.lt_of_succ_lt_succ hfuel)
    refine ⟨left, after, ?_, hafter, hclose⟩
    simp only [fieldsOfText, hnext, hname, unknown, hcolon, skipValue, hskip, hread, bind,
      Except.bind]
  | @take seen before key value others field change record known new takes _ ih =>
    intro fuel first c cs rest spells hc hfuel
    obtain ⟨n, rfl⟩ := Nat.exists_eq_succ_of_ne_zero (by omega : fuel ≠ 0)
    obtain ⟨quoted, named, valued, blanks, text, more, hnext, hname, hcolon, hvalued, hblanks, hsays,
      hothers, -⟩ := nextKey_cons spells hc
    obtain ⟨next, hrest, htake⟩ := takes text blanks (more ++ rest) valued hsays hblanks
      (hothers.noNumberAhead rest) hvalued
    obtain ⟨left, after, hread, hafter, hclose⟩ := ih n false next more rest hothers hrest
      (Nat.lt_of_succ_lt_succ hfuel)
    refine ⟨left, after, ?_, hafter, hclose⟩
    simp only [fieldsOfText, hnext, hname, known, new, hcolon, htake, hread, bind, Except.bind]
    rfl

/-- **A record is decoded from the fields that make it up.** -/
theorem takes_record {name : String} {blank : α} (hlevels : 1 < levels)
    (h : Assembles fields (levels - 1) [] blank given record) :
    (Decoder.record name fields blank).Takes levels (.object given) record := by
  intro cs blanks rest c spells hblanks number hc
  cases spells with
  | @object _ cs inside =>
    have hskip := rest_skipBlanks hc hblanks ((Spells.object inside).noBlankAhead rest)
    have hstart : c.skipBlanks.skip.rest = cs ++ rest := rest_skip hskip
    obtain ⟨left, after, hread, hafter, hclose⟩ := fieldsOfText_assembled h _ true _ cs rest inside
      hstart (inside.length_lt_steps hstart)
    refine ⟨after, hafter, ?_⟩
    simp only [Decoder.record, hskip, List.cons_append, enter_of_lt hlevels, bind, Except.bind,
      leaving, hread, hclose]
    rfl

theorem assembles_of_recordOfFields {seen : List String} {before : α}
    (known : ∀ key value, (key, value) ∈ given → ∃ field,
      fields.find? (fun field => field.key == key) = some field ∧
        field.update.FollowsOn levels value)
    (h : recordOfFields fields seen before given = .ok record) :
    Assembles fields levels seen before given record := by
  induction given generalizing seen before with
  | nil =>
    rw [recordOfFields] at h
    split at h
    · cases h
    · rename_i complete
      cases h
      exact .done complete
  | cons entry others ih =>
    obtain ⟨key, value⟩ := entry
    obtain ⟨field, hfind, follows⟩ := known key value (by simp)
    rw [recordOfFields, hfind] at h
    dsimp only at h
    split at h
    · cases h
    · rename_i new
      cases hchange : field.update.ofValue value with
      | error e =>
        rw [hchange] at h
        cases h
      | ok change =>
        rw [hchange] at h
        exact .take hfind (by simpa using new) (follows change hchange)
          (ih (fun key value hmem => known key value (by simp [hmem])) h)

/-- **On an object, a record is decoded as its fields are.** -/
theorem followsOn_record {name : String} {blank : α} (hlevels : 1 < levels)
    (known : ∀ key value, (key, value) ∈ given → ∃ field,
      fields.find? (fun field => field.key == key) = some field ∧
        field.update.FollowsOn (levels - 1) value) :
    (Decoder.record name fields blank).FollowsOn levels (.object given) :=
  fun _ h => takes_record hlevels (assembles_of_recordOfFields known h)

end

/-! ## Maps of texts -/

theorem entries_spelled {map : Entries String} (levels : Nat) (given : List (String × Json)) :
    ∀ (fuel : Nat) (first : Bool) (before : Entries String) (c : Cursor) (cs rest : List Char),
      SpellsFields first given cs → c.rest = cs ++ rest → given.length < fuel →
      given.foldlM (fun before field => do
        return before.insert field.1 (← text.ofValue field.2)) before = .ok map →
      ∃ left after, entries levels fuel first before c = .ok (map, left) ∧
        after.rest = rest ∧ closeObject left = .ok after := by
  induction given with
  | nil =>
    intro fuel first before c cs rest spells hc hfuel hmap
    obtain ⟨n, rfl⟩ := Nat.exists_eq_succ_of_ne_zero (by omega : fuel ≠ 0)
    obtain ⟨hnext, after, hafter, hclose⟩ := nextKey_nil spells hc
    cases hmap
    refine ⟨c, after, ?_, hafter, hclose⟩
    simp only [entries, hnext, bind, Except.bind]
    rfl
  | cons given others ih =>
    intro fuel first before c cs rest spells hc hfuel hmap
    obtain ⟨key, value⟩ := given
    obtain ⟨n, rfl⟩ := Nat.exists_eq_succ_of_ne_zero (by omega : fuel ≠ 0)
    obtain ⟨quoted, named, valued, blanks, said, more, hnext, hname, hcolon, hvalued, hblanks, hsays,
      hothers, -⟩ := nextKey_cons spells hc
    rw [List.foldlM_cons] at hmap
    cases hvalue : text.ofValue value with
    | error e =>
      simp [hvalue, bind, Except.bind] at hmap
    | ok s =>
      simp only [hvalue, bind, Except.bind] at hmap
      obtain ⟨next, hrest, hread⟩ := followsOn_text levels value s hvalue said blanks (more ++ rest)
        valued hsays hblanks (hothers.noNumberAhead rest) hvalued
      simp only [entries, hnext, hname, hcolon, hread, bind, Except.bind]
      have hn : others.length < n := by
        rw [List.length_cons] at hfuel
        omega
      exact ih n false (before.insert key s) next more rest hothers hrest hn hmap

theorem followsOn_textMap {given : List (String × Json)} (hlevels : 1 < levels) :
    textMap.FollowsOn levels (.object given) := by
  intro a ha cs blanks rest c spells hblanks number hc
  cases spells with
  | @object _ cs inside =>
    have hskip := rest_skipBlanks hc hblanks ((Spells.object inside).noBlankAhead rest)
    have hstart : c.skipBlanks.skip.rest = cs ++ rest := rest_skip hskip
    obtain ⟨left, after, hread, hafter, hclose⟩ := entries_spelled (levels - 1) given _ true [] _ cs
      rest inside hstart (inside.length_lt_steps hstart) ha
    refine ⟨after, hafter, ?_⟩
    simp only [textMap, hskip, List.cons_append, enter_of_lt hlevels, bind, Except.bind, leaving,
      hread, hclose]
    rfl

/-! ## Whole texts -/

theorem decodeAll_of_spells {cs : List Char} {a : α} (spells : Spells v cs)
    (takes : d.Takes depthLimit v a) : d.decodeAll (Cursor.ofChars cs) = .ok a := by
  have hrest : (Cursor.ofChars cs).rest = [] ++ (cs ++ []) := by
    simp [rest_ofChars spells.stray_not_mem]
  obtain ⟨after, hafter, hread⟩ := takes cs [] [] _ spells allBlank_nil noNumberAhead_nil hrest
  have hend : readEnd after = .ok () := by
    simp [readEnd, Cursor.skipBlanks, hafter]
  simp [decodeAll, hread, hend, bind, Except.bind, pure, Except.pure]

/-- **A text that says a value is decoded as the value is.** -/
theorem decodeText_of_spells {s : String} {a : α} (spells : Spells v s.toList)
    (follows : d.FollowsOn depthLimit v) (ha : d.ofValue v = .ok a) : d.decodeText s = .ok a :=
  decodeAll_of_spells spells (follows a ha)

theorem decodeBytes_of_spells {cs : List Char} {a : α} (spells : Spells v cs)
    (takes : d.Takes depthLimit v a) : d.decodeBytes (Utf8.encode cs) = .ok a := by
  rw [decodeBytes, Utf8.parts_encode]
  exact decodeAll_of_spells spells takes

/-! ## Written maps -/

theorem ofValue_textMap {map : Entries String} (sorted : map.Sorted) :
    textMap.ofValue (.object (map.map fun (key, value) => (key, .string value))) = .ok map := by
  have inserted (entries before : Entries String) :
      (entries.map fun (key, value) => (key, Json.string value)).foldlM
        (fun before field => do return Entries.insert before field.1 (← text.ofValue field.2))
        before =
      (.ok (entries.foldl (fun sorted entry => sorted.insert entry.1 entry.2) before) :
        Except Cause (Entries String)) := by
    induction entries generalizing before with
    | nil => rfl
    | cons entry rest ih => exact ih (before.insert entry.1 entry.2)
  have whole := Entries.foldl_insert_of_sorted map [] sorted
  rw [List.nil_append] at whole
  simp only [textMap, inserted, whole]

theorem decodeText_textMap {map : Entries String} (sorted : map.Sorted) :
    textMap.decodeText
      (Json.object (map.map fun (key, value) => (key, .string value))).pretty = .ok map := by
  refine decodeText_of_spells ?_ (followsOn_textMap (by decide)) (ofValue_textMap sorted)
  simpa [pretty] using prettyChars_spells 0 _

end ConversationMemory.Json.Decoder
