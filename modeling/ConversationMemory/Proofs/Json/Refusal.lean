import ConversationMemory.Proofs.Json.ReadBack

/-!
# Texts that are refused

* `Json.RefusedAs`: every text that says a value is refused for one cause, somewhere.
  `refused_array`, `refused_object`: so are arrays and objects that hold such a value behind others
  that are read.
* **`refused_of_nesting`**: a value with more levels than there are left is nested too deep.
* `Decoder.Refuses`: the same for decoders; `refuses_list`, `refuses_record`,
  **`decodeBytes_refused`**.
-/

namespace ConversationMemory.Json

variable {levels : Nat} {cause : Cause} {v : Json}

/-- Every text that says the value is refused for this cause. -/
def RefusedAs (levels : Nat) (cause : Cause) (v : Json) : Prop :=
  ∀ (cs blanks rest : List Char) (c : Cursor) (fuel : Nat), Spells v cs → AllBlank blanks →
    NoNumberAhead rest → c.rest = blanks ++ (cs ++ rest) → 2 * cs.length ≤ fuel →
    ∃ place, readValue fuel levels c = .error (.atPosition cause place)

theorem refusedAs_of_front
    (h : ∀ (cs rest : List Char) (c : Cursor) (fuel : Nat), Spells v cs →
      c.skipBlanks.rest = cs ++ rest → 2 * cs.length ≤ fuel + 1 →
      ∃ place, readValue (fuel + 1) levels c = .error (.atPosition cause place)) :
    RefusedAs levels cause v := by
  intro cs blanks rest c fuel spells blank _ hc hfuel
  obtain ⟨x, more, rfl, -⟩ := spells.head
  rw [List.length_cons] at hfuel
  obtain ⟨n, rfl⟩ := Nat.exists_eq_succ_of_ne_zero (by omega : fuel ≠ 0)
  exact h _ rest c n spells (rest_skipBlanks hc blank (spells.noBlankAhead rest)) hfuel

/-! ## What holds a value that is refused -/

section

variable {before read later : List Json} {item : Json}

theorem readItems_refused (reads : List.Forall₂ (ReadsAs levels) before read)
    (refused : RefusedAs levels cause item) :
    ∀ (first : Bool) (done : List Json) (c : Cursor) (cs rest : List Char) (fuel : Nat),
      SpellsItems first (before ++ item :: later) cs → c.rest = cs ++ rest →
      2 * cs.length ≤ fuel →
      ∃ place, readItems fuel levels first done c = .error (.atPosition cause place) := by
  induction reads with
  | nil =>
    intro first done c cs rest fuel spells hc hfuel
    have := spells.length_lt
    obtain ⟨n, rfl⟩ := Nat.exists_eq_succ_of_ne_zero (by omega : fuel ≠ 0)
    obtain ⟨start, text, more, hnext, hstart, hsays, hothers, hlength⟩ := nextItem_cons spells hc
    have := hothers.length_lt
    obtain ⟨place, hread⟩ := refused text [] (more ++ rest) start n hsays allBlank_nil
      (hothers.noNumberAhead rest) hstart (by omega)
    exact ⟨place, by simp only [readItems, hnext, hread, bind, Except.bind]⟩
  | @cons w value before read reads _ ih =>
    intro first done c cs rest fuel spells hc hfuel
    have := spells.length_lt
    obtain ⟨n, rfl⟩ := Nat.exists_eq_succ_of_ne_zero (by omega : fuel ≠ 0)
    obtain ⟨start, text, more, hnext, hstart, hsays, hothers, hlength⟩ := nextItem_cons spells hc
    have := hothers.length_lt
    obtain ⟨x, letters, hx, -⟩ := hsays.head
    have front : 1 ≤ text.length := by simp [hx]
    obtain ⟨next, hrest, hread⟩ := reads text [] (more ++ rest) start n hsays allBlank_nil
      (hothers.noNumberAhead rest) hstart (by omega)
    obtain ⟨place, hitems⟩ := ih false (value :: done) next more rest n hothers hrest (by omega)
    exact ⟨place, by simp only [readItems, hnext, hread, hitems, bind, Except.bind]⟩

theorem refused_array (hlevels : 0 < levels) (reads : List.Forall₂ (ReadsAs levels) before read)
    (refused : RefusedAs levels cause item) :
    RefusedAs (levels + 1) cause (.array (before ++ item :: later)) := by
  refine refusedAs_of_front fun cs rest c fuel spells hskip hfuel => ?_
  cases spells with
  | @array _ cs inside =>
    rw [List.length_cons] at hfuel
    obtain ⟨place, hitems⟩ := readItems_refused reads refused true [] _ cs rest fuel inside
      (rest_skip hskip) (by omega)
    have hbracket : c.skipBlanks.rest = '[' :: (cs ++ rest) := hskip
    have henter : enter (levels + 1) c.skipBlanks = .ok c.skipBlanks.skip :=
      Decoder.enter_of_lt (by omega) _
    exact ⟨place, by simp [readValue, hbracket, henter, hitems, bind, Except.bind]⟩

end

section

variable {before read later : List (String × Json)} {key : String} {value : Json}

theorem readFields_refused
    (reads : List.Forall₂ (fun x y => x.1 = y.1 ∧ ReadsAs levels x.2 y.2) before read)
    (refused : RefusedAs levels cause value) :
    ∀ (first : Bool) (done : Fields) (c : Cursor) (cs rest : List Char) (fuel : Nat),
      SpellsFields first (before ++ (key, value) :: later) cs → c.rest = cs ++ rest →
      2 * cs.length ≤ fuel →
      ∃ place, readFields fuel levels first done c = .error (.atPosition cause place) := by
  induction reads with
  | nil =>
    intro first done c cs rest fuel spells hc hfuel
    obtain ⟨quoted, named, valued, blanks, text, more, hnext, hname, hcolon, hvalued, hblanks, hsays,
      hothers, hlength⟩ := nextKey_cons spells hc
    obtain ⟨n, rfl⟩ := Nat.exists_eq_succ_of_ne_zero (by omega : fuel ≠ 0)
    obtain ⟨place, hread⟩ := refused text blanks (more ++ rest) valued n hsays hblanks
      (hothers.noNumberAhead rest) hvalued (by omega)
    exact ⟨place, by simp only [readFields, hnext, hname, hcolon, hread, bind, Except.bind]⟩
  | @cons field given before read reads _ ih =>
    intro first done c cs rest fuel spells hc hfuel
    obtain ⟨other, there⟩ := field
    obtain ⟨quoted, named, valued, blanks, text, more, hnext, hname, hcolon, hvalued, hblanks, hsays,
      hothers, hlength⟩ := nextKey_cons spells hc
    obtain ⟨n, rfl⟩ := Nat.exists_eq_succ_of_ne_zero (by omega : fuel ≠ 0)
    obtain ⟨next, hrest, hread⟩ := reads.2 text blanks (more ++ rest) valued n hsays hblanks
      (hothers.noNumberAhead rest) hvalued (by omega)
    obtain ⟨place, hfields⟩ := ih false (Entries.insert done other given.2) next more rest n hothers
      hrest (by omega)
    exact ⟨place, by simp only [readFields, hnext, hname, hcolon, hread, hfields, bind, Except.bind]⟩

theorem refused_object (hlevels : 0 < levels)
    (reads : List.Forall₂ (fun x y => x.1 = y.1 ∧ ReadsAs levels x.2 y.2) before read)
    (refused : RefusedAs levels cause value) :
    RefusedAs (levels + 1) cause (.object (before ++ (key, value) :: later)) := by
  refine refusedAs_of_front fun cs rest c fuel spells hskip hfuel => ?_
  cases spells with
  | @object _ cs inside =>
    rw [List.length_cons] at hfuel
    obtain ⟨place, hfields⟩ := readFields_refused reads refused true [] _ cs rest fuel inside
      (rest_skip hskip) (by omega)
    have hbrace : c.skipBlanks.rest = '\x7b' :: (cs ++ rest) := hskip
    have henter : enter (levels + 1) c.skipBlanks = .ok c.skipBlanks.skip :=
      Decoder.enter_of_lt (by omega) _
    exact ⟨place, by simp [readValue, hbrace, henter, hfields, bind, Except.bind]⟩

end

/-! ## Values that are nested too deep -/

theorem refused_bracket (nested : 0 < v.nesting) : RefusedAs 1 .nestedTooDeep v := by
  refine refusedAs_of_front fun cs rest c fuel spells hskip _ => ?_
  cases spells with
  | null | boolTrue | boolFalse | number | string => exact absurd nested (by simp [nesting])
  | array | object =>
    refine ⟨c.skipBlanks.ahead, ?_⟩
    simp [readValue, hskip, enter, Cursor.failAhead, bind, Except.bind]

theorem exists_first {α : Type} {p : α → Prop} [DecidablePred p] {as : List α}
    (h : ∃ a ∈ as, p a) :
    ∃ before a later, as = before ++ a :: later ∧ (∀ b ∈ before, ¬ p b) ∧ p a := by
  obtain ⟨a, hfind⟩ := Option.isSome_iff_exists.1
    (List.find?_isSome.2 (by simpa using h : ∃ a ∈ as, decide (p a)))
  obtain ⟨hp, before, later, rfl, others⟩ := List.find?_eq_some_iff_append.1 hfind
  exact ⟨before, a, later, rfl, by simpa using others, by simpa using hp⟩

theorem refused_object_of_nesting {fields : List (String × Json)}
    (inside : ∀ field ∈ fields, Canonical field.2) (integral : ∀ field ∈ fields, Integral field.2)
    (deeper : ∀ field ∈ fields, ∀ {levels}, 0 < levels → levels ≤ field.2.nesting →
      RefusedAs levels .nestedTooDeep field.2) (hlevels : 0 < levels)
    (deep : levels ≤ (Json.object fields).nesting) :
    RefusedAs levels .nestedTooDeep (.object fields) := by
  obtain ⟨l, rfl⟩ := Nat.exists_eq_succ_of_ne_zero (by omega : levels ≠ 0)
  rcases Nat.eq_zero_or_pos l with rfl | hl
  · exact refused_bracket (by simp [nesting])
  · have some : ∃ field ∈ fields, l ≤ field.2.nesting := by
      have reached : ¬ fieldsNesting fields < l := Nat.not_lt.2 (Nat.le_of_succ_le_succ deep)
      simpa [fieldsNesting_lt_iff hl] using reached
    obtain ⟨before, ⟨key, value⟩, later, rfl, shallow, first⟩ := exists_first some
    have reads : ∀ field ∈ before, ReadsAs l field.2 field.2 := fun field hmem =>
      readsAs_of_readable ⟨inside field (by simp [hmem]), Nat.not_le.1 (shallow field hmem)⟩
        (integral field (by simp [hmem]))
    exact refused_object hl (List.forall₂_same.2 fun field hmem => ⟨rfl, reads field hmem⟩)
      (deeper (key, value) (by simp) hl first)

/-- **A value with at least as many levels as there are left is nested too deep.** -/
theorem refused_of_nesting (canonical : Canonical v) (integral : Integral v) (hlevels : 0 < levels)
    (deep : levels ≤ v.nesting) : RefusedAs levels .nestedTooDeep v := by
  induction canonical generalizing levels with
  | null | bool | number | string => exact absurd deep (by simp [nesting]; omega)
  | @array items inside ih =>
    cases integral with
    | array integral =>
      obtain ⟨l, rfl⟩ := Nat.exists_eq_succ_of_ne_zero (by omega : levels ≠ 0)
      rcases Nat.eq_zero_or_pos l with rfl | hl
      · exact refused_bracket (by simp [nesting])
      · have some : ∃ item ∈ items, l ≤ item.nesting := by
          have reached : ¬ itemsNesting items < l := Nat.not_lt.2 (Nat.le_of_succ_le_succ deep)
          simpa [itemsNesting_lt_iff hl] using reached
        -- the items in front of the first one that is too deep are read
        obtain ⟨before, item, later, rfl, shallow, first⟩ := exists_first some
        have reads : ∀ other ∈ before, ReadsAs l other other := fun other hmem =>
          readsAs_of_readable ⟨inside other (by simp [hmem]), Nat.not_le.1 (shallow other hmem)⟩
            (integral other (by simp [hmem]))
        exact refused_array hl (List.forall₂_same.2 reads)
          (ih item (by simp) (integral item (by simp)) hl first)
  | object sorted inside ih =>
    cases integral with
    | object integral =>
      exact refused_object_of_nesting inside integral
        (fun field hmem _ hl first => ih field hmem (integral field hmem) hl first) hlevels deep

/-! ## Decoders -/

namespace Decoder

variable {α β : Type} {d : Decoder α}

/-- On every text that says the value, the decoder refuses it for this cause. -/
def Refuses (d : Decoder α) (levels : Nat) (cause : Cause) (v : Json) : Prop :=
  ∀ (cs blanks rest : List Char) (c : Cursor), Spells v cs → AllBlank blanks → NoNumberAhead rest →
    c.rest = blanks ++ (cs ++ rest) → ∃ place, d.ofText levels c = .error (.atPosition cause place)

theorem refuses_value (h : RefusedAs levels cause v) : value.Refuses levels cause v := by
  intro cs blanks rest c spells blank number hc
  refine h cs blanks rest c c.steps spells blank number hc ?_
  simp only [Cursor.steps, hc, List.length_append]
  omega

theorem Refuses.map (h : d.Refuses levels cause v) (f : α → β) :
    (d.map f).Refuses levels cause v := by
  intro cs blanks rest c spells blank number hc
  obtain ⟨place, hread⟩ := h cs blanks rest c spells blank number hc
  exact ⟨place, by simp [Decoder.map, hread, bind, Except.bind]⟩

section

variable {before later : List Json} {as : List α} {item : Json}

theorem items_refused (takes : List.Forall₂ (d.Takes levels) before as)
    (refuses : d.Refuses levels cause item) :
    ∀ (fuel : Nat) (first : Bool) (done : List α) (c : Cursor) (cs rest : List Char),
      SpellsItems first (before ++ item :: later) cs → c.rest = cs ++ rest →
      (before ++ item :: later).length < fuel →
      ∃ place, items d levels fuel first done c = .error (.atPosition cause place) := by
  induction takes with
  | nil =>
    intro fuel first done c cs rest spells hc hfuel
    obtain ⟨n, rfl⟩ := Nat.exists_eq_succ_of_ne_zero (by omega : fuel ≠ 0)
    obtain ⟨start, text, more, hnext, hstart, hsays, hothers, -⟩ := nextItem_cons spells hc
    obtain ⟨place, hread⟩ := refuses text [] (more ++ rest) start hsays allBlank_nil
      (hothers.noNumberAhead rest) hstart
    exact ⟨place, by simp only [items, hnext, hread, bind, Except.bind]⟩
  | @cons w a before as takes _ ih =>
    intro fuel first done c cs rest spells hc hfuel
    obtain ⟨n, rfl⟩ := Nat.exists_eq_succ_of_ne_zero (by omega : fuel ≠ 0)
    obtain ⟨start, text, more, hnext, hstart, hsays, hothers, -⟩ := nextItem_cons spells hc
    obtain ⟨next, hrest, hread⟩ := takes text [] (more ++ rest) start hsays allBlank_nil
      (hothers.noNumberAhead rest) hstart
    obtain ⟨place, hitems⟩ := ih n false (a :: done) next more rest hothers hrest
      (Nat.lt_of_succ_lt_succ hfuel)
    exact ⟨place, by simp only [items, hnext, hread, hitems, bind, Except.bind]⟩

theorem refuses_list (hlevels : 1 < levels) (takes : List.Forall₂ (d.Takes (levels - 1)) before as)
    (refuses : d.Refuses (levels - 1) cause item) :
    d.list.Refuses levels cause (.array (before ++ item :: later)) := by
  intro cs blanks rest c spells blank _ hc
  cases spells with
  | @array _ cs inside =>
    have hskip := rest_skipBlanks hc blank ((Spells.array inside).noBlankAhead rest)
    have hstart : c.skipBlanks.skip.rest = cs ++ rest := rest_skip hskip
    have steps : (before ++ item :: later).length < c.skipBlanks.skip.steps := by
      have shorter := inside.length_lt
      have total : (cs ++ rest).length = cs.length + rest.length := List.length_append
      rw [Cursor.steps, hstart]
      omega
    obtain ⟨place, hitems⟩ := items_refused takes refuses _ true [] _ cs rest inside hstart steps
    refine ⟨place, ?_⟩
    simp only [list, hskip, List.cons_append, enter_of_lt hlevels, bind, Except.bind, leaving,
      hitems]
    rfl

end

theorem refuses_record {fields : List (Field α)} {name key : String} {blank : α} {value : Json}
    {later : List (String × Json)} {field : Field α} (hlevels : 1 < levels)
    (known : fields.find? (fun field => field.key == key) = some field)
    (refuses : field.update.Refuses (levels - 1) cause value) :
    (record name fields blank).Refuses levels cause (.object ((key, value) :: later)) := by
  intro cs blanks rest c spells hblanks _ hc
  cases spells with
  | @object _ cs inside =>
    have hskip := rest_skipBlanks hc hblanks ((Spells.object inside).noBlankAhead rest)
    have hstart : c.skipBlanks.skip.rest = cs ++ rest := rest_skip hskip
    obtain ⟨quoted, named, valued, blanks, text, more, hnext, hname, hcolon, hvalued, hblanks, hsays,
      hothers, -⟩ := nextKey_cons inside hstart
    obtain ⟨place, hread⟩ := refuses text blanks (more ++ rest) valued hsays hblanks
      (hothers.noNumberAhead rest) hvalued
    refine ⟨place, ?_⟩
    obtain ⟨n, hn⟩ : ∃ n, c.skipBlanks.skip.steps = n + 1 := ⟨_, rfl⟩
    simp only [record, hskip, List.cons_append, enter_of_lt hlevels, bind, Except.bind, leaving, hn,
      fieldsOfText, hnext, hname, known, hcolon, hread]
    rfl

theorem decodeBytes_refused {cs : List Char} (spells : Spells v cs)
    (refuses : d.Refuses depthLimit cause v) :
    ∃ place, d.decodeBytes (Utf8.encode cs) = .error (.atPosition cause place) := by
  have hrest : (Cursor.ofChars cs).rest = [] ++ (cs ++ []) := by
    simp [rest_ofChars spells.stray_not_mem]
  obtain ⟨place, hread⟩ := refuses cs [] [] _ spells allBlank_nil noNumberAhead_nil hrest
  refine ⟨place, ?_⟩
  rw [decodeBytes, Utf8.parts_encode]
  change d.decodeAll (Cursor.ofChars cs) = _
  simp [decodeAll, hread, bind, Except.bind]

end Decoder

end ConversationMemory.Json
