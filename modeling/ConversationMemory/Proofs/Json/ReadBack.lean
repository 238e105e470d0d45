import ConversationMemory.Proofs.Json.Follows
import ConversationMemory.Proofs.Json.Nesting
import Mathlib.Data.List.Forall2

/-!
# Values read back

* `Json.ReadsAs`: every text that says one value is read as another one. They differ in the order
  of fields: objects are read with sorted fields.
* `readsAs_array`, **`readsAs_object`**: arrays and objects, from what they hold.
* `Json.Integral`: values with whole numbers only. **`readsAs_of_readable`**: they are read back as
  they are once they have been read. `Json.Plain`: such values with the levels of arrays and objects
  in them; `readsAs_of_plain`.
* **`parse_of_spaced`**, `takes_value`, `takes_list`: whole texts, and decoders of lists.
-/

namespace ConversationMemory.Json

/-- Every text that says `v` is read as `w`. -/
def ReadsAs (levels : Nat) (v w : Json) : Prop :=
  ∀ (cs blanks rest : List Char) (c : Cursor) (fuel : Nat), Spells v cs → AllBlank blanks →
    NoNumberAhead rest → c.rest = blanks ++ (cs ++ rest) → 2 * cs.length ≤ fuel →
    ∃ after, after.rest = rest ∧ readValue fuel levels c = .ok (w, after)

variable {levels : Nat} {v w : Json}

theorem readsAs_of_front
    (h : ∀ (cs rest : List Char) (c : Cursor) (fuel : Nat), Spells v cs → NoNumberAhead rest →
      c.skipBlanks.rest = cs ++ rest → 2 * cs.length ≤ fuel + 1 →
      ∃ after, after.rest = rest ∧ readValue (fuel + 1) levels c = .ok (w, after)) :
    ReadsAs levels v w := by
  intro cs blanks rest c fuel spells blank number hc hfuel
  obtain ⟨x, more, rfl, -⟩ := spells.head
  rw [List.length_cons] at hfuel
  obtain ⟨n, rfl⟩ := Nat.exists_eq_succ_of_ne_zero (by omega : fuel ≠ 0)
  exact h _ rest c n spells number (rest_skipBlanks hc blank (spells.noBlankAhead rest)) hfuel

/-! ## Scalars -/

theorem readsAs_null : ReadsAs levels .null .null := by
  refine readsAs_of_front fun cs rest c fuel spells _ hskip _ => ?_
  cases spells
  have hu := rest_skip hskip
  have hl := rest_skip hu
  have hl' := rest_skip hl
  refine ⟨_, rest_skip hl', ?_⟩
  simp [readValue, hskip, readWord, hu, hl, hl', bind, Except.bind, pure, Except.pure]

theorem readsAs_bool (b : Bool) : ReadsAs levels (.bool b) (.bool b) := by
  refine readsAs_of_front fun cs rest c fuel spells _ hskip _ => ?_
  cases spells with
  | boolTrue =>
    have hr := rest_skip hskip
    have hu := rest_skip hr
    have he := rest_skip hu
    refine ⟨_, rest_skip he, ?_⟩
    simp [readValue, hskip, readWord, hr, hu, he, bind, Except.bind, pure, Except.pure]
  | boolFalse =>
    have ha := rest_skip hskip
    have hl := rest_skip ha
    have hs := rest_skip hl
    have he := rest_skip hs
    refine ⟨_, rest_skip he, ?_⟩
    simp [readValue, hskip, readWord, ha, hl, hs, he, bind, Except.bind, pure, Except.pure]

theorem readsAs_string (s : String) : ReadsAs levels (.string s) (.string s) := by
  refine readsAs_of_front fun cs rest c fuel spells _ hskip _ => ?_
  cases spells with
  | string quoted =>
    obtain ⟨_, letters, rfl, rfl⟩ := quoted.head
    obtain ⟨after, hafter, hread⟩ := readString_spelled quoted hskip
    refine ⟨after, hafter, ?_⟩
    simp [readValue, hskip, hread, bind, Except.bind, pure, Except.pure]

theorem readsAs_integer {i : Int} (low : -Number.signedBound ≤ i) (high : i ≤ maxNat64) :
    ReadsAs levels (.number (.integer i)) (.number (.integer i)) := by
  refine readsAs_of_front fun cs rest c fuel spells number hskip _ => ?_
  cases spells
  cases i with
  | ofNat n =>
    have hn : n ≤ maxNat64 := Int.ofNat_le.1 high
    obtain ⟨after, hafter, hread⟩ := readNumber_toDigits hn hskip number
    obtain ⟨x, ds, hds, hx⟩ := toDigits_head n
    have hrest : c.skipBlanks.rest = x :: (ds ++ rest) := by
      rw [hskip, Number.chars, hds, List.cons_append]
    have differs (y : Char) (hy : y.isDigit = false) : x ≠ y := by
      rintro rfl
      simp [hx] at hy
    refine ⟨after, hafter, ?_⟩
    simp [readValue, hrest, hx, hread, differs 'n' rfl, differs 't' rfl, differs 'f' rfl,
      differs '-' rfl, differs '"' rfl, differs '[' rfl, differs '\x7b' rfl, bind, Except.bind, pure,
      Except.pure]
  | negSucc n =>
    have hn : n + 1 ≤ maxNat64 := by
      simp only [Number.signedBound, maxNat64, UInt64.size] at low ⊢
      omega
    have hsign : c.skipBlanks.rest = '-' :: (Nat.toDigits 10 (n + 1) ++ rest) := hskip
    obtain ⟨after, hafter, hread⟩ := readNumber_digits false hn (rest_skip hsign) number
    rw [whole_negSucc low] at hread
    refine ⟨after, hafter, ?_⟩
    simp [readValue, hsign, hread, bind, Except.bind, pure, Except.pure]

/-! ## Arrays and objects -/

theorem readItems_spelled {items read : List Json} (h : List.Forall₂ (ReadsAs levels) items read) :
    ∀ (first : Bool) (before : List Json) (c : Cursor) (cs rest : List Char) (fuel : Nat),
      SpellsItems first items cs → c.rest = cs ++ rest → 2 * cs.length ≤ fuel →
      ∃ left after, readItems fuel levels first before c = .ok (before.reverse ++ read, left) ∧
        after.rest = rest ∧ closeArray left = .ok after := by
  induction h with
  | nil =>
    intro first before c cs rest fuel spells hc hfuel
    have := spells.length_lt
    obtain ⟨n, rfl⟩ := Nat.exists_eq_succ_of_ne_zero (by omega : fuel ≠ 0)
    obtain ⟨hnext, after, hafter, hclose⟩ := nextItem_nil spells hc
    refine ⟨c, after, ?_, hafter, hclose⟩
    simp [readItems, hnext, bind, Except.bind, pure, Except.pure]
  | @cons item value items read reads others ih =>
    intro first before c cs rest fuel spells hc hfuel
    have := spells.length_lt
    obtain ⟨n, rfl⟩ := Nat.exists_eq_succ_of_ne_zero (by omega : fuel ≠ 0)
    obtain ⟨start, text, more, hnext, hstart, hsays, hothers, hlength⟩ := nextItem_cons spells hc
    -- both the item and the items behind it have fewer characters than this text has steps
    have left := hothers.length_lt
    obtain ⟨x, letters, hx, -⟩ := hsays.head
    have front : 1 ≤ text.length := by simp [hx]
    obtain ⟨next, hrest, hread⟩ := reads text [] (more ++ rest) start n hsays allBlank_nil
      (hothers.noNumberAhead rest) hstart (by omega)
    obtain ⟨left, after, hitems, hafter, hclose⟩ := ih false (value :: before) next more rest n
      hothers hrest (by omega)
    refine ⟨left, after, ?_, hafter, hclose⟩
    simp only [readItems, hnext, hread, hitems, bind, Except.bind]
    simp

theorem readFields_spelled {fields read : Fields}
    (h : List.Forall₂ (fun x y => x.1 = y.1 ∧ ReadsAs levels x.2 y.2) fields read) :
    ∀ (first : Bool) (before : Fields) (c : Cursor) (cs rest : List Char) (fuel : Nat),
      SpellsFields first fields cs → c.rest = cs ++ rest → 2 * cs.length ≤ fuel →
      ∃ left after, readFields fuel levels first before c =
          .ok (read.foldl (fun sorted entry => Entries.insert sorted entry.1 entry.2) before, left) ∧
        after.rest = rest ∧ closeObject left = .ok after := by
  induction h with
  | nil =>
    intro first before c cs rest fuel spells hc hfuel
    have : 1 ≤ cs.length := by
      cases spells
      simp
    obtain ⟨n, rfl⟩ := Nat.exists_eq_succ_of_ne_zero (by omega : fuel ≠ 0)
    obtain ⟨hnext, after, hafter, hclose⟩ := nextKey_nil spells hc
    refine ⟨c, after, ?_, hafter, hclose⟩
    simp [readFields, hnext, bind, Except.bind, pure, Except.pure]
  | @cons field value fields read reads others ih =>
    intro first before c cs rest fuel spells hc hfuel
    obtain ⟨key, given⟩ := field
    obtain ⟨named, value⟩ := value
    obtain ⟨rfl, reads⟩ : key = named ∧ ReadsAs levels given value := reads
    obtain ⟨quoted, named, valued, blanks, text, more, hnext, hname, hcolon, hvalued, hblanks, hsays,
      hothers, hlength⟩ := nextKey_cons spells hc
    obtain ⟨n, rfl⟩ := Nat.exists_eq_succ_of_ne_zero (by omega : fuel ≠ 0)
    obtain ⟨next, hrest, hread⟩ := reads text blanks (more ++ rest) valued n hsays hblanks
      (hothers.noNumberAhead rest) hvalued (by omega)
    obtain ⟨left, after, hfields, hafter, hclose⟩ := ih false (Entries.insert before key value) next
      more rest n hothers hrest (by omega)
    refine ⟨left, after, ?_, hafter, hclose⟩
    simp only [readFields, hnext, hname, hcolon, hread, hfields, bind, Except.bind]
    rfl

theorem readsAs_array {items read : List Json} (hlevels : 0 < levels)
    (h : List.Forall₂ (ReadsAs levels) items read) :
    ReadsAs (levels + 1) (.array items) (.array read) := by
  refine readsAs_of_front fun cs rest c fuel spells _ hskip hfuel => ?_
  cases spells with
  | @array _ cs inside =>
    rw [List.length_cons] at hfuel
    obtain ⟨left, after, hitems, hafter, hclose⟩ := readItems_spelled h true [] _ cs rest fuel inside
      (rest_skip hskip) (by omega)
    have hbracket : c.skipBlanks.rest = '[' :: (cs ++ rest) := hskip
    have henter : enter (levels + 1) c.skipBlanks = .ok c.skipBlanks.skip :=
      Decoder.enter_of_lt (by omega) _
    refine ⟨after, hafter, ?_⟩
    simp [readValue, hbracket, henter, hitems, hclose, bind, Except.bind, pure, Except.pure]

/-- **An object is read with its fields sorted, the last one of each key.** -/
theorem readsAs_object {fields read : Fields} (hlevels : 0 < levels)
    (h : List.Forall₂ (fun x y => x.1 = y.1 ∧ ReadsAs levels x.2 y.2) fields read) :
    ReadsAs (levels + 1) (.object fields) (.object (Entries.ofList read)) := by
  refine readsAs_of_front fun cs rest c fuel spells _ hskip hfuel => ?_
  cases spells with
  | @object _ cs inside =>
    rw [List.length_cons] at hfuel
    obtain ⟨left, after, hfields, hafter, hclose⟩ := readFields_spelled h true [] _ cs rest fuel
      inside (rest_skip hskip) (by omega)
    have hbrace : c.skipBlanks.rest = '\x7b' :: (cs ++ rest) := hskip
    have henter : enter (levels + 1) c.skipBlanks = .ok c.skipBlanks.skip :=
      Decoder.enter_of_lt (by omega) _
    refine ⟨after, hafter, ?_⟩
    simp [readValue, hbrace, henter, hfields, hclose, bind, Except.bind, pure, Except.pure,
      Entries.ofList]

/-! ## Values that stay as they are -/

theorem readsAs_negativeZero : ReadsAs levels (.number (.float (Binary64.zero true)))
    (.number (.float (Binary64.zero true))) := by
  refine readsAs_of_front fun cs rest c fuel spells number hskip _ => ?_
  cases spells
  have written : (Number.float (Binary64.zero true)).chars = ['-', '0', '.', '0'] := by decide
  rw [written] at hskip
  have hsign : c.skipBlanks.rest = '-' :: '0' :: '.' :: (['0'] ++ rest) := hskip
  have hzero := rest_skip hsign
  have hpoint := rest_skip hzero
  obtain ⟨digits, left⟩ := readDigits_append (rest_skip hpoint) (by simp) number
  refine ⟨_, left, ?_⟩
  have scaled : scale? 0 (-1) = some (Binary64.zero false) := by decide
  have ends : readScale false 0 (-1) (readDigits c.skipBlanks.skip.skip.skip).2 =
      .ok (.float (Binary64.zero true), (readDigits c.skipBlanks.skip.skip.skip).2) := by
    unfold readScale
    split
    · rename_i heq
      exact absurd rfl (number _ _ (left ▸ heq)).2.2.1
    · rename_i heq
      exact absurd rfl (number _ _ (left ▸ heq)).2.2.2
    · simp [finish, scaled, Binary64.neg, Binary64.zero]
  have fraction : readFraction false 0 0 c.skipBlanks.skip.skip.skip =
      .ok (.float (Binary64.zero true), (readDigits c.skipBlanks.skip.skip.skip).2) := by
    have taken : accumulate maxNat64 0 [0] = (0, []) := by decide
    simp only [readFraction, digits, List.map_cons, List.map_nil]
    rw [show ('0' : Char).toNat - 48 = 0 from rfl, taken]
    exact ends
  have read : readNumber false c.skipBlanks.skip =
      .ok (.float (Binary64.zero true), (readDigits c.skipBlanks.skip.skip.skip).2) := by
    have point : ('.' : Char).isDigit = false := by decide
    simp only [readNumber, hzero, point, readTail, hpoint, List.length_nil]
    exact fraction
  simp [readValue, hsign, read, bind, Except.bind, pure, Except.pure]

/-- A value whose numbers are all whole, be it with a sign of their own. -/
inductive Integral : Json → Prop
  | null : Integral .null
  | bool (b : Bool) : Integral (.bool b)
  | integer (i : Int) : Integral (.number (.integer i))
  | negativeZero : Integral (.number (.float (Binary64.zero true)))
  | string (s : String) : Integral (.string s)
  | array {items} (inside : ∀ item ∈ items, Integral item) : Integral (.array items)
  | object {fields : Fields} (inside : ∀ field ∈ fields, Integral field.2) :
    Integral (.object fields)

/-- **A value that can be read and has whole numbers only is read back as it was written.** -/
theorem readsAs_of_readable (h : Readable levels v) (integral : Integral v) :
    ReadsAs levels v v := by
  obtain ⟨canonical, nesting⟩ := h
  induction canonical generalizing levels with
  | null => exact readsAs_null
  | bool b => exact readsAs_bool b
  | number fits =>
    cases integral with
    | integer i => exact readsAs_integer fits.1 fits.2
    | negativeZero => exact readsAs_negativeZero
  | string s => exact readsAs_string s
  | @array items _ ih =>
    cases integral with
    | array integral =>
      obtain ⟨l, rfl⟩ := Nat.exists_eq_succ_of_ne_zero (by omega : levels ≠ 0)
      have flat : itemsNesting items < l := Nat.lt_of_succ_lt_succ nesting
      have inside := (itemsNesting_lt_iff (by omega)).1 flat
      exact readsAs_array (by omega) <| List.forall₂_same.2 fun item hmem =>
        ih item hmem (integral item hmem) (inside item hmem)
  | @object fields sorted _ ih =>
    cases integral with
    | object integral =>
      obtain ⟨l, rfl⟩ := Nat.exists_eq_succ_of_ne_zero (by omega : levels ≠ 0)
      have flat : fieldsNesting fields < l := Nat.lt_of_succ_lt_succ nesting
      have inside := (fieldsNesting_lt_iff (by omega)).1 flat
      have read : ReadsAs (l + 1) (.object fields) (.object (Entries.ofList fields)) :=
        readsAs_object (by omega) <| List.forall₂_same.2 fun field hmem =>
          ⟨rfl, ih field hmem (integral field hmem) (inside field hmem)⟩
      have same : Entries.ofList fields = fields := Entries.foldl_insert_of_sorted fields [] sorted
      rwa [same] at read

/-! ## Plain values -/

/-- A value with integers of 64 bits as its only numbers, at most so many levels of arrays and
objects, and fields in the order in which objects are read. -/
inductive Plain : Nat → Json → Prop
  | null {n} : Plain n .null
  | bool {n} (b : Bool) : Plain n (.bool b)
  | integer {n} {i : Int} (low : -Number.signedBound ≤ i) (high : i ≤ maxNat64) :
    Plain n (.number (.integer i))
  | string {n} (s : String) : Plain n (.string s)
  | array {n items} (inside : ∀ item ∈ items, Plain n item) : Plain (n + 1) (.array items)
  | object {n} {fields : Fields} (sorted : fields.Sorted)
    (inside : ∀ field ∈ fields, Plain n field.2) : Plain (n + 1) (.object fields)

theorem Plain.readable {n : Nat} (h : Plain n v) : Readable (n + 1) v := by
  induction h with
  | null => exact readable_scalar (Nat.succ_pos _) .null rfl
  | bool b => exact readable_scalar (Nat.succ_pos _) (.bool b) rfl
  | integer low high => exact readable_scalar (Nat.succ_pos _) (.number ⟨low, high⟩) rfl
  | string s => exact readable_scalar (Nat.succ_pos _) (.string s) rfl
  | array _ ih => exact readable_array (Nat.succ_pos _) ih
  | object sorted _ ih => exact readable_object (Nat.succ_pos _) sorted ih

theorem Plain.integral {n : Nat} (h : Plain n v) : Integral v := by
  induction h with
  | null => exact .null
  | bool b => exact .bool b
  | integer => exact .integer _
  | string s => exact .string s
  | array _ ih => exact .array ih
  | object _ _ ih => exact .object ih

/-- **A plain value is read back as it was written**, if there are enough levels. -/
theorem readsAs_of_plain {n : Nat} (h : Plain n v) (hlevels : n < levels) : ReadsAs levels v v :=
  readsAs_of_readable ⟨h.readable.canonical, Nat.lt_of_lt_of_le h.readable.nesting hlevels⟩ h.integral

/-! ## Whole texts and lists -/

/-- **A text that says a value, with blanks around it, is parsed as this value is read.** -/
theorem parse_of_spaced {s : String} {front cs behind : List Char}
    (text : s.toList = front ++ (cs ++ behind)) (blank : AllBlank front) (blank' : AllBlank behind)
    (spells : Spells v cs) (h : ReadsAs depthLimit v w) : parse s = .ok w := by
  have clean : Cursor.stray ∉ s.toList := by
    simp [text, blank.stray_not_mem, spells.stray_not_mem, blank'.stray_not_mem]
  have start := rest_ofChars clean
  have number : NoNumberAhead behind := by
    cases behind with
    | nil => exact noNumberAhead_nil
    | cons x behind => exact noNumberAhead_blank (blank' x (by simp))
  have enough : 2 * cs.length ≤ (Cursor.ofChars s.toList).steps := by
    rw [Cursor.steps, start.trans text, List.length_append, List.length_append]
    omega
  obtain ⟨after, hafter, hread⟩ := h cs front behind _ _ spells blank number (start.trans text) enough
  have none : after.skipBlanks.rest = [] :=
    rest_skipBlanks (by rw [hafter, List.append_nil]) blank' (by rintro _ _ ⟨⟩)
  have hend : readEnd after = .ok () := by simp [readEnd, none]
  simp [parse, hread, hend, bind, Except.bind, pure, Except.pure]

theorem parse_of_spells {s : String} (spells : Spells v s.toList) (h : ReadsAs depthLimit v w) :
    parse s = .ok w :=
  parse_of_spaced (by simp) allBlank_nil allBlank_nil spells h

namespace Decoder

theorem takes_value (h : ReadsAs levels v w) : value.Takes levels v w := by
  intro cs blanks rest c spells blank number hc
  refine h cs blanks rest c c.steps spells blank number hc ?_
  simp only [Cursor.steps, hc, List.length_append]
  omega

variable {α : Type} {d : Decoder α} {values : List Json} {as : List α}

theorem items_taken (h : List.Forall₂ (d.Takes levels) values as) :
    ∀ (fuel : Nat) (first : Bool) (before : List α) (c : Cursor) (cs rest : List Char),
      SpellsItems first values cs → c.rest = cs ++ rest → values.length < fuel →
      ∃ left after, items d levels fuel first before c = .ok (before.reverse ++ as, left) ∧
        after.rest = rest ∧ closeArray left = .ok after := by
  induction h with
  | nil =>
    intro fuel first before c cs rest spells hc hfuel
    obtain ⟨n, rfl⟩ := Nat.exists_eq_succ_of_ne_zero (by omega : fuel ≠ 0)
    obtain ⟨hnext, after, hafter, hclose⟩ := nextItem_nil spells hc
    refine ⟨c, after, ?_, hafter, hclose⟩
    simp [items, hnext, bind, Except.bind, pure, Except.pure]
  | @cons v a values as takes _ ih =>
    intro fuel first before c cs rest spells hc hfuel
    obtain ⟨n, rfl⟩ := Nat.exists_eq_succ_of_ne_zero (by omega : fuel ≠ 0)
    obtain ⟨start, text, more, hnext, hstart, hsays, hothers, -⟩ := nextItem_cons spells hc
    obtain ⟨next, hrest, hread⟩ := takes text [] (more ++ rest) start hsays allBlank_nil
      (hothers.noNumberAhead rest) hstart
    obtain ⟨left, after, hitems, hafter, hclose⟩ := ih n false (a :: before) next more rest hothers
      hrest (Nat.lt_of_succ_lt_succ hfuel)
    refine ⟨left, after, ?_, hafter, hclose⟩
    simp only [items, hnext, hread, hitems, bind, Except.bind]
    simp

theorem takes_list (hlevels : 1 < levels) (h : List.Forall₂ (d.Takes (levels - 1)) values as) :
    d.list.Takes levels (.array values) as := by
  intro cs blanks rest c spells blank _ hc
  cases spells with
  | @array _ cs inside =>
    have hskip := rest_skipBlanks hc blank ((Spells.array inside).noBlankAhead rest)
    have hstart : c.skipBlanks.skip.rest = cs ++ rest := rest_skip hskip
    have steps : values.length < c.skipBlanks.skip.steps := by
      have := inside.length_lt
      simp only [Cursor.steps, hstart, List.length_append]
      omega
    obtain ⟨left, after, hitems, hafter, hclose⟩ := items_taken h _ true [] _ cs rest inside hstart
      steps
    refine ⟨after, hafter, ?_⟩
    simp only [list, hskip, List.cons_append, enter_of_lt hlevels, bind, Except.bind, leaving,
      hitems, hclose]
    rfl

end Decoder

end ConversationMemory.Json
