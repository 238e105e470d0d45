import ConversationMemory.Json.Decoder
import ConversationMemory.Proofs.Entries

/-!
# Values as they come out of a text

* `Json.nesting`: the levels of arrays and objects in a value.
* `Json.Canonical`: objects with sorted fields, and integers of 64 bits.
* `fits_of_readNumber`, `ReadableWithin`, **`readable_of_readValue`**: what is read is canonical, and
  has fewer levels than there were left.
* `Decoder.items_forall`, `Decoder.list_forall`: what holds of every value that a decoder gives holds
  of every item of a list.
-/

namespace ConversationMemory

/-! ## Levels -/

namespace Json

mutual

/-- The levels of arrays and objects in a value. -/
def nesting : Json → Nat
  | .null | .bool _ | .number _ | .string _ => 0
  | .array items => itemsNesting items + 1
  | .object fields => fieldsNesting fields + 1

/-- The most levels in one of the values. -/
def itemsNesting : List Json → Nat
  | [] => 0
  | item :: items => max item.nesting (itemsNesting items)

/-- The most levels in the value of one of the fields. -/
def fieldsNesting : List (String × Json) → Nat
  | [] => 0
  | (_, value) :: fields => max value.nesting (fieldsNesting fields)

end

theorem itemsNesting_lt_iff {items : List Json} {n : Nat} (hn : 0 < n) :
    itemsNesting items < n ↔ ∀ item ∈ items, item.nesting < n := by
  induction items with
  | nil => simp [itemsNesting, hn]
  | cons item items ih => rw [itemsNesting, Nat.max_lt, ih, List.forall_mem_cons]

theorem fieldsNesting_lt_iff {fields : List (String × Json)} {n : Nat} (hn : 0 < n) :
    fieldsNesting fields < n ↔ ∀ field ∈ fields, field.2.nesting < n := by
  induction fields with
  | nil => simp [fieldsNesting, hn]
  | cons field fields ih => rw [fieldsNesting, Nat.max_lt, ih, List.forall_mem_cons]

end Json

/-! ## Numbers -/

/-- An integer is one of 64 bits, with a sign or without. -/
def Number.Fits : Number → Prop
  | .integer i => -signedBound ≤ i ∧ i ≤ Json.maxNat64
  | .float _ => True

namespace Json

variable {n : Number} {c after : Cursor}

theorem ok_of_bind {ε α β : Type} {x : Except ε α} {f : α → Except ε β} {b : β}
    (h : x >>= f = .ok b) : ∃ a, x = .ok a ∧ f a = .ok b := by
  cases x with
  | error e => cases h
  | ok a => exact ⟨a, rfl, h⟩

theorem accumulate_le {limit : Nat} (ds : List Nat) :
    ∀ n, n ≤ limit → (accumulate limit n ds).1 ≤ limit := by
  induction ds with
  | nil => exact fun n h => h
  | cons d ds ih =>
    intro n h
    rw [accumulate]
    split
    · exact h
    · exact ih _ (by omega)

theorem fits_whole (positive : Bool) {significand : Nat} (h : significand ≤ maxNat64) :
    (whole positive significand).Fits := by
  unfold whole
  split
  · exact ⟨by simp only [Number.signedBound]; omega, Int.ofNat_le.2 h⟩
  · split
    · rename_i small
      constructor
      · simp only [Number.signedBound, UInt64.size] at small ⊢
        omega
      · simp only [maxNat64, UInt64.size] at small ⊢
        omega
    · trivial

theorem fits_of_finish {positive : Bool} {significand : Nat} {exponent : Int}
    (h : finish positive significand exponent c = .ok (n, after)) : n.Fits := by
  unfold finish at h
  split at h
  · cases h
    trivial
  · cases h

theorem fits_of_readExponent {positive : Bool} {significand : Nat} {start : Int}
    (h : readExponent positive significand start c = .ok (n, after)) : n.Fits := by
  unfold readExponent at h
  split at h
  dsimp only at h
  split at h
  · cases h
  · split at h
    · split at h
      · exact fits_of_finish h
      · split at h
        · cases h
        · cases h
          trivial
    · cases h

theorem fits_of_readFraction {positive : Bool} {significand : Nat} {start : Int}
    (h : readFraction positive significand start c = .ok (n, after)) : n.Fits := by
  unfold readFraction at h
  dsimp only at h
  split at h
  · split at h <;> cases h
  · unfold readScale at h
    split at h
    · exact fits_of_readExponent h
    · exact fits_of_readExponent h
    · exact fits_of_finish h

theorem fits_of_readTail {positive : Bool} {significand : Nat} {left : List Nat}
    (hs : significand ≤ maxNat64) (h : readTail positive significand left c = .ok (n, after)) :
    n.Fits := by
  unfold readTail at h
  split at h
  · exact fits_of_readFraction h
  · exact fits_of_readExponent h
  · exact fits_of_readExponent h
  · cases h
    exact fits_whole positive hs
  · exact fits_of_finish h

/-- **A number that is read fits into 64 bits.** -/
theorem fits_of_readNumber {positive : Bool} (h : readNumber positive c = .ok (n, after)) :
    n.Fits := by
  unfold readNumber at h
  split at h
  · cases h
  · split at h
    · split at h
      · cases h
      · exact fits_of_readTail (Nat.zero_le _) h
    · exact fits_of_readTail (Nat.zero_le _) h
  · split at h
    · exact fits_of_readTail (accumulate_le _ 0 (Nat.zero_le _)) h
    · cases h

/-! ## Values -/

/-- A value as it is kept once it has been read: its integers have 64 bits and the fields of its
objects are sorted. -/
inductive Canonical : Json → Prop
  | null : Canonical .null
  | bool (b : Bool) : Canonical (.bool b)
  | number {n : Number} (fits : n.Fits) : Canonical (.number n)
  | string (s : String) : Canonical (.string s)
  | array {items} (inside : ∀ item ∈ items, Canonical item) : Canonical (.array items)
  | object {fields : Fields} (sorted : fields.Sorted)
    (inside : ∀ field ∈ fields, Canonical field.2) : Canonical (.object fields)

/-- A value that can be read with so many levels left. -/
structure Readable (levels : Nat) (v : Json) : Prop where
  canonical : Canonical v
  nesting : v.nesting < levels

theorem readable_scalar {v : Json} {levels : Nat} (hlevels : 0 < levels) (canonical : Canonical v)
    (flat : v.nesting = 0) : Readable levels v := ⟨canonical, flat ▸ hlevels⟩

theorem readable_array {items : List Json} {levels : Nat} (hlevels : 0 < levels)
    (inside : ∀ item ∈ items, Readable levels item) : Readable (levels + 1) (.array items) where
  canonical := .array fun item hmem => (inside item hmem).canonical
  nesting := Nat.succ_lt_succ <|
    (itemsNesting_lt_iff hlevels).2 fun item hmem => (inside item hmem).nesting

theorem readable_object {fields : Fields} {levels : Nat} (hlevels : 0 < levels)
    (sorted : fields.Sorted) (inside : ∀ field ∈ fields, Readable levels field.2) :
    Readable (levels + 1) (.object fields) where
  canonical := .object sorted fun field hmem => (inside field hmem).canonical
  nesting := Nat.succ_lt_succ <|
    (fieldsNesting_lt_iff hlevels).2 fun field hmem => (inside field hmem).nesting

theorem enter_eq_ok {depth : Nat} (h : enter depth c = .ok after) : 1 < depth := by
  unfold enter at h
  split at h
  · cases h
  · omega

/-- What is read in so many steps can be read: a value, the items of an array and the fields of an
object. -/
structure ReadableWithin (fuel : Nat) : Prop where
  value : ∀ (levels : Nat) (c after : Cursor) (v : Json), 0 < levels →
    readValue fuel levels c = .ok (v, after) → Readable levels v
  items : ∀ (levels : Nat) (first : Bool) (before items : List Json) (c after : Cursor), 0 < levels →
    readItems fuel levels first before c = .ok (items, after) →
    (∀ item ∈ before, Readable levels item) → ∀ item ∈ items, Readable levels item
  fields : ∀ (levels : Nat) (first : Bool) (before fields : Fields) (c after : Cursor), 0 < levels →
    readFields fuel levels first before c = .ok (fields, after) → before.Sorted →
    (∀ field ∈ before, Readable levels field.2) →
    fields.Sorted ∧ ∀ field ∈ fields, Readable levels field.2

section

variable {fuel levels : Nat} {first : Bool} (within : ReadableWithin fuel) (hlevels : 0 < levels)

include within hlevels

theorem ReadableWithin.value_step {v : Json}
    (h : readValue (fuel + 1) levels c = .ok (v, after)) : Readable levels v := by
  rw [readValue] at h
  dsimp only at h
  split at h
  · cases h
  · obtain ⟨rest, -, h⟩ := ok_of_bind h
    cases h
    exact readable_scalar hlevels .null rfl
  · obtain ⟨rest, -, h⟩ := ok_of_bind h
    cases h
    exact readable_scalar hlevels (.bool true) rfl
  · obtain ⟨rest, -, h⟩ := ok_of_bind h
    cases h
    exact readable_scalar hlevels (.bool false) rfl
  · obtain ⟨⟨n, rest⟩, hnumber, h⟩ := ok_of_bind h
    cases h
    exact readable_scalar hlevels (.number (fits_of_readNumber hnumber)) rfl
  · obtain ⟨⟨s, rest⟩, -, h⟩ := ok_of_bind h
    cases h
    exact readable_scalar hlevels (.string s) rfl
  · obtain ⟨start, henter, h⟩ := ok_of_bind h
    obtain ⟨⟨read, rest⟩, hitems, h⟩ := ok_of_bind h
    obtain ⟨last, -, h⟩ := ok_of_bind h
    cases h
    have deep := enter_eq_ok henter
    have inside := within.items (levels - 1) true [] read _ rest (by omega) hitems nofun
    have whole := readable_array (by omega) inside
    rwa [Nat.sub_add_cancel hlevels] at whole
  · obtain ⟨start, henter, h⟩ := ok_of_bind h
    obtain ⟨⟨read, rest⟩, hfields, h⟩ := ok_of_bind h
    obtain ⟨last, -, h⟩ := ok_of_bind h
    cases h
    have deep := enter_eq_ok henter
    obtain ⟨sorted, inside⟩ :=
      within.fields (levels - 1) true [] read _ rest (by omega) hfields .nil nofun
    have whole := readable_object (by omega) sorted inside
    rwa [Nat.sub_add_cancel hlevels] at whole
  · split at h
    · obtain ⟨⟨n, rest⟩, hnumber, h⟩ := ok_of_bind h
      cases h
      exact readable_scalar hlevels (.number (fits_of_readNumber hnumber)) rfl
    · cases h

theorem ReadableWithin.items_step {before items : List Json}
    (h : readItems (fuel + 1) levels first before c = .ok (items, after))
    (kept : ∀ item ∈ before, Readable levels item) : ∀ item ∈ items, Readable levels item := by
  rw [readItems] at h
  obtain ⟨next, -, h⟩ := ok_of_bind h
  cases next with
  | none =>
    cases h
    simpa using kept
  | some start =>
    obtain ⟨⟨item, rest⟩, hitem, h⟩ := ok_of_bind h
    refine within.items levels false (item :: before) items rest after hlevels h fun other hmem => ?_
    rcases List.mem_cons.1 hmem with rfl | hmem
    · exact within.value levels start rest _ hlevels hitem
    · exact kept other hmem

theorem ReadableWithin.fields_step {before fields : Fields}
    (h : readFields (fuel + 1) levels first before c = .ok (fields, after)) (sorted : before.Sorted)
    (kept : ∀ field ∈ before, Readable levels field.2) :
    fields.Sorted ∧ ∀ field ∈ fields, Readable levels field.2 := by
  rw [readFields] at h
  obtain ⟨next, -, h⟩ := ok_of_bind h
  cases next with
  | none =>
    cases h
    exact ⟨sorted, kept⟩
  | some start =>
    obtain ⟨⟨key, named⟩, -, h⟩ := ok_of_bind h
    obtain ⟨valued, -, h⟩ := ok_of_bind h
    obtain ⟨⟨value, rest⟩, hvalue, h⟩ := ok_of_bind h
    refine within.fields levels false (Entries.insert before key value) fields rest after hlevels h
      (Entries.sorted_insert sorted _ _) fun field hmem => ?_
    rcases Entries.mem_insert hmem with rfl | hmem
    · exact within.value levels valued rest _ hlevels hvalue
    · exact kept field hmem

end

theorem readableWithin (fuel : Nat) : ReadableWithin fuel := by
  induction fuel with
  | zero =>
    constructor
    · exact fun _ _ _ _ _ read => nomatch read
    · exact fun _ _ _ _ _ _ _ read => nomatch read
    · exact fun _ _ _ _ _ _ _ read => nomatch read
  | succ fuel ih =>
    constructor
    · exact fun _ _ _ _ hlevels => ih.value_step hlevels
    · exact fun _ _ _ _ _ _ hlevels => ih.items_step hlevels
    · exact fun _ _ _ _ _ _ hlevels => ih.fields_step hlevels

/-- **A value that is read can be read.** -/
theorem readable_of_readValue {fuel levels : Nat} {v : Json} (hlevels : 0 < levels)
    (h : readValue fuel levels c = .ok (v, after)) : Readable levels v :=
  (readableWithin fuel).value levels c after v hlevels h

/-! ## Lists -/

namespace Decoder

variable {α : Type} {d : Decoder α} {levels : Nat} {p : α → Prop}

theorem refuse_ne_ok {expected : String} {result : α × Cursor} : refuse expected c ≠ .ok result := by
  intro h
  unfold refuse at h
  dsimp only at h
  split at h
  · cases h
  all_goals try
    obtain ⟨_, -, h⟩ := ok_of_bind h
    cases h
  · cases h
  · cases h
  · split at h
    · obtain ⟨_, -, h⟩ := ok_of_bind h
      cases h
    · cases h

theorem items_forall (h : ∀ c a after, d.ofText levels c = .ok (a, after) → p a) :
    ∀ (fuel : Nat) (first : Bool) (before as : List α) (c after : Cursor),
      items d levels fuel first before c = .ok (as, after) → (∀ a ∈ before, p a) →
      ∀ a ∈ as, p a := by
  intro fuel
  induction fuel with
  | zero => exact fun _ _ _ _ _ taken => nomatch taken
  | succ fuel ih =>
    intro first before as c after taken kept
    rw [items] at taken
    obtain ⟨next, -, taken⟩ := ok_of_bind taken
    cases next with
    | none =>
      cases taken
      simpa using kept
    | some start =>
      obtain ⟨⟨item, rest⟩, hitem, taken⟩ := ok_of_bind taken
      refine ih false (item :: before) as rest after taken fun a hmem => ?_
      rcases List.mem_cons.1 hmem with rfl | hmem
      · exact h start _ rest hitem
      · exact kept a hmem

theorem list_forall (h : ∀ c a after, d.ofText (levels - 1) c = .ok (a, after) → p a) {as : List α}
    (taken : d.list.ofText levels c = .ok (as, after)) : ∀ a ∈ as, p a := by
  simp only [list] at taken
  split at taken
  · obtain ⟨start, -, taken⟩ := ok_of_bind taken
    unfold leaving at taken
    split at taken
    · rename_i hitems
      obtain ⟨last, -, taken⟩ := ok_of_bind taken
      cases taken
      exact items_forall h _ true [] _ _ _ hitems nofun
    · cases taken
    · cases taken
  · exact (refuse_ne_ok taken).elim

end Decoder

end Json

end ConversationMemory
