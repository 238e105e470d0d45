import ConversationMemory.Proofs.Json.Scalar

/-!
# Ways to write a value down

* `Json.Spells`: a text says a value, with any blanks between its tokens and any escapes in its
  strings.
* **`compactChars_spells`**, **`prettyChars_spells`**: both printers say the value.
* `Spells.head`: how a text begins tells the kind of the value. `Spells.stray_not_mem`: all of its
  bytes belong to characters.
* `nextKey_nil`, `nextKey_cons`: how the fields of an object are walked through; `nextItem_nil`,
  `nextItem_cons`: the items of an array.
-/

namespace ConversationMemory.Json

/-- Nothing but blanks. -/
def AllBlank (cs : List Char) : Prop := ∀ x ∈ cs, Cursor.isBlank x = true

theorem allBlank_nil : AllBlank [] := fun _ hx => nomatch hx

theorem allBlank_newline (level : Nat) : AllBlank (newline level) := by
  intro x hx
  rw [newline, List.mem_cons, List.mem_replicate] at hx
  rcases hx with rfl | ⟨-, rfl⟩ <;> decide

theorem allBlank_space : AllBlank [' '] := by
  intro x hx
  rw [List.mem_singleton] at hx
  subst hx
  decide

/-- What stands before an item: a comma, unless it is the first one. -/
def separator (first : Bool) : List Char := if first then [] else [',']

mutual

/-- The text says the value. -/
inductive Spells : Json → List Char → Prop
  | null : Spells .null ['n', 'u', 'l', 'l']
  | boolTrue : Spells (.bool true) ['t', 'r', 'u', 'e']
  | boolFalse : Spells (.bool false) ['f', 'a', 'l', 's', 'e']
  | number (n : Number) : Spells (.number n) n.chars
  | string {s cs} (quoted : SpellsString s cs) : Spells (.string s) cs
  | array {items cs} (inside : SpellsItems true items cs) : Spells (.array items) ('[' :: cs)
  | object {fields cs} (inside : SpellsFields true fields cs) :
    Spells (.object fields) ('\x7b' :: cs)

/-- The text says the items of an array that are left, and ends it. -/
inductive SpellsItems : Bool → List Json → List Char → Prop
  | nil {first blanks} (blank : AllBlank blanks) : SpellsItems first [] (blanks ++ [']'])
  | cons {first item items blanks cs rest} (blank : AllBlank blanks) (spells : Spells item cs)
    (others : SpellsItems false items rest) :
    SpellsItems first (item :: items) (separator first ++ blanks ++ cs ++ rest)

/-- The text says the fields of an object that are left, and ends it. -/
inductive SpellsFields : Bool → List (String × Json) → List Char → Prop
  | nil {first blanks} (blank : AllBlank blanks) : SpellsFields first [] (blanks ++ ['\x7d'])
  | cons {first key value fields blanks quoted more cs rest} (blank : AllBlank blanks)
    (named : SpellsString key quoted) (blank' : AllBlank more) (spells : Spells value cs)
    (others : SpellsFields false fields rest) :
    SpellsFields first ((key, value) :: fields)
      (separator first ++ blanks ++ quoted ++ ':' :: more ++ cs ++ rest)

end

section

variable {item value : Json} {items : List Json} {fields : List (String × Json)}
  {blanks more cs rest : List Char}

theorem SpellsItems.first (blank : AllBlank blanks) (spells : Spells item cs)
    (others : SpellsItems false items rest) :
    SpellsItems true (item :: items) (blanks ++ (cs ++ rest)) := by
  have h : SpellsItems true (item :: items) _ := .cons blank spells others
  simpa [separator] using h

theorem SpellsItems.next (blank : AllBlank blanks) (spells : Spells item cs)
    (others : SpellsItems false items rest) :
    SpellsItems false (item :: items) (',' :: (blanks ++ (cs ++ rest))) := by
  have h : SpellsItems false (item :: items) _ := .cons blank spells others
  simpa [separator] using h

theorem SpellsFields.first (key : String) (blank : AllBlank blanks) (blank' : AllBlank more)
    (spells : Spells value cs) (others : SpellsFields false fields rest) :
    SpellsFields true ((key, value) :: fields)
      (blanks ++ (stringChars key ++ ':' :: (more ++ (cs ++ rest)))) := by
  have h : SpellsFields true ((key, value) :: fields) _ :=
    .cons blank (stringChars_spells key) blank' spells others
  simpa [separator] using h

theorem SpellsFields.next (key : String) (blank : AllBlank blanks) (blank' : AllBlank more)
    (spells : Spells value cs) (others : SpellsFields false fields rest) :
    SpellsFields false ((key, value) :: fields)
      (',' :: (blanks ++ (stringChars key ++ ':' :: (more ++ (cs ++ rest))))) := by
  have h : SpellsFields false ((key, value) :: fields) _ :=
    .cons blank (stringChars_spells key) blank' spells others
  simpa [separator] using h

end

/-! ## The printers -/

mutual

/-- **The text without blanks says the value.** -/
theorem compactChars_spells : ∀ v : Json, Spells v v.compactChars
  | .null => .null
  | .bool true => .boolTrue
  | .bool false => .boolFalse
  | .number n => .number n
  | .string s => .string (stringChars_spells s)
  | .array [] => .array (.nil allBlank_nil)
  | .array (item :: items) => by
    have inside := SpellsItems.first allBlank_nil (compactChars_spells item)
      (compactItems_spells items)
    simpa [compactChars] using Spells.array inside
  | .object [] => .object (.nil allBlank_nil)
  | .object ((key, value) :: fields) => by
    have inside := SpellsFields.first key allBlank_nil allBlank_nil
      (compactChars_spells value) (compactFields_spells fields)
    simpa [compactChars] using Spells.object inside

theorem compactItems_spells : ∀ items : List Json, SpellsItems false items (compactItems items)
  | [] => .nil allBlank_nil
  | item :: items => by
    simpa [compactItems] using SpellsItems.next allBlank_nil (compactChars_spells item)
      (compactItems_spells items)

theorem compactFields_spells :
    ∀ fields : List (String × Json), SpellsFields false fields (compactFields fields)
  | [] => .nil allBlank_nil
  | (key, value) :: fields => by
    simpa [compactFields] using SpellsFields.next key allBlank_nil allBlank_nil
      (compactChars_spells value) (compactFields_spells fields)

end

mutual

/-- **The text over several lines says the value.** -/
theorem prettyChars_spells (level : Nat) : ∀ v : Json, Spells v (v.prettyChars level)
  | .null => .null
  | .bool true => .boolTrue
  | .bool false => .boolFalse
  | .number n => .number n
  | .string s => .string (stringChars_spells s)
  | .array [] => .array (.nil allBlank_nil)
  | .array (item :: items) => by
    have inside := SpellsItems.first (allBlank_newline (level + 1))
      (prettyChars_spells (level + 1) item) (prettyItems_spells level items)
    simpa [prettyChars] using Spells.array inside
  | .object [] => .object (.nil allBlank_nil)
  | .object ((key, value) :: fields) => by
    have inside := SpellsFields.first key (allBlank_newline (level + 1)) allBlank_space
      (prettyChars_spells (level + 1) value) (prettyFields_spells level fields)
    simpa [prettyChars] using Spells.object inside

theorem prettyItems_spells (level : Nat) :
    ∀ items : List Json, SpellsItems false items (prettyItems level items)
  | [] => .nil (allBlank_newline level)
  | item :: items => by
    simpa [prettyItems] using SpellsItems.next (allBlank_newline (level + 1))
      (prettyChars_spells (level + 1) item) (prettyItems_spells level items)

theorem prettyFields_spells (level : Nat) :
    ∀ fields : List (String × Json), SpellsFields false fields (prettyFields level fields)
  | [] => .nil (allBlank_newline level)
  | (key, value) :: fields => by
    simpa [prettyFields] using SpellsFields.next key (allBlank_newline (level + 1)) allBlank_space
      (prettyChars_spells (level + 1) value) (prettyFields_spells level fields)

end

/-! ## How a text begins -/

/-- How the text of a number begins. -/
def isNumberHead (x : Char) : Prop := x = '-' ∨ x.isDigit = true

theorem toDigits_head (n : Nat) : ∃ x cs, Nat.toDigits 10 n = x :: cs ∧ x.isDigit = true := by
  cases h : Nat.toDigits 10 n with
  | nil => exact absurd h Nat.toDigits_ne_nil
  | cons x cs =>
    exact ⟨x, cs, rfl, Nat.isDigit_of_mem_toDigits (by omega) (by omega) (h ▸ List.mem_cons_self)⟩

theorem positional_head (d : Decimal) : ∃ x cs, d.positional = x :: cs ∧ x.isDigit = true := by
  obtain ⟨x, cs, hchars, hx⟩ := toDigits_head d.digits
  unfold Decimal.positional
  cases d.exponent with
  | ofNat k => exact ⟨x, _, by simp only [Decimal.chars, hchars]; rfl, hx⟩
  | negSucc k =>
    dsimp only
    split
    · rename_i hplaces
      obtain ⟨n, hn⟩ := Nat.exists_eq_succ_of_ne_zero
        (by omega : d.chars.length - (k + 1) ≠ 0)
      have htake : ∃ more, d.chars.take (d.chars.length - (k + 1)) = x :: more := by
        rw [hn, Decimal.chars, hchars]
        exact ⟨_, rfl⟩
      obtain ⟨more, hmore⟩ := htake
      exact ⟨x, _, by rw [hmore]; rfl, hx⟩
    · exact ⟨'0', _, rfl, by decide⟩

theorem scientific_head (d : Decimal) : ∃ x cs, d.scientific = x :: cs ∧ x.isDigit = true := by
  obtain ⟨x, cs, hchars, hx⟩ := toDigits_head d.digits
  refine ⟨x, ?_⟩
  unfold Decimal.scientific
  rw [Decimal.chars, hchars]
  cases cs with
  | nil => exact ⟨_, rfl, hx⟩
  | cons y cs => exact ⟨_, rfl, hx⟩

theorem number_head (n : Number) : ∃ x cs, n.chars = x :: cs ∧ isNumberHead x := by
  have signed (negative : Bool) {cs : List Char}
      (h : ∃ x rest, cs = x :: rest ∧ x.isDigit = true) :
      ∃ x rest, (if negative then '-' :: cs else cs) = x :: rest ∧ isNumberHead x := by
    obtain ⟨x, rest, rfl, hx⟩ := h
    cases negative with
    | false => exact ⟨x, rest, rfl, .inr hx⟩
    | true => exact ⟨'-', _, rfl, .inl rfl⟩
  cases n with
  | integer i =>
    cases i with
    | ofNat n => exact signed false (toDigits_head n)
    | negSucc n => exact ⟨'-', _, rfl, .inl rfl⟩
  | float x =>
    refine signed x.negative ?_
    split
    · split
      · obtain ⟨y, cs, h, hy⟩ := positional_head x.shortest.trimmed
        exact ⟨y, _, by rw [h]; rfl, hy⟩
      · exact positional_head _
    · exact scientific_head _

/-- How the text of a value begins. -/
def headOf : Json → Char → Prop
  | .null, x => x = 'n'
  | .bool true, x => x = 't'
  | .bool false, x => x = 'f'
  | .number _, x => isNumberHead x
  | .string _, x => x = '"'
  | .array _, x => x = '['
  | .object _, x => x = '{'

theorem SpellsString.head {s : String} {cs : List Char} (h : SpellsString s cs) :
    ∃ x rest, cs = x :: rest ∧ x = '"' := by
  cases h
  exact ⟨'"', _, rfl, rfl⟩

theorem Spells.head {v : Json} {cs : List Char} (h : Spells v cs) :
    ∃ x rest, cs = x :: rest ∧ headOf v x := by
  cases h with
  | null => exact ⟨'n', _, rfl, rfl⟩
  | boolTrue => exact ⟨'t', _, rfl, rfl⟩
  | boolFalse => exact ⟨'f', _, rfl, rfl⟩
  | number n => exact number_head n
  | string quoted => exact quoted.head
  | array inside => exact ⟨'[', _, rfl, rfl⟩
  | object inside => exact ⟨'{', _, rfl, rfl⟩

theorem isNumberHead_not_blank {x : Char} (h : isNumberHead x) : Cursor.isBlank x = false := by
  rcases h with rfl | hdigit
  · decide
  · cases hblank : Cursor.isBlank x with
    | false => rfl
    | true =>
      simp only [Cursor.isBlank, Bool.or_eq_true, beq_iff_eq] at hblank
      rcases hblank with ((rfl | rfl) | rfl) | rfl <;> revert hdigit <;> decide

theorem headOf_not_blank : ∀ {v : Json} {x : Char}, headOf v x → Cursor.isBlank x = false
  | .number _, _, h => isNumberHead_not_blank h
  | .null, _, rfl | .bool true, _, rfl | .bool false, _, rfl | .string _, _, rfl
  | .array _, _, rfl | .object _, _, rfl => by decide

theorem eq_null_of_headOf : ∀ {v : Json}, headOf v 'n' → v = .null
  | .null, _ => rfl
  | .number _, .inr h => absurd h (by decide)

theorem Spells.noBlankAhead {v : Json} {cs : List Char} (h : Spells v cs) (rest : List Char) :
    NoBlankAhead (cs ++ rest) := by
  obtain ⟨x, more, rfl, hx⟩ := h.head
  exact noBlankAhead_cons (headOf_not_blank hx)

/-! ## Text through and through -/

theorem stray_not_mem_digits (n : Nat) : Cursor.stray ∉ Nat.toDigits 10 n := by
  intro hmem
  have digit := Nat.isDigit_of_mem_toDigits (by decide) (by decide) hmem
  revert digit
  decide

theorem stray_not_mem_positional (d : Decimal) : Cursor.stray ∉ d.positional := by
  have digits : Cursor.stray ∉ d.chars := stray_not_mem_digits _
  have marks : Cursor.stray ≠ '0' ∧ Cursor.stray ≠ '.' := by decide
  unfold Decimal.positional
  split
  · simp [digits, marks]
  · dsimp only
    split
    · simp only [List.mem_append, List.mem_cons, not_or]
      exact ⟨fun h => digits (List.mem_of_mem_take h), marks.2,
        fun h => digits (List.mem_of_mem_drop h)⟩
    · simp [digits, marks]

theorem scientific_cases (d : Decimal) : ∃ sign k, (sign = '+' ∨ sign = '-') ∧
    ((∃ first second rest, d.chars = first :: second :: rest ∧
      d.scientific = first :: '.' :: second :: rest ++ 'e' :: sign :: Nat.toDigits 10 k) ∨
    d.scientific = d.chars ++ 'e' :: sign :: Nat.toDigits 10 k) := by
  unfold Decimal.scientific
  cases d.leading with
  | ofNat k =>
    refine ⟨'+', k, .inl rfl, ?_⟩
    split
    · exact .inl ⟨_, _, _, ‹_›, rfl⟩
    · exact .inr rfl
  | negSucc k =>
    refine ⟨'-', k + 1, .inr rfl, ?_⟩
    split
    · exact .inl ⟨_, _, _, ‹_›, rfl⟩
    · exact .inr rfl

theorem stray_not_mem_scientific (d : Decimal) : Cursor.stray ∉ d.scientific := by
  have digits : Cursor.stray ∉ d.chars := stray_not_mem_digits _
  have marks : Cursor.stray ≠ '.' ∧ Cursor.stray ≠ 'e' := by decide
  obtain ⟨sign, k, signed, written⟩ := scientific_cases d
  have other : Cursor.stray ≠ sign := by
    rcases signed with rfl | rfl <;> decide
  rcases written with ⟨first, second, rest, hchars, written⟩ | written
  · rw [hchars] at digits
    rw [written]
    simp only [List.mem_cons, not_or] at digits
    simp [digits, marks, other, stray_not_mem_digits]
  · simp [written, digits, marks, other, stray_not_mem_digits]

theorem stray_not_mem_number (n : Number) : Cursor.stray ∉ n.chars := by
  have sign : Cursor.stray ≠ '-' := by decide
  have zero : Cursor.stray ≠ '.' ∧ Cursor.stray ≠ '0' := by decide
  cases n with
  | integer i =>
    cases i with
    | ofNat n => exact stray_not_mem_digits n
    | negSucc n => simp [Number.chars, sign, stray_not_mem_digits]
  | float x =>
    have magnitude : Cursor.stray ∉
        if -5 ≤ x.shortest.trimmed.leading ∧ x.shortest.trimmed.leading ≤ 15 then
          if 0 ≤ x.shortest.trimmed.exponent then x.shortest.trimmed.positional ++ ['.', '0']
          else x.shortest.trimmed.positional
        else x.shortest.trimmed.scientific := by
      split
      · split
        · simp [stray_not_mem_positional, zero]
        · exact stray_not_mem_positional _
      · exact stray_not_mem_scientific _
    simp only [Number.chars, Binary64.jsonChars]
    split
    · rw [List.mem_cons, not_or]
      exact ⟨sign, magnitude⟩
    · exact magnitude

theorem AllBlank.stray_not_mem {cs : List Char} (h : AllBlank cs) : Cursor.stray ∉ cs := by
  intro hmem
  have blank := h _ hmem
  revert blank
  decide

theorem stray_not_mem_separator (first : Bool) : Cursor.stray ∉ separator first := by
  cases first <;> decide

mutual

/-- **No byte of a text that says a value is stray.** -/
theorem Spells.stray_not_mem {v : Json} {cs : List Char} : Spells v cs → Cursor.stray ∉ cs
  | .null | .boolTrue | .boolFalse => by decide
  | .number n => stray_not_mem_number n
  | .string quoted => quoted.stray_not_mem
  | .array inside => List.not_mem_cons_of_ne_of_not_mem (by decide) inside.stray_not_mem
  | .object inside => List.not_mem_cons_of_ne_of_not_mem (by decide) inside.stray_not_mem

theorem SpellsItems.stray_not_mem {first : Bool} {items : List Json} {cs : List Char} :
    SpellsItems first items cs → Cursor.stray ∉ cs
  | .nil blank => by
    have bracket : Cursor.stray ≠ ']' := by decide
    simp [blank.stray_not_mem, bracket]
  | .cons blank spells others => by
    simp [stray_not_mem_separator, blank.stray_not_mem, spells.stray_not_mem, others.stray_not_mem]

theorem SpellsFields.stray_not_mem {first : Bool} {fields : List (String × Json)} {cs : List Char} :
    SpellsFields first fields cs → Cursor.stray ∉ cs
  | .nil blank => by
    have brace : Cursor.stray ≠ '\x7d' := by decide
    simp [blank.stray_not_mem, brace]
  | .cons blank named blank' spells others => by
    have colon : Cursor.stray ≠ ':' := by decide
    simp [stray_not_mem_separator, named.stray_not_mem, colon, blank.stray_not_mem,
      blank'.stray_not_mem, spells.stray_not_mem, others.stray_not_mem]

end

theorem rest_ofChars {cs : List Char} (h : Cursor.stray ∉ cs) : (Cursor.ofChars cs).rest = cs := by
  have symbols : ∀ c ∈ cs, (Cursor.symbol ∘ some) c = id c := by
    intro c hc
    refine if_neg ?_
    rintro rfl
    exact h hc
  rw [Cursor.ofChars, Cursor.ofParts, List.map_map, List.map_congr_left symbols, List.map_id]

/-! ## Walking through an object -/

theorem noNumberAhead_cons {x : Char} {cs : List Char}
    (h : x.isDigit = false ∧ x ≠ '.' ∧ x ≠ 'e' ∧ x ≠ 'E') : NoNumberAhead (x :: cs) := by
  intro y rest heq
  cases heq
  exact h

theorem noNumberAhead_blank {x : Char} {cs : List Char} (h : Cursor.isBlank x = true) :
    NoNumberAhead (x :: cs) := by
  refine noNumberAhead_cons ?_
  simp only [Cursor.isBlank, Bool.or_eq_true, beq_iff_eq] at h
  rcases h with ((rfl | rfl) | rfl) | rfl <;> decide

theorem SpellsFields.noNumberAhead {fields : List (String × Json)} {cs : List Char}
    (h : SpellsFields false fields cs) (rest : List Char) : NoNumberAhead (cs ++ rest) := by
  cases h with
  | @nil _ blanks blank =>
    cases blanks with
    | nil => exact noNumberAhead_cons (by decide)
    | cons x blanks => exact noNumberAhead_blank (blank x (by simp))
  | cons => exact noNumberAhead_cons (by decide)

theorem SpellsFields.length_le {first : Bool} {fields : List (String × Json)} :
    ∀ {cs : List Char}, SpellsFields first fields cs → fields.length ≤ cs.length := by
  induction fields generalizing first with
  | nil => exact fun _ => Nat.zero_le _
  | cons field fields ih =>
    intro cs h
    cases h with
    | cons _ _ _ _ others =>
      have := ih others
      simp only [List.length_cons, List.length_append]
      omega

theorem SpellsFields.length_lt_steps {first : Bool} {fields : List (String × Json)}
    {cs rest : List Char} (h : SpellsFields first fields cs) {c : Cursor} (hc : c.rest = cs ++ rest) :
    fields.length < c.steps := by
  have := h.length_le
  rw [Cursor.steps, hc, List.length_append]
  omega

section

variable {key : String} {value : Json} {fields : List (String × Json)} {first : Bool}
  {cs rest : List Char} {c : Cursor}

theorem nextKey_nil (spells : SpellsFields first [] cs) (hc : c.rest = cs ++ rest) :
    nextKey first c = .ok none ∧ ∃ after, after.rest = rest ∧ closeObject c = .ok after := by
  cases spells with
  | @nil _ blanks blank =>
    have hskip : c.skipBlanks.rest = '\x7d' :: rest := by
      refine rest_skipBlanks ?_ blank (noBlankAhead_cons (by decide))
      rw [hc, List.append_assoc]
      rfl
    refine ⟨by simp [nextKey, hskip], c.skipBlanks.skip, rest_skip hskip, by simp [closeObject, hskip]⟩

theorem nextKey_cons (spells : SpellsFields first ((key, value) :: fields) cs)
    (hc : c.rest = cs ++ rest) :
    ∃ (quoted named valued : Cursor) (blanks text others : List Char),
      nextKey first c = .ok (some quoted) ∧ readString quoted = .ok (key, named) ∧
      readColon named = .ok valued ∧ valued.rest = blanks ++ (text ++ (others ++ rest)) ∧
      AllBlank blanks ∧ Spells value text ∧ SpellsFields false fields others ∧
      text.length + others.length < cs.length := by
  cases spells with
  | @cons _ _ _ _ blanks quoted more text others blank key blank' spells otherFields =>
    obtain ⟨_, letters, rfl, rfl⟩ := key.head
    -- past the comma, if there is one, stands the key
    obtain ⟨start, hstart, hnext⟩ : ∃ start : Cursor,
        start.rest = '"' :: letters ++ (':' :: (more ++ (text ++ (others ++ rest)))) ∧
          nextKey first c = .ok (some start.skip) := by
      have quote : NoBlankAhead ('"' :: letters ++ (':' :: (more ++ (text ++ (others ++ rest))))) :=
        noBlankAhead_cons (by decide)
      cases first with
      | true =>
        have hskip := rest_skipBlanks (by simpa [separator] using hc) blank quote
        refine ⟨c.skipBlanks, hskip, ?_⟩
        simp [nextKey, hskip]
      | false =>
        have hcomma := rest_skipBlanks_self hc (noBlankAhead_cons (by decide))
        have hskip := rest_skipBlanks (by simpa [separator] using rest_skip hcomma) blank quote
        refine ⟨_, hskip, ?_⟩
        simp [nextKey, hcomma, separator, hskip]
    obtain ⟨named, hnamed, hread⟩ := readString_spelled key hstart
    have hcolon := rest_skipBlanks_self hnamed (noBlankAhead_cons (by decide))
    refine ⟨start.skip, named, named.skipBlanks.skip, more, text, others, hnext, hread, ?_,
      rest_skip hcolon, blank', spells, otherFields, ?_⟩
    · simp [readColon, hcolon]
    · simp only [List.length_append, List.length_cons]
      omega

end

/-! ## Walking through an array -/

section

variable {item : Json} {items : List Json} {first : Bool} {cs rest : List Char} {c : Cursor}

theorem SpellsItems.noNumberAhead (h : SpellsItems false items cs) (rest : List Char) :
    NoNumberAhead (cs ++ rest) := by
  cases h with
  | @nil _ blanks blank =>
    cases blanks with
    | nil => exact noNumberAhead_cons (by decide)
    | cons x blanks => exact noNumberAhead_blank (blank x (by simp))
  | cons blank spells others => exact noNumberAhead_cons (by decide)

theorem SpellsItems.length_lt (h : SpellsItems first items cs) : items.length < cs.length := by
  induction items generalizing first cs with
  | nil =>
    cases h
    simp
  | cons item items ih =>
    cases h with
    | cons blank spells others =>
      obtain ⟨x, more, rfl, -⟩ := spells.head
      have := ih others
      simp only [List.length_cons, List.length_append]
      omega

theorem headOf_ne_bracket {v : Json} {x : Char} (h : headOf v x) : x ≠ ']' := by
  rintro rfl
  cases v with
  | number => exact absurd h (by simp [headOf, isNumberHead])
  | bool b => cases b <;> exact absurd h (by simp [headOf])
  | null | string | array | object => exact absurd h (by simp [headOf])

theorem nextItem_nil (spells : SpellsItems first [] cs) (hc : c.rest = cs ++ rest) :
    nextItem first c = .ok none ∧ ∃ after, after.rest = rest ∧ closeArray c = .ok after := by
  cases spells with
  | @nil _ blanks blank =>
    have hskip : c.skipBlanks.rest = ']' :: rest := by
      refine rest_skipBlanks ?_ blank (noBlankAhead_cons (by decide))
      rw [hc, List.append_assoc]
      rfl
    refine ⟨by simp [nextItem, hskip], c.skipBlanks.skip, rest_skip hskip, by simp [closeArray, hskip]⟩

theorem nextItem_cons (spells : SpellsItems first (item :: items) cs) (hc : c.rest = cs ++ rest) :
    ∃ (start : Cursor) (text others : List Char),
      nextItem first c = .ok (some start) ∧ start.rest = text ++ (others ++ rest) ∧
      Spells item text ∧ SpellsItems false items others ∧
      text.length + others.length ≤ cs.length := by
  cases spells with
  | @cons _ _ _ blanks text others blank spells otherItems =>
    have ahead : NoBlankAhead (text ++ (others ++ rest)) := spells.noBlankAhead _
    have shorter : text.length + others.length ≤
        (separator first ++ blanks ++ text ++ others).length := by
      simp only [List.length_append]
      omega
    obtain ⟨x, more, hx, headed⟩ := spells.head
    have bracket : x ≠ ']' := headOf_ne_bracket headed
    cases first with
    | true =>
      have hskip := rest_skipBlanks (by simpa [separator] using hc) blank ahead
      refine ⟨c.skipBlanks, text, others, ?_, hskip, spells, otherItems, shorter⟩
      simp [nextItem, hskip, hx]
    | false =>
      have hcomma := rest_skipBlanks_self hc (noBlankAhead_cons (by decide))
      have hskip := rest_skipBlanks (by simpa [separator] using rest_skip hcomma) blank ahead
      refine ⟨_, text, others, ?_, hskip, spells, otherItems, shorter⟩
      simp [nextItem, hcomma, separator, hskip, hx, bracket]

end

end ConversationMemory.Json
