import ConversationMemory.Json.Printer
import ConversationMemory.Json.Reader
import ConversationMemory.Proofs.Text.Digits

/-!
# Strings and numbers read back

* `rest_skip`, `rest_skipBlanks`: how a cursor moves.
* `Escaped`, `readChars_escaped`: what stands for one character of a string is read as this character.
  `SpellsString`: a text says a string; **`readString_spelled`**: this string is read.
  `stringChars_spells`: the printer says the string.
* `accumulate_of_le`: digits are taken in as long as their number stays within the limit;
  **`readNumber_digits`**: a written number of 64 bits is read back, whatever its sign.
-/

namespace ConversationMemory.Json

/-! ## Cursors -/

theorem rest_skip {c : Cursor} {x : Char} {cs : List Char} (h : c.rest = x :: cs) :
    c.skip.rest = cs := by
  simp only [Cursor.skip, h]

theorem rest_drop (c : Cursor) (n : Nat) : (c.drop n).rest = c.rest.drop n := rfl

/-- The text does not begin with a blank. -/
def NoBlankAhead (cs : List Char) : Prop := ∀ x rest, cs = x :: rest → Cursor.isBlank x = false

theorem noBlankAhead_cons {x : Char} {cs : List Char} (h : Cursor.isBlank x = false) :
    NoBlankAhead (x :: cs) := by
  intro y rest heq
  cases heq
  exact h

theorem dropWhile_blanks {blanks cs : List Char} (hblanks : ∀ x ∈ blanks, Cursor.isBlank x = true)
    (hcs : NoBlankAhead cs) : (blanks ++ cs).dropWhile Cursor.isBlank = cs := by
  induction blanks with
  | nil =>
    cases cs with
    | nil => rfl
    | cons x rest => simp [hcs x rest rfl]
  | cons x blanks ih =>
    have hx := hblanks x (by simp)
    simp only [List.cons_append, List.dropWhile_cons, hx, if_true]
    exact ih fun y hy => hblanks y (by simp [hy])

theorem rest_skipBlanks {c : Cursor} {blanks cs : List Char} (h : c.rest = blanks ++ cs)
    (hblanks : ∀ x ∈ blanks, Cursor.isBlank x = true) (hcs : NoBlankAhead cs) :
    c.skipBlanks.rest = cs := by
  rw [Cursor.skipBlanks, h]
  exact dropWhile_blanks hblanks hcs

theorem rest_skipBlanks_self {c : Cursor} {cs : List Char} (h : c.rest = cs)
    (hcs : NoBlankAhead cs) : c.skipBlanks.rest = cs := by
  have hc : c.rest = [] ++ cs := h
  exact rest_skipBlanks hc (fun x hx => nomatch hx) hcs

/-! ## Units -/

theorem placeAfter_zero (p : Position) (cs : List Char) : placeAfter 0 p cs = some p := by
  cases cs <;> simp [placeAfter]

theorem utf8Size_of_mem {d : Char} {v : Nat} (known : (d, v) ∈ Text.digitValues) :
    d.utf8Size = 1 := by
  have all : ∀ entry ∈ Text.digitValues, entry.1.utf8Size = 1 := by decide
  exact all _ known

theorem readUnit_append {c : Cursor} {n : Nat} {ds rest : List Char} (four : ds.length = 4)
    (number : Text.MakesUp 16 ds n) (h : c.rest = ds ++ rest) :
    ∃ after, after.rest = rest ∧ readUnit c = .ok (n, after) := by
  refine ⟨c.drop 4, by rw [rest_drop, h, ← four, List.drop_left], ?_⟩
  obtain ⟨vs, values, rfl⟩ := number
  obtain ⟨d₁, d₂, d₃, d₄, rfl⟩ := List.length_eq_four.1 four
  rcases values with _ | ⟨⟨known₁, -⟩, _ | ⟨⟨known₂, -⟩, _ | ⟨⟨known₃, -⟩, _ | ⟨⟨known₄, -⟩, _ | _⟩⟩⟩⟩
  rename_i v₁ v₂ v₃ v₄
  have total : ((v₁ * 16 + v₂) * 16 + v₃) * 16 + v₄ = Nat.ofDigits 16 [v₄, v₃, v₂, v₁] := by
    simp only [Nat.ofDigits_cons, Nat.ofDigits_nil]
    omega
  simp [readUnit, h, placeAfter, placeAfter_zero, utf8Size_of_mem known₁, utf8Size_of_mem known₂,
    utf8Size_of_mem known₃, utf8Size_of_mem known₄, Text.hexDigit?_of_mem known₁,
    Text.hexDigit?_of_mem known₂, Text.hexDigit?_of_mem known₃, Text.hexDigit?_of_mem known₄, total]

/-! ## Characters of strings -/

/-- The letters that stand for a character behind a backslash, each with its character. -/
def escapeLetters : List (Char × Char) :=
  [('"', '"'), ('\\', '\\'), ('/', '/'), ('b', '\x08'), ('f', '\x0c'), ('n', '\n'), ('r', '\r'),
    ('t', '\t')]

/-- What stands for a character in a string: a letter, its number, the two surrogates that its number
is written with when it has more than four digits, or the character itself. -/
inductive Escaped (x : Char) : List Char → Prop
  | letter {letter} (known : (letter, x) ∈ escapeLetters) : Escaped x ['\\', letter]
  | unit {ds} (four : ds.length = 4) (number : Text.MakesUp 16 ds x.toNat) :
    Escaped x ('\\' :: 'u' :: ds)
  | pair {ds es : List Char} {high low : Nat} (four : ds.length = 4) (four' : es.length = 4)
    (first : Text.MakesUp 16 ds (0xD800 + high)) (second : Text.MakesUp 16 es (0xDC00 + low))
    (few : high < 0x400) (few' : low < 0x400) (number : x.toNat = 0x10000 + high * 0x400 + low) :
    Escaped x ('\\' :: 'u' :: (ds ++ '\\' :: 'u' :: es))
  | plain (noQuote : x ≠ '"') (noBackslash : x ≠ '\\') (allowed : ¬ x.toNat < 0x20) : Escaped x [x]

theorem makesUp_control {n : Nat} (control : n < 0x20) :
    Text.MakesUp 16 ['0', '0', Nat.digitChar (n / 16), Nat.digitChar (n % 16)] n := by
  have digit : ∀ v < 16, (Nat.digitChar v, v) ∈ Text.digitValues := by decide
  refine ⟨[0, 0, n / 16, n % 16], ?_, ?_⟩
  · refine .cons (by decide) (.cons (by decide) (.cons ⟨digit _ (by omega), by omega⟩
      (.cons ⟨digit _ (by omega), by omega⟩ .nil)))
  · simp only [List.reverse_cons, List.reverse_nil, List.nil_append, List.cons_append,
      Nat.ofDigits_cons, Nat.ofDigits_nil]
    omega

theorem escaped_escapeChar (x : Char) : Escaped x (escapeChar x) := by
  unfold escapeChar
  split
  · rename_i quoted
    rcases quoted with rfl | rfl <;> exact .letter (by simp [escapeLetters])
  split
  · exact .letter (by simp [escapeLetters, *])
  split
  · exact .letter (by simp [escapeLetters, *])
  split
  · exact .letter (by simp [escapeLetters, *])
  split
  · exact .letter (by simp [escapeLetters, *])
  split
  · exact .letter (by simp [escapeLetters, *])
  split
  · exact .unit rfl (makesUp_control ‹_›)
  · rename_i quoted _ _ _ _ _ allowed
    exact .plain (fun heq => quoted (.inl heq)) (fun heq => quoted (.inr heq)) allowed

theorem readEscape_letter {letter x : Char} (known : (letter, x) ∈ escapeLetters) {c : Cursor}
    {rest : List Char} (h : c.rest = letter :: rest) : readEscape c = .ok (x, c.skip) := by
  simp only [escapeLetters, List.mem_cons, Prod.mk.injEq, List.not_mem_nil, or_false] at known
  rcases known with ⟨rfl, rfl⟩ | ⟨rfl, rfl⟩ | ⟨rfl, rfl⟩ | ⟨rfl, rfl⟩ | ⟨rfl, rfl⟩ | ⟨rfl, rfl⟩ |
    ⟨rfl, rfl⟩ | ⟨rfl, rfl⟩ <;> simp [readEscape, h]

theorem toNat_cases (x : Char) : x.toNat < 0xD800 ∨ 0xDFFF < x.toNat := by
  have valid : x.toNat.isValidChar := x.valid
  exact valid.imp_right And.left

/-- **What stands for a character in a string is read as this character.** -/
theorem readChars_escaped {c : Cursor} {x : Char} {cs rest : List Char} (escaped : Escaped x cs)
    (h : c.rest = cs ++ rest) (fuel : Nat) (before : List Char) :
    ∃ after, after.rest = rest ∧
      readChars (fuel + 1) before c = readChars fuel (x :: before) after := by
  cases escaped with
  | @letter letter known =>
    have hx : c.rest = '\\' :: letter :: rest := h
    have hskip := rest_skip hx
    refine ⟨c.skip.skip, rest_skip hskip, ?_⟩
    rw [readChars, hx]
    simp [readEscape_letter known hskip, bind, Except.bind]
  | @unit ds four number =>
    have hx : c.rest = '\\' :: 'u' :: (ds ++ rest) := h
    have hu := rest_skip hx
    obtain ⟨after, hafter, hunit⟩ := readUnit_append four number (rest_skip hu)
    have hescape : readEscape c.skip = .ok (x, after) := by
      have range := toNat_cases x
      have low : ¬ (0xDC00 ≤ x.toNat ∧ x.toNat ≤ 0xDFFF) := by omega
      have high : ¬ (0xD800 ≤ x.toNat ∧ x.toNat ≤ 0xDBFF) := by omega
      simp [readEscape, hu, readCodePoint, hunit, bind, Except.bind, low, high, Char.ofNat_toNat]
    refine ⟨after, hafter, ?_⟩
    rw [readChars, hx]
    simp [hescape, bind, Except.bind]
  | @pair ds es high low four four' first second few few' number =>
    have hx : c.rest = '\\' :: 'u' :: (ds ++ '\\' :: 'u' :: (es ++ rest)) := by
      simpa using h
    have hu := rest_skip hx
    obtain ⟨next, hnext, hfirst⟩ := readUnit_append four first (rest_skip hu)
    have hsecond : (next.drop 2).rest = es ++ rest := by rw [rest_drop, hnext]; rfl
    obtain ⟨after, hafter, hlast⟩ := readUnit_append four' second hsecond
    have hescape : readEscape c.skip = .ok (x, after) := by
      have leads : ¬ (0xDC00 ≤ 0xD800 + high ∧ 0xD800 + high ≤ 0xDFFF) := by omega
      have trails : 0xD800 + high ≤ 0xDBFF := by omega
      have follows : 0xDC00 + low ≤ 0xDFFF := by omega
      have same : 0x10000 + high * 0x400 + low = x.toNat := number.symm
      simp [readEscape, hu, readCodePoint, hfirst, hnext, hlast, bind, Except.bind, leads, trails,
        follows, same, Char.ofNat_toNat]
    refine ⟨after, hafter, ?_⟩
    rw [readChars, hx]
    simp [hescape, bind, Except.bind]
  | plain noQuote noBackslash allowed =>
    have hx : c.rest = x :: rest := h
    refine ⟨c.skip, rest_skip hx, ?_⟩
    rw [readChars, hx]
    simp [noQuote, noBackslash, isControl, allowed]

theorem Escaped.length_pos {x : Char} {cs : List Char} (escaped : Escaped x cs) : 0 < cs.length := by
  cases escaped <;> simp

theorem Escaped.stray_not_mem {x : Char} {cs : List Char} (escaped : Escaped x cs) :
    Cursor.stray ∉ cs := by
  have digits {n : Nat} {ds : List Char} (number : Text.MakesUp 16 ds n) : Cursor.stray ∉ ds := by
    intro mem
    obtain ⟨v, known, -⟩ := number.isDigitOf _ mem
    have none : ∀ entry ∈ Text.digitValues, entry.1 ≠ Cursor.stray := by decide
    exact none _ known rfl
  have marks : Cursor.stray ≠ '\\' ∧ Cursor.stray ≠ 'u' := by decide
  cases escaped with
  | letter known =>
    have letters : ∀ entry ∈ escapeLetters, Cursor.stray ∉ ['\\', entry.1] := by
      simp [escapeLetters, Cursor.stray]
    exact letters _ known
  | unit _ number => simp [marks, digits number]
  | pair _ _ first second => simp [marks, digits first, digits second]
  | plain _ _ allowed =>
    rw [List.mem_singleton]
    rintro rfl
    exact allowed (by decide)

/-! ## Strings -/

/-- A text says characters, one after another. -/
inductive SpellsChars : List Char → List Char → Prop
  | nil : SpellsChars [] []
  | cons {x xs cs rest} (escaped : Escaped x cs) (more : SpellsChars xs rest) :
    SpellsChars (x :: xs) (cs ++ rest)

/-- A text says a string, in quotes. -/
inductive SpellsString (s : String) : List Char → Prop
  | quoted {inside} (h : SpellsChars s.toList inside) : SpellsString s ('"' :: (inside ++ ['"']))

theorem flatMap_spells (xs : List Char) : SpellsChars xs (xs.flatMap escapeChar) := by
  induction xs with
  | nil => exact .nil
  | cons x xs ih => exact .cons (escaped_escapeChar x) ih

theorem stringChars_spells (s : String) : SpellsString s (stringChars s) :=
  .quoted (flatMap_spells s.toList)

theorem SpellsChars.length_le {xs cs : List Char} (h : SpellsChars xs cs) :
    xs.length ≤ cs.length := by
  induction h with
  | nil => simp
  | cons escaped _ ih =>
    have := escaped.length_pos
    rw [List.length_append, List.length_cons]
    omega

theorem SpellsChars.stray_not_mem {xs cs : List Char} (h : SpellsChars xs cs) :
    Cursor.stray ∉ cs := by
  induction h with
  | nil => simp
  | cons escaped _ ih => simp [escaped.stray_not_mem, ih]

theorem SpellsString.stray_not_mem {s : String} {cs : List Char} (h : SpellsString s cs) :
    Cursor.stray ∉ cs := by
  have quote : Cursor.stray ≠ '"' := by decide
  cases h with
  | quoted h => simp [quote, h.stray_not_mem]

theorem readChars_spelled {xs cs : List Char} (h : SpellsChars xs cs) (rest : List Char) :
    ∀ (fuel : Nat) (before : List Char) (c : Cursor),
      xs.length < fuel → c.rest = cs ++ '"' :: rest →
      ∃ after, after.rest = rest ∧ readChars fuel before c = .ok (before.reverse ++ xs, after) := by
  induction h with
  | nil =>
    intro fuel before c hfuel h
    obtain ⟨n, rfl⟩ := Nat.exists_eq_succ_of_ne_zero (by omega : fuel ≠ 0)
    have hx : c.rest = '"' :: rest := h
    refine ⟨c.skip, rest_skip hx, ?_⟩
    rw [readChars, hx]
    simp
  | @cons x xs cs _ escaped _ ih =>
    intro fuel before c hfuel h
    obtain ⟨n, rfl⟩ := Nat.exists_eq_succ_of_ne_zero (by omega : fuel ≠ 0)
    rw [List.append_assoc] at h
    obtain ⟨next, hnext, hread⟩ := readChars_escaped escaped h n before
    rw [hread]
    have hn : xs.length < n := by
      rw [List.length_cons] at hfuel
      omega
    obtain ⟨after, hafter, hrest⟩ := ih n (x :: before) next hn hnext
    refine ⟨after, hafter, ?_⟩
    rw [hrest]
    simp

/-- **A text that says a string is read as it.** -/
theorem readString_spelled {c : Cursor} {s : String} {cs rest : List Char}
    (spells : SpellsString s cs) (h : c.rest = cs ++ rest) :
    ∃ after, after.rest = rest ∧ readString c.skip = .ok (s, after) := by
  obtain ⟨inside⟩ := spells
  rename_i text
  have hx : c.rest = '"' :: (text ++ '"' :: rest) := by simpa using h
  have hskip := rest_skip hx
  have hfuel : s.toList.length < c.skip.rest.length + 1 := by
    have := inside.length_le
    rw [hskip, List.length_append]
    omega
  obtain ⟨after, hafter, hread⟩ := readChars_spelled inside rest _ [] c.skip hfuel hskip
  refine ⟨after, hafter, ?_⟩
  -- what has been read is the rest of the text of the string
  have raw : c.skip.rest.take (c.skip.rest.length - after.rest.length) = text ++ ['"'] := by
    have whole : c.skip.rest = (text ++ ['"']) ++ rest := by
      rw [hskip]
      simp
    rw [whole, hafter, List.length_append, Nat.add_sub_cancel, List.take_left']
    rfl
  have clean : (text ++ ['"']).contains Cursor.stray = false := by
    have quote : Cursor.stray ≠ '"' := by decide
    simpa [quote] using inside.stray_not_mem
  simp only [readString, hread, raw, clean, bind, Except.bind]
  simp

/-! ## Numbers -/

/-- What follows a number does not go on with it. -/
def NoNumberAhead (cs : List Char) : Prop :=
  ∀ x rest, cs = x :: rest → x.isDigit = false ∧ x ≠ '.' ∧ x ≠ 'e' ∧ x ≠ 'E'

theorem noNumberAhead_nil : NoNumberAhead [] := by
  rintro x rest ⟨⟩

/-- What follows does not go on with digits. -/
def NoDigitAhead (cs : List Char) : Prop := ∀ x rest, cs = x :: rest → x.isDigit = false

theorem NoNumberAhead.noDigitAhead {cs : List Char} (h : NoNumberAhead cs) : NoDigitAhead cs :=
  fun x rest heq => (h x rest heq).1

theorem takeWhile_digits {ds rest : List Char} (digits : ∀ d ∈ ds, d.isDigit = true)
    (ends : NoDigitAhead rest) : (ds ++ rest).takeWhile Char.isDigit = ds := by
  rw [List.takeWhile_append_of_pos digits]
  cases rest with
  | nil => simp
  | cons x rest => simp [ends x rest rfl]

theorem le_foldl_digits (ds : List Nat) : ∀ n, n ≤ ds.foldl (fun n d => n * 10 + d) n := by
  induction ds with
  | nil => exact fun n => Nat.le_refl n
  | cons d ds ih =>
    intro n
    have := ih (n * 10 + d)
    rw [List.foldl_cons]
    omega

theorem accumulate_of_le {limit : Nat} (ds : List Nat) :
    ∀ n, ds.foldl (fun n d => n * 10 + d) n ≤ limit →
      accumulate limit n ds = (ds.foldl (fun n d => n * 10 + d) n, []) := by
  induction ds with
  | nil => exact fun n _ => rfl
  | cons d ds ih =>
    intro n h
    rw [List.foldl_cons] at h ⊢
    have within := le_foldl_digits ds (n * 10 + d)
    rw [accumulate, if_neg (by omega)]
    exact ih _ h

theorem foldl_toDigits (n : Nat) :
    ((Nat.toDigits 10 n).map fun d => d.toNat - 48).foldl (fun n d => n * 10 + d) 0 = n := by
  have := Nat.ofDigitChars_ten_toDigits (n := n)
  rw [Nat.ofDigitChars_eq_foldl] at this
  rw [List.foldl_map]
  simpa [Nat.mul_comm] using this

theorem readDigits_append {c : Cursor} {ds rest : List Char} (h : c.rest = ds ++ rest)
    (hds : ∀ d ∈ ds, d.isDigit = true) (hrest : NoNumberAhead rest) :
    (readDigits c).1 = ds.map (fun d => d.toNat - 48) ∧ (readDigits c).2.rest = rest := by
  simp only [readDigits, h, takeWhile_digits hds hrest.noDigitAhead, rest_drop]
  simp

theorem head_toDigits_ne_zero (n : Nat) (hn : n ≠ 0) :
    ∃ d ds, Nat.toDigits 10 n = d :: ds ∧ d ≠ '0' := by
  induction n using Nat.strongRecOn with
  | ind n ih =>
    by_cases small : n < 10
    · refine ⟨_, [], Nat.toDigits_of_lt_base small, ?_⟩
      rw [ne_eq, Nat.digitChar_eq_zero]
      exact hn
    · obtain ⟨d, ds, hds, hd⟩ := ih (n / 10) (by omega) (by omega)
      refine ⟨d, ds ++ [(n % 10).digitChar], ?_, hd⟩
      rw [Nat.toDigits_of_base_le (by omega) (by omega), hds]
      rfl

theorem readTail_whole {c : Cursor} {rest : List Char} (h : c.rest = rest)
    (hrest : NoNumberAhead rest) (positive : Bool) (n : Nat) :
    readTail positive n [] c = .ok (whole positive n, c) := by
  subst h
  unfold readTail
  split
  · rename_i heq
    exact absurd rfl (hrest _ _ heq).2.1
  · rename_i heq
    exact absurd rfl (hrest _ _ heq).2.2.1
  · rename_i heq
    exact absurd rfl (hrest _ _ heq).2.2.2
  · rfl
  · contradiction

section

variable {c : Cursor} {n : Nat} {rest : List Char}

theorem readNumber_digits (positive : Bool) (hn : n ≤ maxNat64)
    (h : c.rest = Nat.toDigits 10 n ++ rest) (hrest : NoNumberAhead rest) :
    ∃ after, after.rest = rest ∧ readNumber positive c = .ok (whole positive n, after) := by
  by_cases zero : n = 0
  · subst zero
    have hx : c.rest = '0' :: rest := h
    have hskip := rest_skip hx
    refine ⟨c.skip, hskip, ?_⟩
    unfold readNumber
    rw [hx]
    cases rest with
    | nil => exact readTail_whole hskip hrest positive 0
    | cons x rest =>
      have hdigit := (hrest x rest rfl).1
      simp only [hdigit]
      exact readTail_whole hskip hrest positive 0
  · obtain ⟨d, ds, hds, hd⟩ := head_toDigits_ne_zero n zero
    have digits : ∀ x ∈ Nat.toDigits 10 n, x.isDigit = true := fun x hx =>
      Nat.isDigit_of_mem_toDigits (by omega) (by omega) hx
    obtain ⟨values, left⟩ := readDigits_append h digits hrest
    have hx : c.rest = d :: (ds ++ rest) := by rw [h, hds, List.cons_append]
    have hdigit : d.isDigit = true := digits d (by simp [hds])
    refine ⟨(readDigits c).2, left, ?_⟩
    have total : ((readDigits c).1).foldl (fun n d => n * 10 + d) 0 = n := by
      rw [values]
      exact foldl_toDigits n
    unfold readNumber
    rw [hx]
    simp only [hdigit, if_true]
    rw [accumulate_of_le _ 0 (by rw [total]; exact hn), total]
    exact readTail_whole left hrest positive n

/-- **A written natural number of 64 bits is read back.** -/
theorem readNumber_toDigits (hn : n ≤ maxNat64) (h : c.rest = Nat.toDigits 10 n ++ rest)
    (hrest : NoNumberAhead rest) :
    ∃ after, after.rest = rest ∧ readNumber true c = .ok (.integer n, after) :=
  readNumber_digits true hn h hrest

end

theorem whole_negSucc {n : Nat} (h : -Number.signedBound ≤ .negSucc n) :
    whole false (n + 1) = .integer (.negSucc n) := by
  have fits : 1 ≤ n + 1 ∧ n + 1 ≤ UInt64.size / 2 := by
    simp only [Number.signedBound, UInt64.size] at h ⊢
    omega
  simp only [whole, fits]
  rfl

end ConversationMemory.Json
