import ConversationMemory.Json.Skip
import ConversationMemory.Proofs.Json.Spelling

/-!
# Values that are skipped

* `Json.Numeral`: the text of a number without its sign; every number is written so.
* `skipNumber_numeral`, `skipString_spelled`: numbers and strings are skipped.
* **`skipped`**: every value is skipped, however it is written and however deep it is.
-/

namespace ConversationMemory.Json

/-! ## The text of a number -/

/-- One digit or more. -/
def AllDigits (ds : List Char) : Prop := ds ≠ [] ∧ ∀ d ∈ ds, d.isDigit = true

/-- Digits that begin with a zero only when it is all there is. -/
inductive WholePart : List Char → Prop
  | zero : WholePart ['0']
  | digits {d ds} (nonzero : d ≠ '0') (digits : AllDigits (d :: ds)) : WholePart (d :: ds)

/-- A point and digits, or nothing. -/
inductive Fraction : List Char → Prop
  | none : Fraction []
  | some {ds} (digits : AllDigits ds) : Fraction ('.' :: ds)

/-- The power of ten with its sign, or nothing. -/
inductive Power : List Char → Prop
  | none : Power []
  | some {sign ds} (signed : sign = '+' ∨ sign = '-') (digits : AllDigits ds) :
    Power ('e' :: sign :: ds)

/-- The text of a number without its sign. -/
inductive Numeral : List Char → Prop
  | mk {whole fraction power} (isWhole : WholePart whole) (isFraction : Fraction fraction)
    (isPower : Power power) : Numeral (whole ++ (fraction ++ power))

theorem allDigits_toDigits (n : Nat) : AllDigits (Nat.toDigits 10 n) :=
  ⟨Nat.toDigits_ne_nil, fun _ hd => Nat.isDigit_of_mem_toDigits (by decide) (by decide) hd⟩

theorem wholePart_toDigits (n : Nat) : WholePart (Nat.toDigits 10 n) := by
  by_cases zero : n = 0
  · subst zero
    exact .zero
  · obtain ⟨d, ds, hds, hd⟩ := head_toDigits_ne_zero n zero
    have digits := allDigits_toDigits n
    rw [hds] at digits ⊢
    exact .digits hd digits

theorem WholePart.numeral {whole : List Char} (h : WholePart whole) : Numeral whole := by
  simpa using Numeral.mk h .none .none

theorem WholePart.head {whole : List Char} (h : WholePart whole) :
    ∃ d ds, whole = d :: ds ∧ d.isDigit = true := by
  cases h with
  | zero => exact ⟨'0', [], rfl, by decide⟩
  | digits nonzero digits => exact ⟨_, _, rfl, digits.2 _ (by simp)⟩

theorem Numeral.head {cs : List Char} (h : Numeral cs) :
    ∃ d ds, cs = d :: ds ∧ d.isDigit = true := by
  cases h with
  | mk isWhole =>
    obtain ⟨d, ds, rfl, digit⟩ := isWhole.head
    exact ⟨d, _, rfl, digit⟩

theorem AllDigits.append {ds more : List Char} (h : AllDigits ds)
    (digits : ∀ d ∈ more, d.isDigit = true) : AllDigits (ds ++ more) := by
  refine ⟨by simp [h.1], fun d hd => ?_⟩
  exact (List.mem_append.1 hd).elim (h.2 d) (digits d)

theorem isDigit_of_mem_replicate {n : Nat} : ∀ d ∈ List.replicate n '0', d.isDigit = true := by
  intro d hd
  obtain rfl := List.eq_of_mem_replicate hd
  decide

theorem numeral_positional (d : Decimal) :
    0 ≤ d.exponent ∧ WholePart d.positional ∨ d.exponent < 0 ∧ Numeral d.positional := by
  have digits : AllDigits d.chars := allDigits_toDigits _
  unfold Decimal.positional
  cases d.exponent with
  | ofNat k =>
    refine .inl ⟨Int.natCast_nonneg k, ?_⟩
    by_cases zero : d.digits = 0
    · simpa [Decimal.chars, zero] using WholePart.zero
    · obtain ⟨x, ds, hds, hx⟩ := head_toDigits_ne_zero d.digits zero
      have longer : AllDigits (d.chars ++ List.replicate k '0') :=
        digits.append isDigit_of_mem_replicate
      rw [Decimal.chars, hds] at longer
      simpa [Decimal.chars, zero, hds] using WholePart.digits hx longer
  | negSucc k =>
    refine .inr ⟨Int.negSucc_lt_zero k, ?_⟩
    dsimp only
    split
    · rename_i inside
      -- both sides of the point have digits, and the first one is that of the number
      have nonzero : d.digits ≠ 0 := by
        intro zero
        simp [Decimal.chars, zero] at inside
      obtain ⟨x, ds, hds, hx⟩ := head_toDigits_ne_zero d.digits nonzero
      have hchars : d.chars = x :: ds := hds
      rw [hchars] at digits inside ⊢
      obtain ⟨m, hm⟩ := Nat.exists_eq_succ_of_ne_zero (by omega : (x :: ds).length - (k + 1) ≠ 0)
      have before : WholePart ((x :: ds).take ((x :: ds).length - (k + 1))) := by
        rw [hm, List.take_succ_cons]
        refine .digits hx ⟨List.cons_ne_nil _ _, fun y hy => digits.2 y ?_⟩
        exact (List.mem_cons.1 hy).elim (by rintro rfl; simp) fun hy => by
          simp [List.mem_of_mem_take hy]
      have behind : AllDigits ((x :: ds).drop ((x :: ds).length - (k + 1))) := by
        refine ⟨?_, fun y hy => digits.2 y (List.mem_of_mem_drop hy)⟩
        rw [ne_eq, List.drop_eq_nil_iff]
        omega
      simpa using Numeral.mk before (.some behind) .none
    · have behind : AllDigits (List.replicate (k + 1 - d.chars.length) '0' ++ d.chars) := by
        refine ⟨by simp [digits.1], fun y hy => ?_⟩
        exact (List.mem_append.1 hy).elim (isDigit_of_mem_replicate y) (digits.2 y)
      simpa using Numeral.mk .zero (.some behind) .none

theorem numeral_scientific (d : Decimal) : Numeral d.scientific := by
  have digits : AllDigits d.chars := allDigits_toDigits _
  obtain ⟨sign, k, signed, written⟩ := scientific_cases d
  have isPower : Power ('e' :: sign :: Nat.toDigits 10 k) := .some signed (allDigits_toDigits k)
  rcases written with ⟨first, second, rest, hchars, written⟩ | written
  · rw [hchars] at digits
    have front : WholePart [first] := by
      by_cases zero : first = '0'
      · subst zero
        exact .zero
      · exact .digits zero ⟨by simp, by simpa using digits.2 first (by simp)⟩
    have behind : AllDigits (second :: rest) := ⟨by simp, fun y hy => digits.2 y (by simp [hy])⟩
    rw [written]
    exact Numeral.mk front (.some behind) isPower
  · rw [written]
    exact Numeral.mk (wholePart_toDigits _) .none isPower

/-- **Every number is written as a numeral**, with a sign or without. -/
theorem numeral_number (n : Number) :
    ∃ text, Numeral text ∧ (n.chars = text ∨ n.chars = '-' :: text) := by
  cases n with
  | integer i =>
    cases i with
    | ofNat n => exact ⟨_, (wholePart_toDigits n).numeral, .inl rfl⟩
    | negSucc n => exact ⟨_, (wholePart_toDigits (n + 1)).numeral, .inr rfl⟩
  | float x =>
    have magnitude : Numeral
        (if -5 ≤ x.shortest.trimmed.leading ∧ x.shortest.trimmed.leading ≤ 15 then
          if 0 ≤ x.shortest.trimmed.exponent then x.shortest.trimmed.positional ++ ['.', '0']
          else x.shortest.trimmed.positional
        else x.shortest.trimmed.scientific) := by
      split
      · rcases numeral_positional x.shortest.trimmed with ⟨sign, whole⟩ | ⟨sign, numeral⟩
        · have zero : AllDigits ['0'] := ⟨by simp, by simp⟩
          simpa [sign] using Numeral.mk whole (.some zero) .none
        · simpa [Int.not_le.2 sign] using numeral
      · exact numeral_scientific _
    refine ⟨_, magnitude, ?_⟩
    simp only [Number.chars, Binary64.jsonChars]
    cases x.negative <;> simp

/-! ## Skipping a number -/

section

variable {c : Cursor} {cs ds rest : List Char}

theorem Power.noDigitAhead (h : Power cs) (ends : NoNumberAhead rest) :
    NoDigitAhead (cs ++ rest) := by
  cases h with
  | none => exact ends.noDigitAhead
  | some =>
    rintro x more ⟨⟩
    decide

theorem Fraction.noDigitAhead {power : List Char} (h : Fraction cs) (isPower : Power power)
    (ends : NoNumberAhead rest) : NoDigitAhead (cs ++ (power ++ rest)) := by
  cases h with
  | none => exact isPower.noDigitAhead ends
  | some =>
    rintro x more ⟨⟩
    decide

theorem rest_skipDigits (h : c.rest = ds ++ rest) (digits : ∀ d ∈ ds, d.isDigit = true)
    (ends : NoDigitAhead rest) : (skipDigits c).rest = rest := by
  rw [skipDigits, rest_drop, h, takeWhile_digits digits ends, List.drop_left]

theorem skipExponent_spelled {sign : Char} (h : c.rest = sign :: (ds ++ rest))
    (signed : sign = '+' ∨ sign = '-') (digits : AllDigits ds) (ends : NoDigitAhead rest) :
    ∃ after, after.rest = rest ∧ skipExponent c = .ok after := by
  have hskip := rest_skip h
  refine ⟨skipDigits c.skip, rest_skipDigits hskip digits.2 ends, ?_⟩
  obtain ⟨d, more, rfl⟩ := List.exists_cons_of_ne_nil digits.1
  have hd : d.isDigit = true := digits.2 d (by simp)
  rcases signed with rfl | rfl <;> simp [skipExponent, h, hskip, hd]

theorem skipFraction_spelled {power : List Char} (h : c.rest = ds ++ (power ++ rest))
    (digits : AllDigits ds) (isPower : Power power) (ends : NoNumberAhead rest) :
    ∃ after, after.rest = rest ∧ skipFraction c = .ok after := by
  have hdigits := rest_skipDigits h digits.2 (isPower.noDigitAhead ends)
  obtain ⟨d, more, rfl⟩ := List.exists_cons_of_ne_nil digits.1
  have hd : d.isDigit = true := digits.2 d (by simp)
  rw [List.cons_append] at h
  cases isPower with
  | none =>
    rw [List.nil_append] at hdigits
    refine ⟨skipDigits c, hdigits, ?_⟩
    simp only [skipFraction, h, hd, if_true, hdigits]
    split
    · exact absurd rfl (ends _ _ rfl).2.2.1
    · exact absurd rfl (ends _ _ rfl).2.2.2
    · rfl
  | some signed powers =>
    rw [List.cons_append, List.cons_append] at hdigits
    obtain ⟨after, hafter, hskip⟩ := skipExponent_spelled (rest_skip hdigits) signed powers
      ends.noDigitAhead
    exact ⟨after, hafter, by simp [skipFraction, h, hd, hdigits, hskip]⟩

/-- How a number goes on behind its whole part. -/
def skipPart (c : Cursor) : Except Fault Cursor :=
  match c.rest with
  | '.' :: _ => skipFraction c.skip
  | 'e' :: _ | 'E' :: _ => skipExponent c.skip
  | _ => .ok c

theorem skipNumber_whole {whole : List Char} (isWhole : WholePart whole)
    (h : c.rest = whole ++ rest) (stops : NoDigitAhead rest) :
    ∃ next : Cursor, next.rest = rest ∧ skipNumber c = skipPart next := by
  cases isWhole with
  | zero =>
    rw [List.singleton_append] at h
    refine ⟨c.skip, rest_skip h, ?_⟩
    unfold skipNumber
    rw [h]
    cases hmore : rest with
    | nil => rfl
    | cons x more =>
      simp only [stops x more hmore]
      rfl
  | @digits d ds nonzero digits =>
    have hd : d.isDigit = true := digits.2 d (by simp)
    refine ⟨skipDigits c, rest_skipDigits h digits.2 stops, ?_⟩
    rw [List.cons_append] at h
    unfold skipNumber
    rw [h]
    simp only [hd, if_true]
    rfl

theorem skipPart_spelled {fraction power : List Char} (isFraction : Fraction fraction)
    (isPower : Power power) (h : c.rest = fraction ++ (power ++ rest)) (ends : NoNumberAhead rest) :
    ∃ after, after.rest = rest ∧ skipPart c = .ok after := by
  unfold skipPart
  cases isFraction with
  | some digits =>
    rw [List.cons_append] at h
    rw [h]
    exact skipFraction_spelled (rest_skip h) digits isPower ends
  | none =>
    rw [List.nil_append] at h
    cases isPower with
    | some signed digits =>
      rw [List.cons_append, List.cons_append] at h
      rw [h]
      exact skipExponent_spelled (rest_skip h) signed digits ends.noDigitAhead
    | none =>
      refine ⟨c, h, ?_⟩
      rw [h, List.nil_append]
      split
      · exact absurd rfl (ends _ _ rfl).2.1
      · exact absurd rfl (ends _ _ rfl).2.2.1
      · exact absurd rfl (ends _ _ rfl).2.2.2
      · rfl

theorem skipNumber_numeral (numeral : Numeral cs) (h : c.rest = cs ++ rest)
    (ends : NoNumberAhead rest) : ∃ after, after.rest = rest ∧ skipNumber c = .ok after := by
  cases numeral with
  | mk isWhole isFraction isPower =>
    rw [List.append_assoc, List.append_assoc] at h
    obtain ⟨next, hnext, skips⟩ := skipNumber_whole isWhole h (isFraction.noDigitAhead isPower ends)
    rw [skips]
    exact skipPart_spelled isFraction isPower hnext ends

end

/-! ## Skipping a string -/

theorem skipChars_unit {c : Cursor} {n : Nat} {ds rest : List Char} (four : ds.length = 4)
    (number : Text.MakesUp 16 ds n) (h : c.rest = '\\' :: 'u' :: (ds ++ rest)) :
    ∃ after, after.rest = rest ∧ ∀ fuel, skipChars (1 + fuel) c = skipChars fuel after := by
  have hu := rest_skip h
  obtain ⟨after, hafter, hunit⟩ := readUnit_append four number (rest_skip hu)
  refine ⟨after, hafter, fun fuel => ?_⟩
  rw [Nat.add_comm, skipChars, h]
  simp [skipEscape, hu, hunit, bind, Except.bind, pure, Except.pure]

theorem skipChars_escaped {c : Cursor} {x : Char} {cs rest : List Char} (escaped : Escaped x cs)
    (h : c.rest = cs ++ rest) :
    ∃ steps after, steps ≤ cs.length ∧ after.rest = rest ∧
      ∀ fuel, skipChars (steps + fuel) c = skipChars fuel after := by
  cases escaped with
  | @letter letter known =>
    have hx : c.rest = '\\' :: letter :: rest := h
    have hskip := rest_skip hx
    have letters : ∀ entry ∈ escapeLetters,
        entry.1 ∈ ['"', '\\', '/', 'b', 'f', 'n', 'r', 't'] := by simp [escapeLetters]
    have escape : skipEscape c.skip = .ok c.skip.skip := by
      simp only [skipEscape, hskip, letters _ known, if_true]
    refine ⟨1, c.skip.skip, by simp, rest_skip hskip, fun fuel => ?_⟩
    rw [Nat.add_comm, skipChars, hx]
    simp [escape, bind, Except.bind]
  | unit four number =>
    obtain ⟨after, hafter, hskip⟩ := skipChars_unit four number h
    exact ⟨1, after, by simp, hafter, hskip⟩
  | @pair ds es _ _ four four' first second =>
    have hx : c.rest = '\\' :: 'u' :: (ds ++ '\\' :: 'u' :: (es ++ rest)) := by simpa using h
    obtain ⟨next, hnext, hfirst⟩ := skipChars_unit four first hx
    obtain ⟨after, hafter, hsecond⟩ := skipChars_unit four' second hnext
    refine ⟨2, after, by simp, hafter, fun fuel => ?_⟩
    rw [show 2 + fuel = 1 + (1 + fuel) by omega, hfirst, hsecond]
  | plain noQuote noBackslash allowed =>
    have hx : c.rest = x :: rest := h
    refine ⟨1, c.skip, by simp, rest_skip hx, fun fuel => ?_⟩
    rw [Nat.add_comm, skipChars, hx]
    simp [noQuote, noBackslash, isControl, allowed]

theorem skipChars_spelled {xs cs : List Char} (h : SpellsChars xs cs) (rest : List Char) :
    ∀ c : Cursor, c.rest = cs ++ '"' :: rest →
      ∃ steps after, steps ≤ cs.length + 1 ∧ after.rest = rest ∧
        ∀ fuel, skipChars (steps + fuel) c = .ok after := by
  induction h with
  | nil =>
    intro c h
    have hx : c.rest = '"' :: rest := h
    refine ⟨1, c.skip, by simp, rest_skip hx, fun fuel => ?_⟩
    rw [Nat.add_comm, skipChars, hx]
    simp
  | cons escaped _ ih =>
    intro c h
    rw [List.append_assoc] at h
    obtain ⟨few, next, fewer, hnext, hfirst⟩ := skipChars_escaped escaped h
    obtain ⟨steps, after, enough, hafter, hlater⟩ := ih next hnext
    refine ⟨few + steps, after, ?_, hafter, fun fuel => ?_⟩
    · rw [List.length_append]
      omega
    · rw [Nat.add_assoc, hfirst, hlater]

theorem skipString_spelled {c : Cursor} {s : String} {cs rest : List Char}
    (spells : SpellsString s cs) (h : c.rest = cs ++ rest) :
    ∃ after, after.rest = rest ∧ skipString c.skip = .ok after := by
  obtain ⟨inside⟩ := spells
  rename_i text
  have hx : c.rest = '"' :: (text ++ '"' :: rest) := by simpa using h
  have hskip := rest_skip hx
  obtain ⟨steps, after, enough, hafter, hsteps⟩ := skipChars_spelled inside rest c.skip hskip
  obtain ⟨more, hmore⟩ : ∃ more, c.skip.rest.length + 1 = steps + more := by
    refine Nat.exists_eq_add_of_le ?_
    rw [hskip, List.length_append, List.length_cons]
    omega
  exact ⟨after, hafter, by rw [skipString, hmore, hsteps]⟩

/-! ## Skipping a value -/

/-- Every text that says the value is skipped. -/
def Skipped (v : Json) : Prop :=
  ∀ (cs blanks rest : List Char) (c : Cursor) (fuel : Nat), Spells v cs → AllBlank blanks →
    NoNumberAhead rest → c.rest = blanks ++ (cs ++ rest) → 2 * cs.length ≤ fuel →
    ∃ after, after.rest = rest ∧ skipSteps fuel c = .ok after

variable {v : Json}

theorem skipped_of_front
    (h : ∀ (cs rest : List Char) (c : Cursor) (fuel : Nat), Spells v cs → NoNumberAhead rest →
      c.skipBlanks.rest = cs ++ rest → 2 * cs.length ≤ fuel + 1 →
      ∃ after, after.rest = rest ∧ skipSteps (fuel + 1) c = .ok after) : Skipped v := by
  intro cs blanks rest c fuel spells blank number hc hfuel
  obtain ⟨x, more, rfl, -⟩ := spells.head
  rw [List.length_cons] at hfuel
  obtain ⟨n, rfl⟩ := Nat.exists_eq_succ_of_ne_zero (by omega : fuel ≠ 0)
  exact h _ rest c n spells number (rest_skipBlanks hc blank (spells.noBlankAhead rest)) hfuel

theorem skipItems_spelled {item : Json} {items : List Json}
    (h : ∀ other ∈ item :: items, Skipped other) :
    ∀ (c : Cursor) (cs more blanks rest : List Char) (fuel : Nat), Spells item cs →
      SpellsItems false items more → AllBlank blanks → c.rest = blanks ++ (cs ++ (more ++ rest)) →
      2 * (cs.length + more.length) ≤ fuel →
      ∃ after, after.rest = rest ∧ skipItems fuel c = .ok after := by
  induction items generalizing item with
  | nil =>
    intro c cs more blanks rest fuel spells others blank hc hfuel
    have := others.length_lt
    obtain ⟨n, rfl⟩ := Nat.exists_eq_succ_of_ne_zero (by omega : fuel ≠ 0)
    obtain ⟨next, hnext, hskip⟩ := h item (by simp) cs blanks (more ++ rest) c n spells blank
      (others.noNumberAhead rest) hc (by omega)
    cases others with
    | @nil _ blanks blank =>
      rw [List.append_assoc] at hnext
      have hend := rest_skipBlanks hnext blank (noBlankAhead_cons (by decide))
      refine ⟨next.skipBlanks.skip, rest_skip hend, ?_⟩
      simp [skipItems, hskip, hend, bind, Except.bind, pure, Except.pure]
  | cons second items ih =>
    intro c cs more blanks rest fuel spells others blank hc hfuel
    have := others.length_lt
    obtain ⟨n, rfl⟩ := Nat.exists_eq_succ_of_ne_zero (by omega : fuel ≠ 0)
    obtain ⟨next, hnext, hskip⟩ := h item (by simp) cs blanks (more ++ rest) c n spells blank
      (others.noNumberAhead rest) hc (by omega)
    cases others with
    | @cons _ _ _ blanks text more blank spelled others =>
      have hcomma : next.skipBlanks.rest = ',' :: (blanks ++ (text ++ (more ++ rest))) := by
        rw [rest_skipBlanks_self hnext (noBlankAhead_cons (by decide))]
        simp [separator]
      obtain ⟨after, hafter, hitems⟩ := ih (fun other hmem => h other (by simp [hmem]))
        next.skipBlanks.skip text more blanks rest n spelled others blank (rest_skip hcomma)
        (by
          simp only [List.length_append] at hfuel
          have : (separator false).length = 1 := rfl
          omega)
      refine ⟨after, hafter, ?_⟩
      simp [skipItems, hskip, hcomma, hitems, bind, Except.bind]

theorem skipField_spelled {key : String} {value : Json} (skipped : Skipped value) {c : Cursor}
    {before quoted behind cs left : List Char} {n : Nat} (blank : AllBlank before)
    (name : SpellsString key quoted) (blank' : AllBlank behind) (spells : Spells value cs)
    (number : NoNumberAhead left)
    (hc : c.rest = before ++ (quoted ++ ':' :: (behind ++ (cs ++ left))))
    (hfuel : 2 * cs.length ≤ n) :
    ∃ named valued next : Cursor, (∃ more, c.skipBlanks.rest = '"' :: more) ∧
      skipString c.skipBlanks.skip = .ok named ∧ readColon named = .ok valued ∧
      skipSteps n valued = .ok next ∧ next.rest = left := by
  obtain ⟨_, letters, rfl, rfl⟩ := name.head
  have hquote := rest_skipBlanks hc blank (noBlankAhead_cons (by decide))
  obtain ⟨named, hnamed, hskip⟩ := skipString_spelled name hquote
  have hcolon := rest_skipBlanks_self hnamed (noBlankAhead_cons (by decide))
  obtain ⟨next, hnext, hvalue⟩ := skipped cs behind left named.skipBlanks.skip n spells blank'
    number (rest_skip hcolon) hfuel
  exact ⟨named, _, next, ⟨_, hquote⟩, hskip, by simp [readColon, hcolon], hvalue, hnext⟩

theorem skipFields_spelled {key : String} {value : Json} {fields : List (String × Json)}
    (h : ∀ field ∈ (key, value) :: fields, Skipped field.2) :
    ∀ (c : Cursor) (before quoted behind cs more rest : List Char) (fuel : Nat),
      AllBlank before → SpellsString key quoted → AllBlank behind → Spells value cs →
      SpellsFields false fields more →
      c.rest = before ++ (quoted ++ ':' :: (behind ++ (cs ++ (more ++ rest)))) →
      2 * (cs.length + more.length) ≤ fuel →
      ∃ after, after.rest = rest ∧ skipFields fuel c = .ok after := by
  induction fields generalizing key value with
  | nil =>
    intro c before quoted behind cs more rest fuel blank name blank' spells others hc hfuel
    cases others with
    | @nil _ blanks blanks' =>
      rw [List.length_append, List.length_singleton] at hfuel
      obtain ⟨n, rfl⟩ := Nat.exists_eq_succ_of_ne_zero (by omega : fuel ≠ 0)
      obtain ⟨named, valued, next, ⟨more, hquote⟩, hname, hcolon, hvalue, hnext⟩ :=
        skipField_spelled (h (key, value) (by simp)) blank name blank' spells
          ((SpellsFields.nil blanks').noNumberAhead rest) hc (by omega : 2 * cs.length ≤ n)
      rw [List.append_assoc] at hnext
      have hend := rest_skipBlanks hnext blanks' (noBlankAhead_cons (by decide))
      refine ⟨next.skipBlanks.skip, rest_skip hend, ?_⟩
      simp [skipFields, hquote, hname, hcolon, hvalue, hend, bind, Except.bind, pure, Except.pure]
  | cons field fields ih =>
    intro c before quoted behind cs more rest fuel blank name blank' spells others hc hfuel
    cases others with
    | @cons _ second other _ blanks quoted' behind' text more blanks' name' blank'' spelled others =>
      simp only [List.length_append, List.length_cons, separator] at hfuel
      obtain ⟨n, rfl⟩ := Nat.exists_eq_succ_of_ne_zero (by omega : fuel ≠ 0)
      obtain ⟨named, valued, next, ⟨_, hquote⟩, hname, hcolon, hvalue, hnext⟩ :=
        skipField_spelled (h (key, value) (by simp)) blank name blank' spells
          ((SpellsFields.cons blanks' name' blank'' spelled others).noNumberAhead rest) hc
          (by omega : 2 * cs.length ≤ n)
      have hcomma : next.skipBlanks.rest =
          ',' :: (blanks ++ (quoted' ++ ':' :: (behind' ++ (text ++ (more ++ rest))))) := by
        rw [rest_skipBlanks_self hnext (noBlankAhead_cons (by decide))]
        simp [separator]
      obtain ⟨after, hafter, hfields⟩ := ih (fun field hmem => h field (by simp [hmem]))
        next.skipBlanks.skip blanks quoted' behind' text more rest n blanks' name' blank'' spelled others
        (rest_skip hcomma) (by omega)
      refine ⟨after, hafter, ?_⟩
      simp [skipFields, hquote, hname, hcolon, hvalue, hcomma, hfields, bind, Except.bind]

theorem skipped_number (n : Number) : Skipped (.number n) := by
  refine skipped_of_front fun cs rest c fuel spells number hskip _ => ?_
  cases spells
  obtain ⟨text, numeral, written | written⟩ := numeral_number n
  · rw [written] at hskip
    obtain ⟨after, hafter, hnumber⟩ := skipNumber_numeral numeral hskip number
    obtain ⟨x, more, rfl, digit⟩ := numeral.head
    have differs (y : Char) (hy : y.isDigit = false) : x ≠ y := by
      rintro rfl
      simp [digit] at hy
    refine ⟨after, hafter, ?_⟩
    simp [skipSteps, hskip, digit, hnumber, differs 'n' rfl, differs 't' rfl, differs 'f' rfl,
      differs '-' rfl, differs '"' rfl, differs '[' rfl, differs '\x7b' rfl]
  · rw [written, List.cons_append] at hskip
    obtain ⟨after, hafter, hnumber⟩ := skipNumber_numeral numeral (rest_skip hskip) number
    exact ⟨after, hafter, by simp [skipSteps, hskip, hnumber]⟩

theorem skipped_array {items : List Json} (h : ∀ item ∈ items, Skipped item) :
    Skipped (.array items) := by
  refine skipped_of_front fun cs rest c fuel spells _ hskip hfuel => ?_
  cases spells with
  | @array _ cs inside =>
    rw [List.length_cons] at hfuel
    have hbracket : c.skipBlanks.rest = '[' :: (cs ++ rest) := hskip
    cases inside with
    | @nil _ blanks blank =>
      have hend : c.skipBlanks.skip.skipBlanks.rest = ']' :: rest :=
        rest_skipBlanks (by simpa using rest_skip hbracket) blank (noBlankAhead_cons (by decide))
      refine ⟨_, rest_skip hend, ?_⟩
      simp [skipSteps, hbracket, hend]
    | @cons _ item items blanks text more blank spelled others =>
      have hstart : c.skipBlanks.skip.skipBlanks.rest = text ++ (more ++ rest) :=
        rest_skipBlanks (by simpa [separator] using rest_skip hbracket) blank (spelled.noBlankAhead _)
      obtain ⟨after, hafter, hitems⟩ := skipItems_spelled h c.skipBlanks.skip.skipBlanks text more []
        rest fuel spelled others allBlank_nil hstart
        (by simp only [List.length_append, separator] at hfuel; omega)
      obtain ⟨x, letters, hx, headed⟩ := spelled.head
      have bracket : x ≠ ']' := headOf_ne_bracket headed
      refine ⟨after, hafter, ?_⟩
      simp [skipSteps, hbracket, hstart, hx, bracket, hitems]

theorem skipped_object {fields : List (String × Json)} (h : ∀ field ∈ fields, Skipped field.2) :
    Skipped (.object fields) := by
  refine skipped_of_front fun cs rest c fuel spells _ hskip hfuel => ?_
  cases spells with
  | @object _ cs inside =>
    rw [List.length_cons] at hfuel
    have hbrace : c.skipBlanks.rest = '\x7b' :: (cs ++ rest) := hskip
    cases inside with
    | @nil _ blanks blank =>
      have hend : c.skipBlanks.skip.skipBlanks.rest = '\x7d' :: rest :=
        rest_skipBlanks (by simpa using rest_skip hbrace) blank (noBlankAhead_cons (by decide))
      refine ⟨_, rest_skip hend, ?_⟩
      simp [skipSteps, hbrace, hend]
    | @cons _ key value fields blanks quoted behind text more blank name blank' spelled others =>
      obtain ⟨_, letters, rfl, rfl⟩ := name.head
      have hstart : c.skipBlanks.skip.skipBlanks.rest =
          '"' :: letters ++ ':' :: (behind ++ (text ++ (more ++ rest))) :=
        rest_skipBlanks (by simpa [separator] using rest_skip hbrace) blank
          (noBlankAhead_cons (by decide))
      obtain ⟨after, hafter, hfields⟩ := skipFields_spelled h c.skipBlanks.skip.skipBlanks [] _
        behind text more rest fuel allBlank_nil name blank' spelled others hstart
        (by simp only [List.length_append, List.length_cons, separator] at hfuel; omega)
      refine ⟨after, hafter, ?_⟩
      simp [skipSteps, hbrace, hstart, hfields]

/-- **Every value is skipped**, however it is written and however deep it is. -/
theorem skipped : ∀ v : Json, Skipped v
  | .null => skipped_of_front fun cs rest c fuel spells _ hskip _ => by
    cases spells
    have hu := rest_skip hskip
    have hl := rest_skip hu
    have hl' := rest_skip hl
    exact ⟨_, rest_skip hl', by simp [skipSteps, hskip, readWord, hu, hl, hl']⟩
  | .bool _ => skipped_of_front fun cs rest c fuel spells _ hskip _ => by
    cases spells with
    | boolTrue =>
      have hr := rest_skip hskip
      have hu := rest_skip hr
      have he := rest_skip hu
      exact ⟨_, rest_skip he, by simp [skipSteps, hskip, readWord, hr, hu, he]⟩
    | boolFalse =>
      have ha := rest_skip hskip
      have hl := rest_skip ha
      have hs := rest_skip hl
      have he := rest_skip hs
      exact ⟨_, rest_skip he, by simp [skipSteps, hskip, readWord, ha, hl, hs, he]⟩
  | .number n => skipped_number n
  | .string _ => skipped_of_front fun cs rest c fuel spells _ hskip _ => by
    cases spells with
    | string quoted =>
      obtain ⟨_, letters, rfl, rfl⟩ := quoted.head
      obtain ⟨after, hafter, hstring⟩ := skipString_spelled quoted hskip
      exact ⟨after, hafter, by simp [skipSteps, hskip, hstring]⟩
  | .array items => skipped_array fun item _ => skipped item
  | .object fields => skipped_object fun (_, value) _ => skipped value
decreasing_by
  all_goals have := List.sizeOf_lt_of_mem ‹_ ∈ _›
  · simp
    omega
  · simp at this ⊢
    omega

end ConversationMemory.Json
