import ConversationMemory.Proofs.Settings.Toml.Grammar
import ConversationMemory.Proofs.Settings.Toml.Reading
import ConversationMemory.Settings.Toml.Value

/-!
# Whole numbers are read

* `EndsValue`: what may stand behind a value.
* `decimal_append`, **`integer_append`**: a whole number of 64 bits is read as such.
* `declines_moment`, `declines_float`: it is no date and no double, though both are tried first;
  **`number_append`**.
-/

namespace ConversationMemory.Toml

open Reader

variable {base : Nat} {cs ds rest text : List Char} {d : Char}

/-- What may stand behind a value. -/
def behindValue : List Char := [' ', '\t', '\n', '\r', '#', ',', '\x7d']

/-- A value ends here. -/
def EndsValue (rest : List Char) : Prop := ∀ c, rest.head? = some c → c ∈ behindValue

theorem EndsValue.stopsAt {p : Char → Bool} (h : EndsValue rest)
    (none : behindValue.any p = false) : StopsAt p rest :=
  fun c hc => by simpa using List.any_eq_false.1 none c (h c hc)

theorem EndsValue.head_ne {c : Char} (h : EndsValue rest)
    (none : c ∉ behindValue) : rest.head? ≠ some c :=
  fun hc => none (h c hc)

/-! ## Digits -/

theorem digit_cons (h : Text.IsDigitOf base d) : digit base (d :: cs) = .ok (d, cs) :=
  char_cons h.isDigitIn

theorem EndsValue.noDigit (h : EndsValue rest) : StopsAt (Text.isDigitIn base) rest := by
  have noDigit : behindValue.any (fun c => (Text.hexDigit? c).isSome) = false := by decide
  intro c hc
  have none : Text.hexDigit? c = none := by simpa using h.stopsAt noDigit c hc
  rw [Text.isDigitIn, none]
  rfl

theorem isDigit_of_isDigitOf (h : Text.IsDigitOf 10 d) : d.isDigit = true := by
  obtain ⟨v, known, small⟩ := h
  have all : ∀ entry ∈ Text.digitValues, entry.2 < 10 → entry.1.isDigit = true := by decide
  exact all _ known small

theorem Underscored.mem (h : Underscored cs ds) : ∀ c ∈ cs, c = '_' ∨ c ∈ ds := by
  induction h with
  | nil => simp
  | digit _ ih =>
    intro c hc
    rcases List.mem_cons.1 hc with rfl | hc
    · simp
    · exact (ih c hc).imp_right (List.mem_cons_of_mem _)
  | underscore _ ih =>
    intro c hc
    simp only [List.mem_cons] at hc
    rcases hc with rfl | rfl | hc
    · simp
    · simp
    · exact (ih c hc).imp_right (List.mem_cons_of_mem _)

/-- **Digits with underscores between them are read.** -/
theorem moreDigits_append (h : Underscored cs ds) (digits : ∀ d ∈ ds, Text.IsDigitOf base d)
    (ends : EndsValue rest) : moreDigits base (cs ++ rest) = .ok (ds, rest) := by
  refine many_of_taken ?_
  induction h with
  | nil =>
    have noMark := declines_mark (ends.head_ne (c := '_') (by decide))
    exact .stop ((declines_char ends.noDigit).orElse noMark.seqRight)
  | digit _ ih =>
    have first := digits _ List.mem_cons_self
    have later := ih fun d hd => digits d (List.mem_cons_of_mem _ hd)
    exact .more (orElse_of_ok (digit_cons first)) (by simp) later
  | @underscore d cs ds _ ih =>
    have first := digits _ List.mem_cons_self
    have later := ih fun d hd => digits d (List.mem_cons_of_mem _ hd)
    have noDigit : (digit base).Declines ('_' :: d :: cs ++ rest) := by
      have none : Text.hexDigit? '_' = none := rfl
      exact declines_char (stopsAt_cons (by simp [Text.isDigitIn, none]))
    have shorter : (cs ++ rest).length < ('_' :: d :: cs ++ rest).length := by
      simp only [List.cons_append, List.length_cons]
      omega
    refine .more (noDigit.orElse_eq.trans ?_) shorter later
    rw [List.cons_append, seqRight_of_ok (mark_cons '_')]
    exact expecting_of_ok _ (commit_of_ok (digit_cons first))

/-! ## Numbers in decimal -/

theorem Decimal.first {n : Nat} (h : Decimal cs n) :
    ∃ d more, cs = d :: more ∧ d.isDigit = true ∧ ∀ c ∈ more, c = '_' ∨ Text.IsDigitOf 10 c := by
  cases h with
  | zero => exact ⟨'0', [], rfl, by decide, by simp⟩
  | digits _ more number =>
    have digits := number.isDigitOf
    exact ⟨_, _, rfl, isDigit_of_isDigitOf (digits _ List.mem_cons_self), fun c hc =>
      (more.mem c hc).imp_right fun hc => digits c (List.mem_cons_of_mem _ hc)⟩

theorem sign_append {s : List Char} {negative : Bool} (h : Sign s negative)
    (first : d.isDigit = true) : sign (s ++ d :: cs) = .ok (negative, d :: cs) := by
  have noSign : StopsAt (fun c => c == '+' || c == '-') (d :: cs) := by
    refine stopsAt_cons ?_
    rw [Bool.or_eq_false_iff, beq_eq_false_iff_ne, beq_eq_false_iff_ne]
    constructor <;> (rintro rfl; revert first; decide)
  cases h with
  | none => exact bind_of_ok (declines_char noSign).maybe
  | plus => exact bind_of_ok (maybe_of_ok (char_cons rfl))
  | minus => exact bind_of_ok (maybe_of_ok (char_cons rfl))

/-- **A number in decimal is read as its sign and its digits.** -/
theorem decimal_append {s : List Char} {negative : Bool} {n : Nat} (signed : Sign s negative)
    (h : Decimal cs n) (ends : EndsValue rest) :
    ∃ digits, decimal (s ++ cs ++ rest) = .ok ((negative, digits), rest) ∧
      Text.valueIn 10 digits = n := by
  cases h with
  | zero =>
    have zero : Text.IsDigitOf 10 '0' := ⟨0, by decide⟩
    have noLeading : (do
        return (← char fun c => c.isDigit && c != '0') :: (← moreDigits 10) : Reader _).Declines
          ('0' :: rest) := (declines_char (stopsAt_cons (by decide))).bind
    refine ⟨['0'], named_of_ok _ ?_, rfl⟩
    rw [List.append_assoc]
    refine (bind_of_ok (sign_append signed (by decide))).trans ?_
    refine (bind_of_ok (noLeading.orElse_eq.trans (bind_of_ok (digit_cons zero)))).trans ?_
    rfl
  | @digits d cs ds n leading more number =>
    have digits := number.isDigitOf
    have first := isDigit_of_isDigitOf (digits d List.mem_cons_self)
    have later := moreDigits_append more (fun d hd => digits d (List.mem_cons_of_mem _ hd)) ends
    have read : (do
        return (← char fun c => c.isDigit && c != '0') :: (← moreDigits 10) : Reader _)
          (d :: cs ++ rest) = .ok (d :: ds, rest) := by
      refine (bind_of_ok (char_cons (by simp [first, leading]))).trans ?_
      exact (bind_of_ok later).trans rfl
    refine ⟨d :: ds, named_of_ok _ ?_, number.valueIn_eq⟩
    rw [List.append_assoc]
    refine (bind_of_ok (sign_append signed first)).trans ?_
    exact (bind_of_ok (orElse_of_ok read)).trans rfl

/-! ## Whole numbers -/

theorem inBounds_of_lt {i : Int} (low : -2 ^ 63 ≤ i) (high : i < 2 ^ 63) :
    inBounds i = .ok (.integer i) := by
  have bound : Number.signedBound = 2 ^ 63 := by decide
  rw [inBounds, bound, if_neg (by omega), if_neg (by omega)]

theorem based_append {l : Char} {n : Nat} (what : String)
    (more : Underscored cs ds) (number : Text.MakesUp base (d :: ds) n) (high : (n : Int) < 2 ^ 63)
    (ends : EndsValue rest) :
    based (.ofList ['0', l]) base what ('0' :: l :: d :: cs ++ rest) = .ok (.integer n, rest) := by
  have digits := number.isDigitOf
  have later := moreDigits_append more (fun d hd => digits d (List.mem_cons_of_mem _ hd)) ends
  have some : someDigits base (d :: cs ++ rest) = .ok (d :: ds, rest) := by
    refine (bind_of_ok (digit_cons (digits d List.mem_cons_self))).trans ?_
    exact (bind_of_ok later).trans rfl
  have read : (word (.ofList ['0', l]) *> (someDigits base).commit)
      ('0' :: l :: d :: cs ++ rest) = .ok (d :: ds, rest) := by
    have mark : word (.ofList ['0', l]) ('0' :: l :: d :: cs ++ rest) =
        .ok ((), d :: cs ++ rest) := by
      have passed := @word_append (d :: cs ++ rest) (.ofList ['0', l])
      rwa [String.toList_ofList] at passed
    exact (seqRight_of_ok mark).trans (commit_of_ok some)
  refine commit_of_ok (convert_of_ok (named_of_ok _ read) ?_)
  rw [number.valueIn_eq]
  exact inBounds_of_lt (by omega) high

theorem whole_append {s : List Char} {negative : Bool} {n : Nat} {i : Int} (signed : Sign s negative)
    (h : Decimal cs n) (value : i = if negative then -(n : Int) else n)
    (low : -2 ^ 63 ≤ i) (high : i < 2 ^ 63) (ends : EndsValue rest) :
    whole (s ++ cs ++ rest) = .ok (.integer i, rest) := by
  obtain ⟨digits, read, rfl⟩ := decimal_append signed h ends
  subst value
  simp only [whole, read, bind, Except.bind]
  exact commit_of_ok (convert_of_ok rfl (inBounds_of_lt low high))

theorem integer_eq_whole (h : ∀ l more, text = '0' :: l :: more → l ∉ ['x', 'o', 'b']) :
    integer text = whole text := by
  unfold integer
  split
  · exact absurd (by decide) (h _ _ rfl)
  · exact absurd (by decide) (h _ _ rfl)
  · exact absurd (by decide) (h _ _ rfl)
  · rfl

/-- **A whole number is read.** -/
theorem integer_append {i : Int} (h : Whole cs i) (low : -2 ^ 63 ≤ i) (high : i < 2 ^ 63)
    (ends : EndsValue rest) : integer (cs ++ rest) = .ok (.integer i, rest) := by
  cases h with
  | @decimal s negative cs n signed h =>
    rw [integer_eq_whole, whole_append signed h rfl low high ends]
    intro l more same
    cases signed with
    | plus | minus => cases same
    | none =>
      cases h with
      | zero =>
        obtain rfl : rest = l :: more := (List.cons.inj same).2
        have none : behindValue.any (['x', 'o', 'b'].contains ·) = false := by decide
        simpa using ends.stopsAt none l rfl
      | digits leading => exact absurd (List.cons.inj same).1 leading
  | @based l base d cs ds n known more number =>
    simp only [bases, List.mem_cons, Prod.mk.injEq, List.not_mem_nil, or_false] at known
    rcases known with ⟨rfl, rfl⟩ | ⟨rfl, rfl⟩ | ⟨rfl, rfl⟩
    · exact based_append _ more number high ends
    · exact based_append _ more number high ends
    · exact based_append _ more number high ends

/-! ## No dates -/

/-- No digits at the front have a mark of dates or times behind them. -/
def Undated (text : List Char) : Prop :=
  ∀ ds rest, text = ds ++ rest → ds ≠ [] → (∀ d ∈ ds, d.isDigit = true) →
    rest.head? ≠ some '-' ∧ rest.head? ≠ some ':'

theorem undated_append (inside : ∀ c ∈ cs, c ≠ '-' ∧ c ≠ ':') (ends : EndsValue rest) :
    Undated (d :: cs ++ rest) := by
  intro ds mid same some digits
  have noMark : rest.head? ≠ .some '-' ∧ rest.head? ≠ .some ':' :=
    ⟨ends.head_ne (by decide), ends.head_ne (by decide)⟩
  obtain ⟨x, ds, rfl⟩ := List.exists_cons_of_ne_nil some
  obtain ⟨more, rfl, rfl⟩ | ⟨more, rfl, rfl⟩ :=
    List.append_eq_append_iff.1 (List.cons.inj same).2
  · -- no digit stands behind the number
    cases more with
    | nil => exact noMark
    | cons c more =>
      have digit : c.isDigit = true := digits c (by simp)
      have none : c.isDigit = false := ends.stopsAt (by decide) c rfl
      rw [digit] at none
      cases none
  · cases more with
    | nil => exact noMark
    | cons c more =>
      have other := inside c (by simp)
      simpa using other

theorem digits_cases (count : Nat) (text : List Char) :
    (digits count).Declines text ∨ ∃ n, digits count text = .ok (n, text.drop count) ∧
      (text.take count).length = count ∧ (text.take count).all Char.isDigit = true := by
  by_cases h : (text.take count).length = count ∧ (text.take count).all Char.isDigit = true
  · exact .inr ⟨_, map_of_ok (if_pos h), h⟩
  · exact .inl (declines_exactly h).map

theorem Undated.head_drop (h : Undated text) {count : Nat} (some : count ≠ 0)
    (length : (text.take count).length = count)
    (digits : (text.take count).all Char.isDigit = true) :
    (text.drop count).head? ≠ .some '-' ∧ (text.drop count).head? ≠ .some ':' := by
  refine h _ _ (List.take_append_drop count text).symm ?_ (List.all_eq_true.1 digits)
  rintro none
  rw [none] at length
  exact some length.symm

theorem Undated.declines_date (h : Undated text) : date.Declines text := by
  obtain noDigits | ⟨n, read, length, digits⟩ := digits_cases 4 text
  · exact noDigits.bind
  · exact .of_bind read (declines_mark (h.head_drop (by decide) length digits).1).bind

theorem Undated.declines_time (h : Undated text) : time.Declines text := by
  obtain noDigits | ⟨n, read, length, digits⟩ := digits_cases 2 text
  · exact noDigits.convert.bind
  · by_cases bounds : 0 ≤ n ∧ n ≤ 23
    · have hour : part 0 23 text = .ok (n, text.drop 2) := convert_of_ok read (if_pos bounds)
      exact .of_bind hour (declines_mark (h.head_drop (by decide) length digits).2).bind
    · exact (declines_convert read (if_neg bounds)).bind

theorem Undated.declines_moment (h : Undated text) : moment.Declines text :=
  .orElse (h.declines_date.bind.named _) (h.declines_time.map.named _)

theorem Whole.undated {i : Int} (h : Whole cs i) (ends : EndsValue rest) :
    Undated (cs ++ rest) := by
  have none {b : Nat} {c : Char} (h : c = '_' ∨ Text.IsDigitOf b c) : c ≠ '-' ∧ c ≠ ':' := by
    rcases h with rfl | ⟨v, known, -⟩
    · decide
    · have all : ∀ entry ∈ Text.digitValues, entry.1 ≠ '-' ∧ entry.1 ≠ ':' := by decide
      exact all _ known
  cases h with
  | decimal signed h =>
    obtain ⟨d, more, rfl, first, inside⟩ := h.first
    have digit : d ≠ '-' ∧ d ≠ ':' := by
      constructor <;> (rintro rfl; revert first; decide)
    have later : ∀ c ∈ more, c ≠ '-' ∧ c ≠ ':' := fun c hc => none (inside c hc)
    cases signed with
    | none => exact undated_append later ends
    | plus | minus => exact undated_append (by simpa [digit] using later) ends
  | @based l base d cs ds n known more number =>
    have letter : ∀ entry ∈ bases, entry.1 ≠ '-' ∧ entry.1 ≠ ':' := by decide
    refine undated_append (fun c hc => ?_) ends
    rcases List.mem_cons.1 hc with rfl | hc
    · exact letter _ known
    · rcases List.mem_cons.1 hc with rfl | hc
      · exact none (.inr (number.isDigitOf _ List.mem_cons_self))
      · exact none ((more.mem c hc).imp_right fun hc =>
          number.isDigitOf c (List.mem_cons_of_mem _ hc))

/-! ## No doubles -/

theorem declines_digitsOfFloat {value : Bool × List Char} (h : decimal text = .ok (value, rest))
    (ends : rest.head? ≠ some '.' ∧ rest.head? ≠ some 'e' ∧ rest.head? ≠ some 'E') :
    digitsOfFloat.Declines text := by
  have noPower : power.Declines rest := by
    refine (declines_char fun c hc => ?_).discard.bind
    rw [Bool.or_eq_false_iff, beq_eq_false_iff_ne, beq_eq_false_iff_ne]
    constructor <;> (rintro rfl; simp [hc] at ends)
  have noFraction : fraction.Declines rest := (declines_mark ends.1).seqRight
  exact .of_bind h (.bind (.orElse noPower.bind noFraction.bind))

theorem declines_float {negative : Bool} {value : Bool × List Char}
    (signed : sign text = .ok (negative, d :: cs)) (first : d.isDigit = true)
    (h : decimal text = .ok (value, rest))
    (ends : rest.head? ≠ some '.' ∧ rest.head? ≠ some 'e' ∧ rest.head? ≠ some 'E') :
    float.Declines text := by
  have noWord (w : String) {c : Char} {letters : List Char} (front : w.toList = c :: letters)
      (letter : c.isDigit = false) : (word w).Declines (d :: cs) := by
    refine declines_word ?_
    rw [front, List.cons_prefix_cons]
    rintro ⟨rfl, -⟩
    rw [first] at letter
    cases letter
  have noWords : (wordOfFloat negative).Declines (d :: cs) :=
    .orElse (noWord "inf" rfl (by decide)).seqRight (noWord "nan" rfl (by decide)).seqRight
  obtain ⟨fault, failed, opens⟩ := declines_digitsOfFloat h ends
  refine .named _ (.orElse ⟨fault, ?_, opens⟩ (.of_bind signed noWords))
  simp only [failed, bind, Except.bind]

theorem Whole.declines_float {i : Int} (h : Whole cs i) (ends : EndsValue rest) :
    float.Declines (cs ++ rest) := by
  cases h with
  | decimal signed h =>
    obtain ⟨digits, read, -⟩ := decimal_append signed h ends
    obtain ⟨d, more, rfl, first, -⟩ := h.first
    rw [List.append_assoc] at read ⊢
    exact Toml.declines_float (sign_append signed first) first read
      ⟨ends.head_ne (by decide), ends.head_ne (by decide), ends.head_ne (by decide)⟩
  | @based l base d cs ds n known =>
    -- the zero alone is a number in decimal, with the letter of the base behind it
    have zero : '0'.isDigit = true := by decide
    have letter : ∀ entry ∈ bases, entry.1 ≠ '.' ∧ entry.1 ≠ 'e' ∧ entry.1 ≠ 'E' := by decide
    have read : Toml.decimal ('0' :: l :: d :: cs ++ rest) =
        .ok ((false, ['0']), l :: d :: cs ++ rest) := by
      have noLeading : (do
          return (← char fun c => c.isDigit && c != '0') :: (← moreDigits 10) : Reader _).Declines
            ('0' :: l :: d :: cs ++ rest) := (declines_char (stopsAt_cons (by decide))).bind
      refine named_of_ok _ ((bind_of_ok (sign_append .none zero)).trans ?_)
      have isDigit : Text.IsDigitOf 10 '0' := ⟨0, by decide⟩
      refine (bind_of_ok (noLeading.orElse_eq.trans (bind_of_ok (digit_cons isDigit)))).trans ?_
      rfl
    exact Toml.declines_float (sign_append .none zero) zero read (by simpa using letter _ known)

/-! ## Numbers -/

theorem Whole.head {i : Int} (h : Whole cs i) :
    ∃ c more, cs = c :: more ∧ (c = '+' ∨ c = '-' ∨ c.isDigit = true) := by
  cases h with
  | decimal signed h =>
    obtain ⟨d, more, rfl, first, -⟩ := h.first
    cases signed with
    | none => exact ⟨d, more, rfl, .inr (.inr first)⟩
    | plus => exact ⟨'+', _, rfl, .inl rfl⟩
    | minus => exact ⟨'-', _, rfl, .inr (.inl rfl)⟩
  | based => exact ⟨'0', _, rfl, .inr (.inr (by decide))⟩

/-- **A whole number is read**, and as no date or double. -/
theorem number_append {i : Int} (h : Whole cs i) (low : -2 ^ 63 ≤ i) (high : i < 2 ^ 63)
    (ends : EndsValue rest) : number (cs ++ rest) = .ok (⟨.integer, .integer i⟩, rest) := by
  have noMoment : (ofKind .moment ((fun m => .text m.text) <$> moment)).Declines (cs ++ rest) :=
    (h.undated ends).declines_moment.map.map
  have noFloat : floatValue.Declines (cs ++ rest) := (h.declines_float ends).map
  rw [number, noMoment.orElse_eq, noFloat.orElse_eq]
  exact map_of_ok (integer_append h low high ends)

end ConversationMemory.Toml
