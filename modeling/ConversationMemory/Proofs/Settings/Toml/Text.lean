import ConversationMemory.Proofs.Settings.Toml.Grammar
import ConversationMemory.Proofs.Settings.Toml.Reading
import ConversationMemory.Settings.Toml.Text

/-!
# Strings and names are read

What a string of the grammar says is what is read, provided that no quote follows.

* `newline_append`, `escape_append`, `continuation_append`: the pieces.
* `basic_append`, `literal_append`, `Block.read_append`: the forms; **`text_append`**: a string.
* **`name_append`**: a name of a key, in front of what cannot belong to it.
-/

namespace ConversationMemory.Toml

open Reader

variable {cs said rest : List Char}

/-! ## Blanks and ends of lines -/

theorem isVisible_of_visible {c : Char} (h : Visible c) : isVisible c = true := by
  simpa [isVisible, Visible] using h

theorem Blanks.isSpace {bs : List Char} (h : Blanks bs) : ∀ c ∈ bs, isSpace c = true := by
  simpa [Toml.isSpace, Blanks] using h

theorem spaces_append {bs : List Char} (h : Blanks bs) (stops : StopsAt isSpace rest) :
    spaces (bs ++ rest) = .ok ((), rest) :=
  discard_of_ok (run_append h.isSpace stops)

theorem spaces_none (stops : StopsAt isSpace cs) : spaces cs = .ok ((), cs) :=
  have none : Blanks [] := by rintro _ ⟨⟩
  spaces_append none stops

theorem newline_append {n : List Char} (h : Newline n) : newline (n ++ rest) = .ok ((), rest) := by
  cases h with
  | feed => exact orElse_of_ok (mark_cons '\n')
  | returned =>
    have first : (mark '\n').Declines ('\r' :: '\n' :: rest) := declines_mark (by simp)
    refine first.orElse_eq.trans ?_
    rw [seqRight_of_ok (mark_cons '\r')]
    exact mark_cons '\n'

theorem declines_newline (h : ∀ c, cs.head? = some c → c ≠ '\n' ∧ c ≠ '\r') :
    newline.Declines cs :=
  Declines.orElse (declines_mark fun feed => (h _ feed).1 rfl)
    (declines_mark fun returned => (h _ returned).2 rfl).seqRight

theorem Newline.head {n : List Char} (h : Newline n) :
    ∃ c more, n = c :: more ∧ (c = '\n' ∨ c = '\r') := by
  cases h with
  | feed => exact ⟨'\n', [], rfl, .inl rfl⟩
  | returned => exact ⟨'\r', ['\n'], rfl, .inr rfl⟩

theorem Newline.ne_nil {n : List Char} (h : Newline n) : n ≠ [] := by
  obtain ⟨c, more, rfl, -⟩ := h.head
  exact List.cons_ne_nil _ _

theorem Newline.stopsAt {n : List Char} {p : Char → Bool} (h : Newline n) (feed : p '\n' = false)
    (returned : p '\r' = false) : StopsAt p (n ++ rest) := by
  obtain ⟨c, more, rfl, rfl | rfl⟩ := h.head
  · exact stopsAt_cons feed
  · exact stopsAt_cons returned

/-! ## Escapes -/

theorem lookup_of_mem_letters {l c : Char} (known : (l, c) ∈ letters) :
    letterEscapes.lookup l = some c := by
  have all : ∀ entry ∈ letters, letterEscapes.lookup entry.1 = some entry.2 := by decide
  exact all _ known

theorem charOf_toNat (c : Char) : charOf c.toNat = .ok c := by
  have valid : c.toNat.isValidChar := c.valid
  rw [charOf, dif_pos valid]
  rfl

theorem codePoint_append {count : Nat} {ds : List Char} {c : Char} (length : ds.length = count)
    (number : Text.MakesUp 16 ds c.toNat) : codePoint count (ds ++ rest) = .ok (c, rest) := by
  have digits : ∀ d ∈ ds, (Text.hexDigit? d).isSome = true := fun d hd => by
    obtain ⟨v, known, -⟩ := number.isDigitOf d hd
    rw [Text.hexDigit?_of_mem known]
    rfl
  refine named_of_ok _ (commit_of_ok (convert_of_ok (exactly_append length digits) ?_))
  rw [Text.hexValue, number.valueIn_eq, charOf_toNat]

theorem Escape.second {e : List Char} {c : Char} (h : Escape e c) :
    ∃ l more, e = '\\' :: l :: more ∧ l ∉ [' ', '\t', '\n', '\r'] := by
  cases h with
  | letter known =>
    have none : ∀ entry ∈ letters, entry.1 ∉ [' ', '\t', '\n', '\r'] := by decide
    exact ⟨_, _, rfl, none _ known⟩
  | short => exact ⟨_, _, rfl, by decide⟩
  | long => exact ⟨_, _, rfl, by decide⟩

theorem Escape.ne_nil {e : List Char} {c : Char} (h : Escape e c) : e ≠ [] := by
  obtain ⟨l, more, rfl, -⟩ := h.second
  exact List.cons_ne_nil _ _

/-- **What stands for a character is read as it.** -/
theorem escape_append {e : List Char} {c : Char} (h : Escape e c) :
    escape (e ++ rest) = .ok (c, rest) := by
  have any_cons (l : Char) (more : List Char) : any (l :: more) = .ok (l, more) := char_cons rfl
  cases h with
  | @letter l _ known =>
    rw [escape, List.cons_append, List.cons_append, bind_of_ok (mark_cons _),
      bind_of_ok (any_cons _ _), lookup_of_mem_letters known]
    rfl
  | short four number =>
    rw [escape, List.cons_append, List.cons_append, bind_of_ok (mark_cons _),
      bind_of_ok (any_cons _ _)]
    exact codePoint_append four number
  | long eight number =>
    rw [escape, List.cons_append, List.cons_append, bind_of_ok (mark_cons _),
      bind_of_ok (any_cons _ _)]
    exact codePoint_append eight number

/-! ## Strings of one line -/

theorem isBasic_of_visible {c : Char} (visible : Visible c) (noQuote : c ≠ '"')
    (noEscape : c ≠ '\\') : isBasic c = true := by
  simp [isBasic, isVisible_of_visible visible, noQuote, noEscape]

theorem isLiteral_of_visible {c : Char} (visible : Visible c) (noQuote : c ≠ '\'') :
    isLiteral c = true := by
  simp [isLiteral, isVisible_of_visible visible, noQuote]

theorem Escape.stopsAt {e : List Char} {c : Char} (h : Escape e c) :
    StopsAt isBasic (e ++ rest) := by
  obtain ⟨l, more, rfl, -⟩ := h.second
  exact stopsAt_cons (by decide)

theorem Basic.pieced (h : Basic cs said) (rest : List Char) :
    Pieced isBasic (([·]) <$> escape) cs said ('"' :: rest) := by
  induction h with
  | nil =>
    have noEscape : escape.Declines ('"' :: rest) := (declines_mark (by simp)).bind
    exact .nil (stopsAt_cons (by decide)) noEscape.map
  | plain visible noQuote noEscape _ ih =>
    exact ih.plain (isBasic_of_visible visible noQuote noEscape)
  | escaped h _ ih => exact ih.item _ [_] h.ne_nil h.stopsAt (map_of_ok (escape_append h))

theorem basic_append (h : Basic cs said) :
    basic ('"' :: (cs ++ ['"']) ++ rest) = .ok (said, rest) := by
  obtain ⟨pieces, all, same, -⟩ := (h.pieced rest).many
  rw [basic, List.cons_append, List.append_assoc, bind_of_ok (mark_cons _)]
  refine (bind_of_ok all).trans ?_
  rw [bind_of_ok (named_of_ok _ (commit_of_ok (mark_cons '"'))), same]
  rfl

theorem literal_append (h : ∀ c ∈ cs, Visible c ∧ c ≠ '\'') :
    literal ('\'' :: (cs ++ ['\'']) ++ rest) = .ok (cs, rest) := by
  have plain : ∀ c ∈ cs, isLiteral c = true := fun c hc =>
    isLiteral_of_visible (h c hc).1 (h c hc).2
  have ends : StopsAt isLiteral ('\'' :: rest) := stopsAt_cons (by decide)
  refine named_of_ok _ ?_
  rw [List.cons_append, List.append_assoc, bind_of_ok (mark_cons _)]
  refine (bind_of_ok (run_append plain ends)).trans ?_
  rw [bind_of_ok (commit_of_ok (mark_cons '\''))]
  rfl

/-! ## Parts of strings of many lines -/

/-- What takes blanks and ends of lines. -/
def gapPiece : Reader Unit := newline.orElse (discard (run1 isSpace))

theorem taken_blanks {bs : List Char} {us : List Unit} (h : Taken gapPiece cs us rest)
    (blank : Blanks bs) (stops : StopsAt isSpace cs) : ∃ us, Taken gapPiece (bs ++ cs) us rest := by
  by_cases some : bs = []
  · exact ⟨us, by rwa [some]⟩
  · have noNewline : newline.Declines (bs ++ cs) := by
      obtain ⟨b, more, rfl⟩ := List.exists_cons_of_ne_nil some
      refine declines_newline ?_
      rintro _ ⟨⟩
      rcases blank b List.mem_cons_self with rfl | rfl <;> decide
    have taken := discard_of_ok (run1_append some blank.isSpace stops)
    refine ⟨() :: us, .more (noNewline.orElse_eq.trans taken) ?_ h⟩
    rw [List.length_append]
    have := List.length_pos_iff.2 some
    omega

theorem Gap.taken {g : List Char} (h : Gap g)
    (ends : ∀ c, rest.head? = some c → c ∉ [' ', '\t', '\n', '\r']) :
    ∃ us, Taken gapPiece (g ++ rest) us rest := by
  have stops : StopsAt isSpace rest := fun c hc => by
    have := ends c hc
    simp only [List.mem_cons, not_or] at this
    simp [isSpace, this]
  have noNewline : newline.Declines rest := declines_newline fun c hc => by
    have := ends c hc
    simp only [List.mem_cons, not_or] at this
    exact ⟨this.2.2.1, this.2.2.2.1⟩
  induction h with
  | blanks blank =>
    exact taken_blanks (.stop (noNewline.orElse (declines_run1 stops).discard)) blank stops
  | @line bs n g blank newline _ ih =>
    obtain ⟨us, later⟩ := ih
    have shorter : (g ++ rest).length < (n ++ (g ++ rest)).length := by
      obtain ⟨c, more, rfl, -⟩ := newline.head
      simp only [List.length_append, List.length_cons]
      omega
    have line : Taken gapPiece (n ++ (g ++ rest)) (() :: us) rest :=
      .more (orElse_of_ok (newline_append newline)) shorter later
    obtain ⟨us, all⟩ := taken_blanks line blank (newline.stopsAt (by decide) (by decide))
    exact ⟨us, by simpa using all⟩

theorem continuation_append {bs n g : List Char} (blank : Blanks bs) (newline : Newline n)
    (gap : Gap g) (ends : ∀ c, rest.head? = some c → c ∉ [' ', '\t', '\n', '\r']) :
    Block.continuation ('\\' :: (bs ++ (n ++ (g ++ rest)))) = .ok ((), rest) := by
  obtain ⟨us, taken⟩ := gap.taken ends
  rw [Block.continuation, bind_of_ok (mark_cons _)]
  refine (bind_of_ok (spaces_append blank (newline.stopsAt (by decide) (by decide)))).trans ?_
  refine (bind_of_ok (newline_append newline)).trans ?_
  exact discard_of_ok (many_of_taken taken)

theorem Escape.declines_continuation {e : List Char} {c : Char} (h : Escape e c) :
    Block.continuation.Declines (e ++ rest) := by
  obtain ⟨l, more, rfl, other⟩ := h.second
  simp only [List.mem_cons, not_or] at other
  have noBlank : StopsAt isSpace (l :: (more ++ rest)) := stopsAt_cons (by simp [isSpace, other])
  refine .of_bind (mark_cons _) (.of_bind (spaces_none noBlank) ?_)
  refine Declines.bind (declines_newline ?_)
  rintro _ ⟨⟩
  exact ⟨other.2.2.1, other.2.2.2.1⟩

theorem Stretch.pieced_basic (h : Stretch '"' cs said) (rest : List Char) :
    Pieced isBasic ((Block.continuation *> pure []).orElse <|
      (([·]) <$> escape).orElse (newline *> pure ['\n'])) cs said ('"' :: rest) := by
  have noContinuation {cs} (first : cs.head? ≠ some '\\') : Block.continuation.Declines cs :=
    (declines_mark first).bind
  have noEscape {cs} (first : cs.head? ≠ some '\\') : escape.Declines cs :=
    (declines_mark first).bind
  induction h with
  | nil =>
    have noNewline : newline.Declines ('"' :: rest) := declines_newline (by simp)
    exact .nil (stopsAt_cons (by decide)) <| .orElse (noContinuation (by simp)).seqRight <|
      .orElse (noEscape (by simp)).map noNewline.seqRight
  | plain visible noQuote escaped _ ih =>
    exact ih.plain (isBasic_of_visible visible noQuote (escaped rfl))
  | @wrapped n cs _ h _ ih =>
    obtain ⟨c, more, rfl, first⟩ := h.head
    have other : ((c :: more) ++ (cs ++ '"' :: rest)).head? ≠ some '\\' := by
      rcases first with rfl | rfl <;> simp
    refine ih.item _ ['\n'] (List.cons_ne_nil _ _) (h.stopsAt (by decide) (by decide)) ?_
    rw [(noContinuation other).seqRight.orElse_eq, (noEscape other).map.orElse_eq,
      seqRight_of_ok (newline_append h)]
    rfl
  | escaped _ h _ ih =>
    refine ih.item _ [_] h.ne_nil h.stopsAt ?_
    rw [h.declines_continuation.seqRight.orElse_eq]
    exact orElse_of_ok (map_of_ok (escape_append h))
  | @joined bs n g cs said _ blanks ended gap ends _ ih =>
    have ends' : ∀ c, (cs ++ '"' :: rest).head? = some c → c ∉ [' ', '\t', '\n', '\r'] := by
      cases cs with
      | nil =>
        rintro _ ⟨⟩
        decide
      | cons c cs => exact ends
    have goes : (Block.continuation *> pure ([] : List Char))
        ('\\' :: (bs ++ (n ++ g)) ++ (cs ++ '"' :: rest)) = .ok ([], cs ++ '"' :: rest) := by
      rw [seqRight_of_ok (by simpa using continuation_append blanks ended gap ends')]
      rfl
    simpa using ih.item ('\\' :: (bs ++ (n ++ g))) [] (List.cons_ne_nil _ _)
      (stopsAt_cons (by decide)) (orElse_of_ok goes)

theorem Stretch.pieced_literal (h : Stretch '\'' cs said) (rest : List Char) :
    Pieced isLiteral (newline *> pure ['\n']) cs said ('\'' :: rest) := by
  induction h with
  | nil =>
    have noNewline : newline.Declines ('\'' :: rest) := declines_newline (by simp)
    exact .nil (stopsAt_cons (by decide)) noNewline.seqRight
  | plain visible noQuote _ _ ih => exact ih.plain (isLiteral_of_visible visible noQuote)
  | wrapped h _ ih =>
    refine ih.item _ ['\n'] h.ne_nil (h.stopsAt (by decide) (by decide)) ?_
    rw [seqRight_of_ok (newline_append h)]
    rfl
  | escaped double | joined double => cases double

/-! ## Strings of many lines -/

variable {block : Block}

/-- The two kinds of strings of many lines. -/
def Block.Known (block : Block) : Prop := block = Block.basic ∨ block = Block.literal

theorem Stretch.many (known : block.Known) (h : Stretch block.quote cs said) (rest : List Char) :
    ∃ pieces, Reader.many block.part (cs ++ block.quote :: rest) =
        .ok (pieces, block.quote :: rest) ∧
      pieces.flatten = said ∧ (cs ≠ [] → pieces ≠ []) := by
  rcases known with rfl | rfl
  · exact (h.pieced_basic rest).many
  · exact (h.pieced_literal rest).many

theorem quotes_append (count : Nat) :
    block.quotes count (List.replicate count block.quote ++ rest) =
      .ok (List.replicate count block.quote, rest) :=
  exactly_append (by simp) (by simp +contextual)

theorem declines_quotes (there : Nat) {count : Nat} (few : there < count)
    (ends : cs.head? ≠ some block.quote) :
    (block.quotes count).Declines (List.replicate there block.quote ++ cs) := by
  refine declines_exactly ?_
  rintro ⟨length, all⟩
  rw [List.take_append, List.length_replicate] at length all
  cases cs with
  | nil =>
    simp only [List.take_nil, List.append_nil, List.length_take, List.length_replicate] at length
    omega
  | cons c cs =>
    obtain ⟨n, hn⟩ := Nat.exists_eq_succ_of_ne_zero (by omega : count - there ≠ 0)
    rw [hn] at all
    simp only [List.take_succ_cons, List.all_append, List.all_cons, Bool.and_eq_true,
      beq_iff_eq] at all
    exact ends (by rw [all.2.1]; rfl)

theorem inside_append {follows : Reader Unit} {count : Nat} {mid : List Char}
    (few : count = 1 ∨ count = 2) (ends : follows cs = .ok ((), mid))
    (single : count = 1 → (block.quotes 2 <* ahead follows).Declines (block.quote :: cs)) :
    block.inside follows (List.replicate count block.quote ++ cs) =
      .ok (List.replicate count block.quote, cs) := by
  have taken : (block.quotes count <* ahead follows) (List.replicate count block.quote ++ cs) =
      .ok (List.replicate count block.quote, cs) :=
    seqLeft_of_ok (quotes_append count) (ahead_of_ok ends)
  rcases few with rfl | rfl
  · exact (single rfl).orElse_eq.trans taken
  · exact orElse_of_ok taken

theorem declines_inside {follows : Reader Unit} {c : Char} (h : c = block.quote)
    (two : follows.Declines cs) (one : follows.Declines (c :: cs)) :
    (block.inside follows).Declines (c :: c :: cs) := by
  subst h
  exact .orElse (.of_seqLeft (quotes_append 2) two.ahead)
    (.of_seqLeft (quotes_append 1) one.ahead)

theorem declines_quoted (count : Nat) (rest : List Char) :
    block.quoted.Declines (List.replicate (count + 3) block.quote ++ rest) := by
  have noOther (more : List Char) :
      (discard (char (· != block.quote))).Declines (block.quote :: more) :=
    (declines_char (stopsAt_cons (by simp))).discard
  exact (declines_inside rfl (noOther _) (noOther _)).bind

theorem quoted_append {count : Nat} {c : Char} {mid : List Char} {pieces : List (List Char)}
    (few : count = 1 ∨ count = 2) (other : c ≠ block.quote)
    (h : Reader.many block.part (c :: cs) = .ok (pieces, mid)) (some : pieces ≠ []) :
    block.quoted (List.replicate count block.quote ++ c :: cs) =
      .ok (List.replicate count block.quote ++ pieces.flatten, mid) := by
  have follows : (discard (char (· != block.quote))) (c :: cs) = .ok ((), cs) :=
    discard_of_ok (char_cons (by simpa using other))
  have single : count = 1 →
      (block.quotes 2 <* ahead (discard (char (· != block.quote)))).Declines
        (block.quote :: c :: cs) := fun _ =>
    (declines_quotes 1 (by decide) (by simpa using other)).seqLeft
  have none : pieces.isEmpty = false := by simpa using some
  rw [Block.quoted]
  refine (bind_of_ok (inside_append few follows single)).trans ?_
  refine (bind_of_ok h).trans ?_
  simp only [none, Bool.false_eq_true, if_false]
  rfl

/-- The inside of a string of many lines is read as its first part, the other parts with the quotes in
front of them, and the last quotes. -/
theorem Inside.reads (known : block.Known) (h : Inside block.quote cs said) (rest : List Char) :
    ∃ pieces mid parts count,
      Reader.many block.part (cs ++ (List.replicate 3 block.quote ++ rest)) = .ok (pieces, mid) ∧
      Taken block.quoted mid parts (List.replicate (count + 3) block.quote ++ rest) ∧ count ≤ 2 ∧
      said = pieces.flatten ++ (parts.flatten ++ List.replicate count block.quote) ∧
      mid.length ≤ (cs ++ (List.replicate 3 block.quote ++ rest)).length ∧
      (∀ c more, cs = c :: more → c ≠ block.quote → pieces ≠ []) := by
  induction h with
  | @last cs said count h few =>
    obtain ⟨pieces, all, same, some⟩ :=
      h.many known (List.replicate (count + 2) block.quote ++ rest)
    have closing : List.replicate count block.quote ++ (List.replicate 3 block.quote ++ rest) =
        block.quote :: (List.replicate (count + 2) block.quote ++ rest) := by
      rw [← List.append_assoc, List.replicate_append_replicate]
      rfl
    refine ⟨pieces, _, [], count, ?_, .stop (declines_quoted count rest), few, ?_, ?_, ?_⟩
    · rw [List.append_assoc, closing]
      exact all
    · simp [same]
    · simp only [List.length_append, List.length_replicate]
      omega
    · rintro c more first other
      refine some ?_
      rintro rfl
      have mem : c ∈ List.replicate count block.quote := by
        rw [List.nil_append] at first
        simp [first]
      exact other (List.eq_of_mem_replicate mem)
  | @quotes cs said count c rest' more h few other later ih =>
    obtain ⟨inner, mid, parts, last, allInner, taken, fewLast, rfl, shorter, someInner⟩ := ih
    obtain ⟨n, hn⟩ : ∃ n, count = n + 1 := ⟨count - 1, by omega⟩
    obtain ⟨pieces, all, rfl, some⟩ := h.many known
      (List.replicate n block.quote ++
        (c :: rest' ++ (List.replicate 3 block.quote ++ rest)))
    have first := quoted_append few other allInner (someInner c rest' rfl other)
    refine ⟨pieces, List.replicate count block.quote ++
        (c :: rest' ++ (List.replicate 3 block.quote ++ rest)), _ :: parts, last, ?_,
      .more first ?_ taken, fewLast, ?_, ?_, ?_⟩
    · rw [hn, List.append_assoc, List.append_assoc]
      exact all
    · simp only [List.length_append, List.length_replicate] at shorter ⊢
      omega
    · simp
    · simp only [List.length_append, List.length_replicate, List.length_cons]
      omega
    · rintro x more first other
      refine some ?_
      rintro rfl
      rw [hn] at first
      cases first
      exact other rfl

theorem last_append {count : Nat} (few : count ≤ 2) (ends : rest.head? ≠ some block.quote) :
    ∃ last, (block.inside (discard (block.quotes 3))).maybe
        (List.replicate (count + 3) block.quote ++ rest) =
        .ok (last, List.replicate 3 block.quote ++ rest) ∧
      last.getD [] = List.replicate count block.quote := by
  have fewer (there : Nat) (less : there < 3) :
      (discard (block.quotes 3)).Declines (List.replicate there block.quote ++ rest) :=
    (declines_quotes there less ends).discard
  have closes : (discard (block.quotes 3)) (List.replicate 3 block.quote ++ rest) = .ok ((), rest) :=
    discard_of_ok (quotes_append 3)
  by_cases none : count = 0
  · subst none
    have noLast := declines_inside (rfl : block.quote = _) (fewer 1 (by decide)) (fewer 2 (by decide))
    exact ⟨_, noLast.maybe, rfl⟩
  · have single : count = 1 →
        (block.quotes 2 <* ahead (discard (block.quotes 3))).Declines
          (block.quote :: (List.replicate 3 block.quote ++ rest)) := fun _ =>
      .of_seqLeft (quotes_append 2) (fewer 2 (by decide)).ahead
    have taken := inside_append (by omega) closes single
    rw [← List.append_assoc, List.replicate_append_replicate] at taken
    exact ⟨_, maybe_of_ok taken, rfl⟩

/-- **A string of many lines is read.** -/
theorem Block.read_append {n : List Char} (known : block.Known)
    (opened : Newline n ∨ n = [] ∧ ∀ c, cs.head? = some c → c ≠ '\n' ∧ c ≠ '\r')
    (h : Inside block.quote cs said) (ends : rest.head? ≠ some block.quote) :
    block.read (List.replicate 3 block.quote ++ (n ++ (cs ++ List.replicate 3 block.quote)) ++ rest) =
      .ok (said, rest) := by
  obtain ⟨pieces, mid, parts, count, all, taken, few, rfl, -, -⟩ := h.reads known rest
  obtain ⟨last, lastTaken, same⟩ := last_append few ends
  have opening : (discard newline.maybe) (n ++ (cs ++ (List.replicate 3 block.quote ++ rest))) =
      .ok ((), cs ++ (List.replicate 3 block.quote ++ rest)) := by
    rcases opened with ended | ⟨rfl, noEnd⟩
    · exact discard_of_ok (maybe_of_ok (newline_append ended))
    · refine discard_of_ok (declines_newline fun c first => ?_).maybe
      cases cs with
      | nil =>
        cases first
        rcases known with rfl | rfl <;> decide
      | cons => exact noEnd c first
  have closing : (discard (block.quotes 3).commit) (List.replicate 3 block.quote ++ rest) =
      .ok ((), rest) := discard_of_ok (commit_of_ok (quotes_append 3))
  refine named_of_ok _ ?_
  simp only [List.append_assoc]
  refine (bind_of_ok (discard_of_ok (quotes_append 3))).trans ?_
  refine (bind_of_ok opening).trans ?_
  refine (bind_of_ok (commit_of_ok all)).trans ?_
  refine (bind_of_ok (commit_of_ok (many_of_taken taken))).trans ?_
  refine (bind_of_ok lastTaken).trans ?_
  refine (bind_of_ok closing).trans ?_
  rw [same]
  rfl

theorem Block.declines_read (block : Block) (there : Nat) (few : there < 3)
    (ends : cs.head? ≠ some block.quote) :
    block.read.Declines (List.replicate there block.quote ++ cs) :=
  (declines_quotes there few ends).discard.bind.named _

/-! ## Strings of all forms -/

theorem Basic.noQuote (h : Basic cs said) : cs.head? ≠ some '"' := by
  cases h with
  | nil => simp
  | plain _ noQuote => simpa using noQuote
  | escaped h =>
    obtain ⟨l, more, rfl, -⟩ := h.second
    simp

/-- **A string is read as what it says**, if no quote follows. -/
theorem text_append (h : Quoted cs said) (ends : ∀ c, rest.head? = some c → c ≠ '"' ∧ c ≠ '\'') :
    text (cs ++ rest) = .ok (.ofList said, rest) := by
  refine map_of_ok ?_
  have noDouble : rest.head? ≠ some '"' := fun quote => (ends _ quote).1 rfl
  have noSingle : rest.head? ≠ some '\'' := fun quote => (ends _ quote).2 rfl
  cases h with
  | @basic cs _ h =>
    have oneLine : Block.basic.read.Declines ('"' :: (cs ++ ['"']) ++ rest) := by
      cases cs with
      | nil => exact Block.basic.declines_read 2 (by decide) noDouble
      | cons c cs =>
        exact Block.basic.declines_read 1 (by decide) h.noQuote
    exact oneLine.orElse_eq.trans (orElse_of_ok (basic_append h))
  | literal h =>
    have oneLine : Block.literal.read.Declines ('\'' :: (said ++ ['\'']) ++ rest) := by
      cases said with
      | nil => exact Block.literal.declines_read 2 (by decide) noSingle
      | cons c said =>
        refine Block.literal.declines_read 1 (by decide) ?_
        simpa [Block.literal] using (h c List.mem_cons_self).2
    have noBlock : Block.basic.read.Declines ('\'' :: (said ++ ['\'']) ++ rest) :=
      Block.basic.declines_read 0 (by decide) (by simp [Block.basic])
    have noBasic : basic.Declines ('\'' :: (said ++ ['\'']) ++ rest) :=
      (declines_mark (by simp)).bind
    rw [noBlock.orElse_eq, noBasic.orElse_eq, oneLine.orElse_eq]
    exact literal_append h
  | @lines _ n cs _ known opened h =>
    rcases known with rfl | rfl
    · exact orElse_of_ok (Block.read_append (.inl rfl) opened h noDouble)
    · have noBlock : Block.basic.read.Declines
          (List.replicate 3 '\'' ++ (n ++ (cs ++ List.replicate 3 '\'')) ++ rest) :=
        Block.basic.declines_read 0 (by decide)
          (by simp [Block.basic, List.replicate_succ])
      have noBasic : basic.Declines
          (List.replicate 3 '\'' ++ (n ++ (cs ++ List.replicate 3 '\'')) ++ rest) :=
        (declines_mark (by simp [List.replicate_succ])).bind
      rw [noBlock.orElse_eq, noBasic.orElse_eq]
      exact orElse_of_ok (Block.read_append (.inr rfl) opened h noSingle)

/-! ## Names -/

theorem isBare_of_name {c : Char} (h : c.isAlphanum ∨ c = '_' ∨ c = '-') : isBare c = true := by
  simpa [isBare, or_assoc] using h

/-- **A name is read**, if nothing follows that could belong to it. -/
theorem name_append {n : String} (h : Name cs n) (stops : StopsAt isBare rest) :
    name (cs ++ rest) = .ok (n, rest) := by
  cases h with
  | @bare cs nonEmpty h =>
    have inside : ∀ c ∈ cs, isBare c = true := fun c hc => isBare_of_name (h c hc)
    obtain ⟨c, more, rfl⟩ := List.exists_cons_of_ne_nil nonEmpty
    have noQuote : c ≠ '"' ∧ c ≠ '\'' := by
      have first := inside c List.mem_cons_self
      constructor <;> (rintro rfl; revert first; decide)
    rw [name, bind_of_ok next_apply]
    have taken : (String.ofList <$> run1 isBare) (c :: more ++ rest) =
        .ok (String.ofList (c :: more), rest) := map_of_ok (run1_append nonEmpty inside stops)
    simp only [List.cons_append, List.head?_cons] at taken ⊢
    simpa [noQuote] using taken
  | basic h =>
    rw [name, bind_of_ok next_apply]
    exact map_of_ok (basic_append h)
  | literal h =>
    rw [name, bind_of_ok next_apply]
    exact map_of_ok (literal_append h)

end ConversationMemory.Toml
