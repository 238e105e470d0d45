import ConversationMemory.Proofs.Settings.Toml.Number
import ConversationMemory.Proofs.Settings.Toml.Text
import ConversationMemory.Settings.Toml

/-!
# Keys, values and ends of lines are read

* **`key_append`**, `key_dotted`: a key of one name or of two. **`value_append`**: a value; a table
  in braces must not have a name twice.
* **`restOfLine_append`**: all that may stand behind a value in a line.
-/

namespace ConversationMemory.Toml

open Reader

variable {cs rest : List Char} {n : String} {g : Given}

/-! ## Ends of lines -/

theorem Comment.stopsAt (h : Comment cs) {p : Char → Bool} (mark : p '#' = false)
    (stops : StopsAt p rest) : StopsAt p (cs ++ rest) := by
  cases h with
  | absent => exact stops
  | marked => exact stopsAt_cons mark

theorem comment_append (h : ∀ c ∈ cs, Visible c) (stops : StopsAt isVisible rest) :
    comment ('#' :: cs ++ rest) = .ok ((), rest) := by
  refine (seqRight_of_ok (mark_cons '#')).trans (discard_of_ok (run_append ?_ stops))
  exact fun c hc => isVisible_of_visible (h c hc)

theorem Comment.maybe_append (h : Comment cs) (stops : StopsAt isVisible rest)
    (noMark : rest.head? ≠ some '#') :
    (discard comment.maybe) (cs ++ rest) = .ok ((), rest) := by
  cases h with
  | absent => exact discard_of_ok (declines_mark noMark).seqRight.maybe
  | marked h => exact discard_of_ok (maybe_of_ok (comment_append h stops))

theorem Newline.head_ne {ended : List Char} (h : Newline ended) {c : Char}
    (other : c ≠ '\n' ∧ c ≠ '\r') : (ended ++ rest).head? ≠ some c := by
  cases h with
  | feed => exact fun same => other.1 (Option.some.inj same).symm
  | returned => exact fun same => other.2 (Option.some.inj same).symm

theorem restOfLine_append {tail : List Char} (h : Trail rest tail) :
    restOfLine (tail ++ rest) = .ok ((), rest) := by
  cases h with
  | @ended a c ended blank comment newline =>
    have visible : StopsAt isVisible (ended ++ rest) := newline.stopsAt (by decide) (by decide)
    have noBlank : StopsAt isSpace (ended ++ rest) := newline.stopsAt (by decide) (by decide)
    simp only [List.append_assoc]
    have blanks := spaces_append blank (comment.stopsAt (by decide) noBlank)
    have skipped := comment.maybe_append visible (newline.head_ne (by decide))
    refine (seqRight_of_ok ((seqRight_of_ok blanks).trans skipped)).trans ?_
    exact orElse_of_ok (newline_append newline)
  | @last a c blank comment none =>
    subst none
    simp only [List.append_assoc]
    have blanks := spaces_append blank (comment.stopsAt (by decide) stopsAt_nil)
    have skipped := comment.maybe_append stopsAt_nil (by simp)
    refine (seqRight_of_ok ((seqRight_of_ok blanks).trans skipped)).trans ?_
    exact (declines_newline (by simp)).orElse_eq

theorem Blanks.endsValue {bs : List Char} (h : Blanks bs) (ends : EndsValue rest) :
    EndsValue (bs ++ rest) := by
  cases bs with
  | nil => exact ends
  | cons b bs =>
    rintro c ⟨⟩
    rcases h b List.mem_cons_self with rfl | rfl <;> decide

theorem Trail.endsValue {tail : List Char} (h : Trail rest tail) : EndsValue (tail ++ rest) := by
  have commented {c more : List Char} (h : Comment c) (ends : EndsValue more) :
      EndsValue (c ++ more) := by
    cases h with
    | absent => exact ends
    | marked =>
      rintro _ ⟨⟩
      decide
  cases h with
  | ended blank comment newline =>
    simp only [List.append_assoc]
    refine blank.endsValue (commented comment ?_)
    obtain ⟨c, more, rfl, rfl | rfl⟩ := newline.head
    all_goals
      rintro _ ⟨⟩
      decide
  | last blank comment none =>
    subst none
    simp only [List.append_assoc]
    exact blank.endsValue (commented comment (by rintro _ ⟨⟩))

/-! ## Keys -/

/-- What may stand behind a name of a key and its blanks. -/
def EndsName (rest : List Char) : Prop := ∃ c more, rest = c :: more ∧ c ∈ ['=', ']', '.']

theorem EndsName.stopsAt (h : EndsName rest) {p : Char → Bool}
    (none : ['=', ']', '.'].any p = false) : StopsAt p rest := by
  obtain ⟨c, more, rfl, known⟩ := h
  exact stopsAt_cons (by simpa using List.any_eq_false.1 none c known)

theorem Name.head (h : Name cs n) :
    ∃ c more, cs = c :: more ∧ (isBare c = true ∨ c = '"' ∨ c = '\'') := by
  cases h with
  | bare nonEmpty h =>
    obtain ⟨c, more, rfl⟩ := List.exists_cons_of_ne_nil nonEmpty
    exact ⟨c, more, rfl, .inl (isBare_of_name (h c List.mem_cons_self))⟩
  | basic => exact ⟨'"', _, rfl, .inr (.inl rfl)⟩
  | literal => exact ⟨'\'', _, rfl, .inr (.inr rfl)⟩

theorem Name.head_ne (h : Name cs n) {c : Char} {more : List Char} (front : cs = c :: more)
    {x : Char} (other : isBare x = false ∧ x ≠ '"' ∧ x ≠ '\'') : c ≠ x := by
  obtain ⟨c, more, rfl, known⟩ := h.head
  cases front
  rintro rfl
  simp [other] at known

theorem spaced_append (h : Spaced cs n) (ends : EndsName rest) :
    (spaces *> name <* spaces) (cs ++ rest) = .ok (n, rest) := by
  obtain ⟨front, h, behind⟩ := h
  rename_i a cs b
  have noBlank : StopsAt isSpace (cs ++ (b ++ rest)) := by
    obtain ⟨c, more, same, -⟩ := h.head
    have first {x : Char} := h.head_ne same (x := x)
    subst same
    have noBlank : c ≠ ' ' := first (by decide)
    have noTab : c ≠ '\t' := first (by decide)
    exact stopsAt_cons (by simp [isSpace, noBlank, noTab])
  have noName : StopsAt isBare (b ++ rest) := by
    cases b with
    | nil => exact ends.stopsAt (by decide)
    | cons b bs =>
      rcases behind b List.mem_cons_self with rfl | rfl <;> exact stopsAt_cons (by decide)
  simp only [List.append_assoc]
  have named := (seqRight_of_ok (spaces_append front noBlank)).trans (name_append h noName)
  exact seqLeft_of_ok named (spaces_append behind (ends.stopsAt (by decide)))

theorem key_of_names {names : List String} (few : names.length < depth)
    (h : (spaces *> name <* spaces) cs = .ok (n, rest)) {mid : List Char}
    (more : Taken (mark '.' *> (spaces *> name <* spaces)) rest names mid) :
    key cs = .ok (⟨n, names⟩, mid) := by
  have names : separated (spaces *> name <* spaces) '.' cs = .ok ((n, names), mid) :=
    (bind_of_ok h).trans ((bind_of_ok (many_of_taken more)).trans rfl)
  exact convert_of_ok (named_of_ok _ names) (if_pos few)

/-- **A key of one name is read.** -/
theorem key_append (h : Spaced cs n) {c : Char} (ends : c ∈ ['=', ']']) :
    key (cs ++ c :: rest) = .ok (⟨n, []⟩, c :: rest) := by
  have behind : EndsName (c :: rest) := ⟨c, rest, rfl, by revert ends; simp +contextual; tauto⟩
  have noPoint : (c :: rest).head? ≠ some '.' := by
    rintro ⟨⟩
    exact absurd ends (by decide)
  exact key_of_names (by decide) (spaced_append h behind) (.stop (declines_mark noPoint).seqRight)

theorem key_dotted {cs' : List Char} {m : String} (h : Spaced cs m) (h' : Spaced cs' n) :
    key (cs ++ '.' :: (cs' ++ '=' :: rest)) = .ok (⟨m, [n]⟩, '=' :: rest) := by
  have second : (mark '.' *> (spaces *> name <* spaces)) ('.' :: (cs' ++ '=' :: rest)) =
      .ok (n, '=' :: rest) :=
    (seqRight_of_ok (mark_cons '.')).trans (spaced_append h' ⟨'=', rest, rfl, by decide⟩)
  have few : [n].length < depth := by
    rw [List.length_singleton]
    decide
  refine key_of_names few (spaced_append h ⟨'.', _, rfl, by decide⟩) ?_
  have shorter : ('=' :: rest).length < ('.' :: (cs' ++ '=' :: rest)).length := by
    simp only [List.length_cons, List.length_append]
    omega
  exact .more second shorter (.stop (declines_mark (by simp)).seqRight)

/-! ## Values of one piece -/

/-- What is read for a value. -/
def valueOf (g : Given) : Value :=
  match g with
  | .text _ => ⟨.string, g⟩
  | .integer _ => ⟨.integer, g⟩
  | _ => ⟨.inlineTable, g⟩

@[simp] theorem given_valueOf (g : Given) : (valueOf g).given = g := by
  cases g <;> rfl

theorem Quoted.head {said : List Char} (h : Quoted cs said) :
    ∃ c more, cs = c :: more ∧ (c = '"' ∨ c = '\'') := by
  cases h with
  | basic => exact ⟨'"', _, rfl, .inl rfl⟩
  | literal => exact ⟨'\'', _, rfl, .inr rfl⟩
  | lines known => exact ⟨_, _, rfl, known⟩

theorem Scalar.stopsAt (h : Scalar cs g) : StopsAt isSpace (cs ++ rest) := by
  cases h with
  | string h =>
    obtain ⟨c, more, rfl, rfl | rfl⟩ := h.head <;> exact stopsAt_cons (by decide)
  | whole h =>
    obtain ⟨c, more, rfl, known⟩ := h.head
    refine stopsAt_cons ?_
    rw [isSpace, Bool.or_eq_false_iff, beq_eq_false_iff_ne, beq_eq_false_iff_ne]
    constructor <;> (rintro rfl; revert known; decide)

/-- **A string or a whole number is read.** -/
theorem scalar_append (h : Scalar cs g) (ends : EndsValue rest) (inBrackets : Reader Value) :
    valueOr inBrackets (cs ++ rest) = .ok (valueOf g, rest) := by
  cases h with
  | string h =>
    have noQuote : ∀ c, rest.head? = some c → c ≠ '"' ∧ c ≠ '\'' := fun c hc => by
      have none : behindValue.any (['"', '\''].contains ·) = false := by decide
      simpa using ends.stopsAt none c hc
    have read := text_append h noQuote
    obtain ⟨c, more, rfl, quote⟩ := h.head
    rw [valueOr, bind_of_ok next_apply]
    simp only [List.cons_append, List.head?_cons]
    rw [if_pos quote]
    exact map_of_ok (map_of_ok read)
  | whole h low high =>
    have read := number_append h low high ends
    obtain ⟨c, more, rfl, known⟩ := h.head
    have other {x : Char} (none : x ≠ '+' ∧ x ≠ '-' ∧ x.isDigit = false) : c ≠ x := by
      rintro rfl
      simp [none] at known
    rw [valueOr, bind_of_ok next_apply]
    simp only [List.cons_append, List.head?_cons]
    rw [if_neg (by simp [other (x := '"') (by decide), other (x := '\'') (by decide)]),
      if_neg (by simp [other (x := '[') (by decide), other (x := '\x7b') (by decide)]),
      if_pos known]
    exact read

theorem value_scalar (h : Scalar cs g) (ends : EndsValue rest) (levels : Nat) :
    value levels (cs ++ rest) = .ok (valueOf g, rest) := by
  cases levels <;> exact scalar_append h ends _

/-! ## Tables in braces -/

theorem pairInBraces_append {key a b : List Char} {c : Char} (name : Spaced key n)
    (front : Blanks a) (h : Scalar cs g) (behind : Blanks b) (ends : c ∈ [',', '\x7d'])
    (levels : Nat) :
    pairInBraces (value levels) (key ++ '=' :: (a ++ (cs ++ (b ++ c :: rest)))) =
      .ok ((⟨n, []⟩, valueOf g), c :: rest) := by
  have noBlank : StopsAt isSpace (c :: rest) := by
    have none : [',', '\x7d'].any isSpace = false := by decide
    exact stopsAt_cons (by simpa using List.any_eq_false.1 none c ends)
  have endsValue : EndsValue (b ++ c :: rest) := by
    have known : [',', '\x7d'].all behindValue.contains = true := by decide
    refine behind.endsValue ?_
    rintro _ ⟨⟩
    exact List.contains_iff_mem.1 (List.all_eq_true.1 known c ends)
  refine (bind_of_ok (key_append name (by decide))).trans (commit_of_ok ?_)
  refine (bind_of_ok (expecting_of_ok _ (mark_cons '='))).trans ?_
  refine (bind_of_ok (spaces_append front h.stopsAt)).trans ?_
  refine (bind_of_ok (value_scalar h endsValue levels)).trans ?_
  exact (bind_of_ok (spaces_append behind noBlank)).trans rfl

/-- What is read for a part of a table in braces. -/
def pairOf (part : String × Given) : Key × Value := (⟨part.1, []⟩, valueOf part.2)

theorem Parts.reads {parts : List (String × Given)} (h : Parts cs parts) (rest : List Char)
    (levels : Nat) :
    ∃ first others mid, parts = first :: others ∧
      pairInBraces (value levels) (cs ++ '\x7d' :: rest) = .ok (pairOf first, mid) ∧
      Taken (mark ',' *> pairInBraces (value levels)) mid (others.map pairOf) ('\x7d' :: rest) ∧
      mid.length ≤ (cs ++ '\x7d' :: rest).length := by
  induction h with
  | last name front h behind =>
    refine ⟨_, [], _, rfl, ?_, .stop (declines_mark (by simp)).seqRight, ?_⟩
    · simpa [pairOf] using pairInBraces_append name front h behind (by decide) levels
    · simp only [List.length_append]
      omega
  | @cons key n a cs g b more parts name front h behind _ ih =>
    obtain ⟨first, others, mid, rfl, read, taken, shorter⟩ := ih
    have next : (mark ',' *> pairInBraces (value levels)) (',' :: (more ++ '\x7d' :: rest)) =
        .ok (pairOf first, mid) := (seqRight_of_ok (mark_cons ',')).trans read
    refine ⟨_, first :: others, ',' :: (more ++ '\x7d' :: rest), rfl, ?_, .more next ?_ taken, ?_⟩
    · simpa [pairOf] using pairInBraces_append name front h behind (by decide) levels
    · simp only [List.length_cons]
      omega
    · simp only [List.length_append, List.length_cons]
      omega

/-! ## New keys -/

theorem Nodes.put_of_lookup_none {nodes : Nodes} {node : Node} (new : nodes.lookup n = none) :
    nodes.put n node = nodes ++ [(n, node)] := by
  induction nodes with
  | nil => rfl
  | cons entry nodes ih =>
    obtain ⟨other, old⟩ := entry
    rw [List.lookup_cons] at new
    split at new
    · cases new
    · rename_i apart
      have differs : ¬ other = n := by
        rintro rfl
        simp at apart
      rw [Nodes.put, if_neg differs, ih new]
      rfl

theorem Nodes.assignIn_new {nodes : Nodes} (table : Option (List String)) (value : Value)
    (new : nodes.lookup n = none) :
    nodes.assignIn table ⟨n, []⟩ value = .ok (nodes ++ [(n, .value value)]) := by
  simp [assignIn, change, Key.path, Key.last, new, Nodes.put_of_lookup_none new]

theorem lookup_eq_none {α : Type} {entries : List (String × α)} (h : n ∉ entries.map Prod.fst) :
    entries.lookup n = none := by
  rw [List.lookup_eq_none_iff]
  intro entry mem
  rw [bne_iff_ne]
  rintro rfl
  exact h (List.mem_map_of_mem mem)

/-- The nodes for the parts of a table in braces. -/
def nodesOf (parts : List (String × Given)) : Nodes :=
  parts.map fun part => (part.1, .value (valueOf part.2))

@[simp] theorem givenEntries_nodesOf (parts : List (String × Given)) :
    givenEntries (nodesOf parts) = parts := by
  induction parts with
  | nil => rfl
  | cons part parts ih =>
    rw [nodesOf, List.map_cons, givenEntries]
    simpa [Node.given, nodesOf] using ih

theorem ofPairs_append (parts before : List (String × Given))
    (distinct : ((before ++ parts).map Prod.fst).Nodup) :
    (parts.map pairOf).foldlM (fun nodes pair => Nodes.assignInBraces nodes pair.1 pair.2)
      (nodesOf before) = .ok (nodesOf (before ++ parts)) := by
  induction parts generalizing before with
  | nil =>
    rw [List.append_nil]
    rfl
  | cons part parts ih =>
    have later := List.append_cons before part parts ▸ distinct
    have new : (nodesOf before).lookup part.1 = none := by
      refine lookup_eq_none fun mem => ?_
      rw [nodesOf, List.map_map] at mem
      rw [List.map_append, List.nodup_append] at distinct
      exact distinct.2.2 _ mem _ List.mem_cons_self rfl
    have first : Nodes.assignInBraces (nodesOf before) ⟨part.1, []⟩ (valueOf part.2) =
        .ok (nodesOf (before ++ [part])) := by
      rw [Nodes.assignInBraces, Nodes.assignIn_new none (valueOf part.2) new]
      simp [Except.mapError, nodesOf]
    rw [List.map_cons, List.foldlM_cons, pairOf, first, List.append_cons before part parts]
    exact ih _ later

theorem ofPairs_parts {parts : List (String × Given)} (distinct : (parts.map Prod.fst).Nodup) :
    ofPairs (parts.map pairOf) = .ok (nodesOf parts) := by
  rw [ofPairs]
  exact congrArg _ (ofPairs_append parts [] distinct)

/-- **A value is read.** A table in braces must not have a name twice. -/
theorem value_append (h : Content cs g)
    (distinct : ∀ parts, g = .table parts → (parts.map Prod.fst).Nodup) (ends : EndsValue rest)
    (levels : Nat) : value (levels + 1) (cs ++ rest) = .ok (valueOf g, rest) := by
  have inBraces {inner : List Char} {parts : List (String × Given)} {found : List (Key × Value)}
      (read : pairs (value levels) (inner ++ '\x7d' :: rest) = .ok (found, '\x7d' :: rest))
      (same : found = parts.map pairOf) (distinct : (parts.map Prod.fst).Nodup) :
      value (levels + 1) ('\x7b' :: (inner ++ ['\x7d']) ++ rest) =
        .ok (valueOf (.table parts), rest) := by
    subst same
    have noList : (list (value levels)).Declines ('\x7b' :: (inner ++ '\x7d' :: rest)) :=
      (declines_mark (by simp)).bind
    have table := commit_of_ok (convert_of_ok read (ofPairs_parts distinct))
    have mark : Reader.mark '\x7d' ('\x7d' :: rest) = .ok ((), rest) := mark_cons '\x7d'
    have closed := expecting_of_ok ["`\x7d`"] (named_of_ok "inline table" (commit_of_ok mark))
    rw [value, valueOr, List.cons_append, List.append_assoc, bind_of_ok next_apply]
    simp only [List.head?_cons]
    rw [if_neg (by decide), if_pos (by decide)]
    refine noList.orElse_eq.trans ?_
    refine (bind_of_ok (mark_cons _)).trans ((bind_of_ok table).trans ?_)
    refine (bind_of_ok closed).trans ?_
    rw [givenEntries_nodesOf]
    rfl
  cases h with
  | scalar h => exact value_scalar h ends _
  | @empty a blank =>
    have noBlank : StopsAt isSpace ('\x7d' :: rest) := stopsAt_cons (by decide)
    have noName : name.Declines ('\x7d' :: rest) :=
      .of_bind next_apply (declines_run1 (stopsAt_cons (by decide))).map
    have noSpaced : (spaces *> name <* spaces).Declines (a ++ '\x7d' :: rest) :=
      (Declines.of_seqRight (spaces_append blank noBlank) noName).seqLeft
    have noPairs : (separated (pairInBraces (value levels)) ',').Declines (a ++ '\x7d' :: rest) :=
      (noSpaced.bind.named _).convert.bind.bind
    have none : pairs (value levels) (a ++ '\x7d' :: rest) = .ok ([], '\x7d' :: rest) :=
      (bind_of_ok noPairs.maybe).trans ((bind_of_ok (spaces_append blank noBlank)).trans rfl)
    exact inBraces none rfl .nil
  | @parts inner _ h =>
    obtain ⟨first, others, mid, same, read, taken, -⟩ := h.reads rest levels
    have found : separated (pairInBraces (value levels)) ',' (inner ++ '\x7d' :: rest) =
        .ok ((pairOf first, others.map pairOf), '\x7d' :: rest) :=
      (bind_of_ok read).trans ((bind_of_ok (many_of_taken taken)).trans rfl)
    refine inBraces ?_ (by rw [same, List.map_cons]) (distinct _ rfl)
    refine (bind_of_ok (maybe_of_ok found)).trans ?_
    exact (bind_of_ok (spaces_none (stopsAt_cons (by decide)))).trans rfl

end ConversationMemory.Toml
