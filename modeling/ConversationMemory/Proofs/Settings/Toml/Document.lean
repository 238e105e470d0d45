import ConversationMemory.Proofs.Settings.Sets
import ConversationMemory.Proofs.Settings.Toml.Line

/-!
# Whole texts are read

A text of the grammar that sets each key at most once is read, and the entries read set the same,
though not in the order of the text: what belongs to one table comes together.

* `Toml.Stands`: the tables of a document are those of the grammar. `Toml.Amounts`: it sets so much.
* `Amounts.add`, `Amounts.extend`: a new node, and a part in a table that stands.
* `Reads`: what a line makes of a document; `Lines.steps`: so all lines are read.
* **`parse_of_says`**: a whole text.
-/

namespace ConversationMemory.Toml

open Reader Settings

variable {cs rest : List Char} {n : String} {g : Given} {nodes : Nodes} {node : Node}
  {sets more : List (Settings.Key × Settings.Value)}

/-! ## What nodes set -/

/-- Nodes set keys, in some order. -/
def Amounts (nodes : Nodes) (sets : List (Settings.Key × Settings.Value)) : Prop :=
  ∃ sets', sets? (givenEntries nodes) = some sets' ∧ sets'.Perm sets

theorem givenEntries_eq_map (nodes : Nodes) :
    givenEntries nodes = nodes.map fun entry => (entry.1, entry.2.given) := by
  induction nodes with
  | nil => rfl
  | cons entry nodes ih =>
    obtain ⟨name, node⟩ := entry
    rw [givenEntries, List.map_cons, ih]

theorem Amounts.add (h : Amounts nodes sets) (set : entrySets? n node.given = some more) :
    Amounts (nodes ++ [(n, node)]) (sets ++ more) := by
  obtain ⟨sets', all, perm⟩ := h
  refine ⟨sets' ++ more, ?_, perm.append_right more⟩
  rw [givenEntries_eq_map, List.map_append, ← givenEntries_eq_map]
  exact sets?_append.2 ⟨sets', more, all, sets?_cons.2 ⟨more, [], set, rfl, by simp⟩, rfl⟩

theorem exists_put_of_lookup (found : nodes.lookup n = some node) :
    ∃ before behind, nodes = before ++ (n, node) :: behind ∧
      ∀ node', nodes.put n node' = before ++ (n, node') :: behind := by
  induction nodes with
  | nil => cases found
  | cons entry nodes ih =>
    obtain ⟨other, old⟩ := entry
    rw [List.lookup_cons] at found
    by_cases same : n = other
    · subst same
      obtain rfl : old = node := by simpa using found
      exact ⟨[], nodes, rfl, fun node' => if_pos rfl⟩
    · have apart : (n == other) = false := by simpa using same
      rw [apart] at found
      obtain ⟨before, behind, rfl, put⟩ := ih found
      refine ⟨(other, old) :: before, behind, rfl, fun node' => ?_⟩
      rw [Nodes.put, if_neg (Ne.symm same), put]
      rfl

theorem Amounts.extend {form : Form} {entries : Nodes} {part : String} (h : Amounts nodes sets)
    (found : nodes.lookup n = some (.table form entries))
    (set : entrySets? n (.table [(part, g)]) = some more)
    (distinct : ((sets ++ more).map Prod.fst).Nodup) :
    entries.lookup part = none ∧
      Amounts (nodes.put n (.table form (entries ++ [(part, .value (valueOf g))])))
        (sets ++ more) := by
  obtain ⟨sets', all, perm⟩ := h
  obtain ⟨before, behind, rfl, put⟩ := exists_put_of_lookup found
  rw [givenEntries_eq_map, List.map_append, List.map_cons] at all
  obtain ⟨first, _, front, inner, rfl⟩ := sets?_append.1 all
  obtain ⟨second, last, table, back, rfl⟩ := sets?_cons.1 inner
  obtain ⟨sectionName, path, parts⟩ := entrySets?_table.1 table
  obtain ⟨sectionName', path', one⟩ := entrySets?_table.1 set
  obtain rfl : sectionName = sectionName' := by
    rw [path] at path'
    cases path'
    rfl
  constructor
  · refine lookup_eq_none fun mem => ?_
    obtain ⟨⟨name, old⟩, stands, rfl⟩ := List.mem_map.1 mem
    have given : (name, old.given) ∈ givenEntries entries := by
      rw [givenEntries_eq_map]
      exact List.mem_map.2 ⟨(name, old), stands, rfl⟩
    obtain ⟨there, mem, assigned⟩ := mem_partSets? parts given
    obtain ⟨new, _, assigned', -, rfl⟩ := partSets?_cons.1 one
    rw [List.map_append, List.nodup_append] at distinct
    refine distinct.2.2 there.1 (List.mem_map_of_mem (perm.mem_iff.1 ?_)) new.1 (by simp)
      (assignment?_key assigned assigned')
    simp [mem]
  · refine ⟨first ++ ((second ++ more) ++ last), ?_, ?_⟩
    · rw [put, givenEntries_eq_map, List.map_append, List.map_cons]
      refine sets?_append.2 ⟨first, _, front, sets?_cons.2 ⟨second ++ more, last, ?_, back, rfl⟩, rfl⟩
      refine entrySets?_table.2 ⟨sectionName, path, ?_⟩
      rw [givenEntries_eq_map, List.map_append, ← givenEntries_eq_map]
      simpa [Node.given] using partSets?_append parts one
    · refine .trans ?_ (perm.append_right more)
      rw [List.append_assoc, List.append_assoc, List.append_assoc]
      exact (List.perm_append_comm.append_left second).append_left first

/-! ## Keys in the tables -/

theorem lookup_put (node : Node) (m : String) :
    (nodes.put n node).lookup m = if m = n then some node else nodes.lookup m := by
  induction nodes with
  | nil => by_cases same : m = n <;> simp [Nodes.put, List.lookup_cons, same, beq_false_of_ne]
  | cons entry nodes ih =>
    obtain ⟨other, old⟩ := entry
    rw [Nodes.put]
    by_cases same : other = n
    · subst same
      by_cases here : m = other <;> simp [List.lookup_cons, here, beq_false_of_ne]
    · by_cases here : m = other
      · subst here
        simp [same]
      · simp [List.lookup_cons, same, beq_false_of_ne here, ih]

theorem Nodes.openTable_new (new : nodes.lookup n = none) :
    nodes.openTable ⟨n, []⟩ = .ok (nodes.put n (.table .header [])) := by
  simp [openTable, change, Key.path, Key.last, new]

theorem Nodes.assign_root {header : List String} (value : Value) (root : header = [])
    (new : nodes.lookup n = none) :
    nodes.assign header ⟨n, []⟩ value = .ok (nodes.put n (.value value)) := by
  rw [root, put_of_lookup_none new]
  exact assignIn_new _ value new

theorem Nodes.assign_header {header : List String} {h : String} {entries : Nodes} (value : Value)
    (under : header = [h]) (found : nodes.lookup h = some (.table .header entries))
    (new : entries.lookup n = none) :
    nodes.assign header ⟨n, []⟩ value =
      .ok (nodes.put h (.table .header (entries ++ [(n, .value value)]))) := by
  simp only [under, assign, change, found]
  rw [assignIn_new _ value new]
  rfl

theorem Nodes.assign_dotted {header : List String} {s : String} {entries : Nodes} (value : Value)
    (root : header = [])
    (found : nodes.lookup s = none ∧ entries = [] ∨ nodes.lookup s = some (.table .dotted entries))
    (new : entries.lookup n = none) :
    nodes.assign header ⟨s, [n]⟩ value =
      .ok (nodes.put s (.table .dotted (entries ++ [(n, .value value)]))) := by
  subst root
  rcases found with ⟨none, rfl⟩ | found
  · simp [assign, assignIn, change, Key.path, Key.last, none, endsDotted, Nodes.put]
  · simp [assign, assignIn, change, Key.path, Key.last, found, endsDotted, new,
      put_of_lookup_none new]

/-- The tables of a document are those of the grammar. -/
structure Stands (tables : Tables) (document : Document) : Prop where
  header : document.header = tables.header.toList
  opened : ∀ n, tables.header = some n →
    ∃ entries, document.nodes.lookup n = some (.table .header entries)
  known : ∀ n node, document.nodes.lookup n = some node →
    n ∈ tables.names ∨ n ∈ tables.dotted ∧ ∃ entries, node = .table .dotted entries

variable {tables : Tables} {document document' : Document}

theorem Stands.lookup_eq_none (stands : Stands tables document) (free : tables.IsFree n) :
    document.nodes.lookup n = none := by
  cases found : document.nodes.lookup n with
  | none => rfl
  | some node =>
    rcases stands.known n node found with closed | ⟨dotted, -⟩
    · exact absurd closed free.1
    · exact absurd dotted free.2

theorem Stands.put_new (stands : Stands tables document) (node : Node) (header : Option String)
    (opened : ∀ m, header = some m →
      ∃ entries, (document.nodes.put n node).lookup m = some (.table .header entries)) :
    Stands { tables with names := n :: tables.names, header }
      ⟨document.nodes.put n node, header.toList⟩ where
  header := rfl
  opened := opened
  known m other found := by
    rw [lookup_put] at found
    split at found
    · subst m
      exact .inl List.mem_cons_self
    · exact (stands.known m other found).imp_left (List.mem_cons_of_mem n)

theorem Stands.put_header {above : String} (stands : Stands tables document)
    (under : tables.header = some above) (entries : Nodes) :
    Stands tables { document with nodes := document.nodes.put above (.table .header entries) } where
  header := stands.header
  opened m same := by
    obtain rfl : above = m := Option.some.inj (under.symm.trans same)
    exact ⟨entries, by rw [lookup_put, if_pos rfl]⟩
  known m other found := by
    rw [lookup_put] at found
    split at found
    · subst m
      obtain ⟨old, there⟩ := stands.opened above under
      rcases stands.known above _ there with closed | ⟨-, _, ⟨⟩⟩
      exact .inl closed
    · exact stands.known m other found

theorem Stands.put_dotted {s : String} (stands : Stands tables document)
    (root : tables.header = none) (entries : Nodes) :
    Stands { tables with dotted := s :: tables.dotted }
      { document with nodes := document.nodes.put s (.table .dotted entries) } where
  header := stands.header
  opened m same := by
    rw [root] at same
    cases same
  known m other found := by
    rw [lookup_put] at found
    split at found
    · subst m
      exact .inr ⟨List.mem_cons_self, entries, (Option.some.inj found).symm⟩
    · exact (stands.known m other found).imp_right fun h => ⟨List.mem_cons_of_mem s h.1, h.2⟩

/-! ## Lines -/

theorem spaces_eq : spaces cs = .ok ((), cs.dropWhile isSpace) := by
  rw [spaces]
  exact discard_of_ok (by rw [run, List.span_eq_takeWhile_dropWhile])

theorem Blanks.dropWhile_append {bs : List Char} (h : Blanks bs) :
    (bs ++ cs).dropWhile Toml.isSpace = cs.dropWhile Toml.isSpace :=
  List.dropWhile_append_of_pos h.isSpace

theorem dropWhile_of_stopsAt (h : StopsAt isSpace cs) : cs.dropWhile isSpace = cs := by
  cases cs with
  | nil => rfl
  | cons c cs => rw [List.dropWhile_cons, h c rfl]; rfl

theorem Spaced.head {key : List Char} (h : Spaced key n) {x : Char}
    (other : isBare x = false ∧ x ∉ ['"', '\'', ' ', '\t']) :
    ∃ c more, key = c :: more ∧ c ≠ x := by
  obtain ⟨front, h, behind⟩ := h
  rename_i a cs b
  simp only [List.mem_cons, List.not_mem_nil, or_false, not_or] at other
  cases a with
  | nil =>
    obtain ⟨c, more, same, -⟩ := h.head
    exact ⟨c, more ++ b, by simp [same], h.head_ne same ⟨other.1, other.2.1, other.2.2.1⟩⟩
  | cons c a =>
    refine ⟨c, a ++ (cs ++ b), rfl, ?_⟩
    rintro rfl
    rcases front c List.mem_cons_self with rfl | rfl <;> simp at other

theorem Spaced.front {key : List Char} (h : Spaced key n) :
    ∃ c more, Spaced (c :: more) n ∧ c ∉ ['#', '[', '\n', '\r'] ∧
      ∀ rest, (key ++ rest).dropWhile isSpace = c :: more ++ rest := by
  obtain ⟨front, h, behind⟩ := h
  rename_i a cs b
  obtain ⟨c, more, rfl, known⟩ := h.head
  have other {x : Char} (none : isBare x = false ∧ x ≠ '"' ∧ x ≠ '\'') : c ≠ x := h.head_ne rfl none
  have spaced : Spaced ([] ++ (c :: more ++ b)) n := .mk (by rintro _ ⟨⟩) h behind
  refine ⟨c, more ++ b, spaced, ?_, fun rest => ?_⟩
  · simp [other (x := '#') (by decide), other (x := '[') (by decide), other (x := '\n') (by decide),
      other (x := '\r') (by decide)]
  · rw [List.append_assoc, Blanks.dropWhile_append front]
    refine (dropWhile_of_stopsAt (stopsAt_cons ?_)).trans (by simp)
    simp [isSpace, other (x := ' ') (by decide), other (x := '\t') (by decide)]

theorem Content.stopsAt (h : Content cs g) : StopsAt isSpace (cs ++ rest) := by
  cases h with
  | scalar h => exact h.stopsAt
  | empty | parts => exact stopsAt_cons (by decide)

theorem line_pair {key : Key} {c : Char} {text a tail : List Char} {g : Given}
    (known : c ∉ ['#', '[', '\n', '\r'])
    (named : Toml.key (c :: text) = .ok (key, '=' :: (a ++ (cs ++ (tail ++ rest)))))
    (blank : Blanks a) (h : Content cs g)
    (distinct : ∀ parts, g = .table parts → (parts.map Prod.fst).Nodup) (trail : Trail rest tail)
    (assigned : document.nodes.assign document.header key (valueOf g) = .ok nodes) :
    line document (c :: text) = .ok ({ document with nodes }, rest) := by
  have read : pair document (c :: text) = .ok ({ document with nodes }, rest) := by
    have value := value_append h distinct trail.endsValue 78
    refine convert_of_ok (b := { document with nodes }) (a := (key, valueOf g)) ?_ ?_
    · refine (bind_of_ok named).trans (commit_of_ok ?_)
      refine (bind_of_ok (expecting_of_ok _ (mark_cons '='))).trans ?_
      refine (bind_of_ok (spaces_append blank h.stopsAt)).trans ?_
      refine (bind_of_ok value).trans ?_
      exact (bind_of_ok (expecting_of_ok _ (restOfLine_append trail))).trans rfl
    · simp only [assigned]
      rfl
  simp only [List.mem_cons, List.not_mem_nil, or_false, not_or] at known
  rw [line, bind_of_ok next_apply]
  simpa [known] using commit_of_ok read

theorem line_header {key tail : List Char} (name : Spaced key n) (trail : Trail rest tail)
    (new : document.nodes.lookup n = none) :
    line document ('[' :: (key ++ ']' :: (tail ++ rest))) =
      .ok (⟨document.nodes.put n (.table .header []), [n]⟩, rest) := by
  have opening : word "[" ('[' :: (key ++ ']' :: (tail ++ rest))) =
      .ok ((), key ++ ']' :: (tail ++ rest)) := word_append "["
  have closing : word "]" (']' :: (tail ++ rest)) = .ok ((), tail ++ rest) := word_append "]"
  have read : headerIn "[" "]" Nodes.openTable document ('[' :: (key ++ ']' :: (tail ++ rest))) =
      .ok (⟨document.nodes.put n (.table .header []), [n]⟩, rest) := by
    refine convert_of_ok (a := ⟨n, []⟩) ?_ ?_
    · refine (bind_of_ok opening).trans ?_
      refine (bind_of_ok (commit_of_ok (key_append name (by decide)))).trans ?_
      refine (bind_of_ok (expecting_of_ok _ (commit_of_ok closing))).trans ?_
      exact (bind_of_ok (expecting_of_ok _ (commit_of_ok (restOfLine_append trail)))).trans rfl
    · rw [Nodes.openTable_new new]
      rfl
  -- a key does not begin with a bracket, which would make the table one of a list
  have single : header document ('[' :: (key ++ ']' :: (tail ++ rest))) =
      .ok (⟨document.nodes.put n (.table .header []), [n]⟩, rest) := by
    obtain ⟨c, more, rfl, other⟩ := name.head (x := '[') (by decide)
    refine named_of_ok _ ?_
    simpa [other] using read
  rw [line, bind_of_ok next_apply]
  exact commit_of_ok single

theorem Trail.passed {tail : List Char} (h : Trail rest tail) (document : Document) :
    (tail ++ rest).dropWhile isSpace = rest.dropWhile isSpace ∨
      line document ((tail ++ rest).dropWhile isSpace) = .ok (document, rest) ∧
        rest.length < ((tail ++ rest).dropWhile isSpace).length := by
  have commented {cs : List Char} (ended : List Char) (visible : ∀ c ∈ cs, Visible c)
      (stops : StopsAt isVisible (ended ++ rest))
      (ends : lineEnd (ended ++ rest) = .ok ((), rest)) :
      line document ('#' :: cs ++ (ended ++ rest)) = .ok (document, rest) := by
    have read := (seqRight_of_ok (comment_append visible stops)).trans ends
    rw [line, bind_of_ok next_apply]
    exact (seqRight_of_ok (commit_of_ok read)).trans rfl
  have marked (cs : List Char) : ('#' :: cs).dropWhile isSpace = '#' :: cs :=
    dropWhile_of_stopsAt (stopsAt_cons (by decide))
  cases h with
  | @ended a c ended blank comment newline =>
    right
    rw [List.append_assoc, blank.dropWhile_append]
    cases comment with
    | absent =>
      have ends : StopsAt isSpace (ended ++ rest) := newline.stopsAt (by decide) (by decide)
      rw [List.nil_append, dropWhile_of_stopsAt ends]
      constructor
      · rw [line, bind_of_ok next_apply]
        have read : (Toml.newline *> pure document) (ended ++ rest) = .ok (document, rest) :=
          (seqRight_of_ok (newline_append newline)).trans rfl
        obtain ⟨c, more, rfl, rfl | rfl⟩ := newline.head <;> exact read
      · have := List.length_pos_iff.2 newline.ne_nil
        rw [List.length_append]
        omega
    | @marked cs visible =>
      have stops : StopsAt isVisible (ended ++ rest) := newline.stopsAt (by decide) (by decide)
      rw [List.append_assoc, List.cons_append, marked]
      refine ⟨commented _ visible stops (orElse_of_ok (newline_append newline)), ?_⟩
      simp only [List.length_cons, List.length_append]
      omega
  | @last a c blank comment none =>
    subst none
    rw [List.append_assoc, blank.dropWhile_append]
    cases comment with
    | absent => exact .inl rfl
    | @marked cs visible =>
      right
      rw [List.append_nil, marked]
      have ends : lineEnd [] = .ok ((), []) := (declines_newline (by simp)).orElse_eq
      exact ⟨by simpa using commented [] visible stopsAt_nil ends, by simp⟩

/-! ## Lines change the document -/

/-- A line in front of a rest is read, into a document with these tables that sets these keys. -/
structure Reads (document : Document) (text rest : List Char) (tables : Tables)
    (sets : List (Settings.Key × Settings.Value)) (document' : Document) : Prop where
  read : line document (text.dropWhile isSpace) = .ok (document', rest)
  shorter : rest.length < (text.dropWhile isSpace).length
  stands : Stands tables document'
  amounts : Amounts document'.nodes sets

section

variable {a key key' tail : List Char}

theorem Scalar.distinct (h : Scalar cs g) (parts : List (String × Given))
    (same : g = .table parts) : (parts.map Prod.fst).Nodup := by
  subst same
  cases h

theorem line_named (name : Spaced key n) (blank : Blanks a) (h : Content cs g)
    (distinct : ∀ parts, g = .table parts → (parts.map Prod.fst).Nodup) (trail : Trail rest tail)
    (assigned : document.nodes.assign document.header ⟨n, []⟩ (valueOf g) = .ok nodes) :
    line document ((key ++ '=' :: (a ++ (cs ++ (tail ++ rest)))).dropWhile isSpace) =
        .ok ({ document with nodes }, rest) ∧
      rest.length < ((key ++ '=' :: (a ++ (cs ++ (tail ++ rest)))).dropWhile isSpace).length := by
  obtain ⟨c, more, front, known, dropped⟩ := name.front
  rw [dropped]
  refine ⟨line_pair known (key_append front (by decide)) blank h distinct trail assigned, ?_⟩
  simp only [List.length_cons, List.length_append]
  omega

theorem reads_header (stands : Stands tables document) (amounts : Amounts document.nodes sets)
    (blank : Blanks a) (name : Spaced key n) (free : tables.IsFree n) (trail : Trail rest tail)
    (set : entrySets? n (.table []) = some more) :
    ∃ document', Reads document (a ++ '[' :: (key ++ ']' :: (tail ++ rest))) rest
      { tables with names := n :: tables.names, header := some n } (sets ++ more) document' := by
  have new := stands.lookup_eq_none free
  have dropped : (a ++ '[' :: (key ++ ']' :: (tail ++ rest))).dropWhile isSpace =
      '[' :: (key ++ ']' :: (tail ++ rest)) := by
    rw [blank.dropWhile_append, dropWhile_of_stopsAt (stopsAt_cons (by decide))]
  refine ⟨_, ?_, ?_, stands.put_new (.table .header []) (some n) ?_, ?_⟩
  · rw [dropped]
    exact line_header name trail new
  · rw [dropped]
    simp only [List.length_cons, List.length_append]
    omega
  · rintro _ ⟨⟩
    exact ⟨[], by rw [lookup_put, if_pos rfl]⟩
  · rw [Nodes.put_of_lookup_none new]
    exact amounts.add set

theorem reads_part {above : String} (stands : Stands tables document)
    (amounts : Amounts document.nodes sets) (under : tables.header = some above)
    (name : Spaced key n) (blank : Blanks a) (value : Scalar cs g) (trail : Trail rest tail)
    (set : entrySets? above (.table [(n, g)]) = some more)
    (distinct : ((sets ++ more).map Prod.fst).Nodup) :
    ∃ document', Reads document (key ++ '=' :: (a ++ (cs ++ (tail ++ rest)))) rest tables
      (sets ++ more) document' := by
  obtain ⟨parts, found⟩ := stands.opened above under
  obtain ⟨new, amounts'⟩ := amounts.extend found set distinct
  have root : document.header = [above] := by rw [stands.header, under]; rfl
  have assigned := Nodes.assign_header (valueOf g) root found new
  obtain ⟨read, shorter⟩ := line_named name blank (.scalar value) value.distinct trail assigned
  exact ⟨_, read, shorter, stands.put_header under _, amounts'⟩

theorem reads_value (stands : Stands tables document) (amounts : Amounts document.nodes sets)
    (root : tables.header = none) (name : Spaced key n) (free : tables.IsFree n) (blank : Blanks a)
    (value : Content cs g) (trail : Trail rest tail) (set : entrySets? n g = some more)
    (distinct : ((sets ++ more).map Prod.fst).Nodup) :
    ∃ document', Reads document (key ++ '=' :: (a ++ (cs ++ (tail ++ rest)))) rest
      { tables with names := n :: tables.names } (sets ++ more) document' := by
  have new := stands.lookup_eq_none free
  have top : document.header = [] := by rw [stands.header, root]; rfl
  have different (parts) (same : g = .table parts) : (parts.map Prod.fst).Nodup := by
    subst same
    obtain ⟨sectionName, -, set⟩ := entrySets?_table.1 set
    rw [List.map_append] at distinct
    exact names_nodup set (List.nodup_append.1 distinct).2.1
  have assigned := Nodes.assign_root (valueOf g) top new
  obtain ⟨read, shorter⟩ := line_named name blank value different trail assigned
  have stands' := stands.put_new (n := n) (.value (valueOf g)) none (by rintro _ ⟨⟩)
  rw [← root] at stands'
  refine ⟨_, read, shorter, by simpa [top, root] using stands', ?_⟩
  rw [Nodes.put_of_lookup_none new]
  exact amounts.add (by simpa [Node.given] using set)

/-- A table that a key with a point names stands already, with other parts, or comes about now. -/
theorem Amounts.dotted {s : String} (amounts : Amounts document.nodes sets)
    (stands : Stands tables document) (other : s ∉ tables.names)
    (set : entrySets? s (.table [(n, g)]) = some more)
    (distinct : ((sets ++ more).map Prod.fst).Nodup) :
    ∃ parts : Nodes,
      (document.nodes.lookup s = none ∧ parts = [] ∨
        document.nodes.lookup s = some (.table .dotted parts)) ∧
      parts.lookup n = none ∧
      Amounts (document.nodes.put s (.table .dotted (parts ++ [(n, .value (valueOf g))])))
        (sets ++ more) := by
  cases found : document.nodes.lookup s with
  | none =>
    refine ⟨[], .inl ⟨rfl, rfl⟩, rfl, ?_⟩
    rw [Nodes.put_of_lookup_none found]
    exact amounts.add (by simpa [Node.given, givenEntries] using set)
  | some node =>
    rcases stands.known s node found with closed | ⟨-, parts, rfl⟩
    · exact absurd closed other
    · exact ⟨parts, .inr rfl, amounts.extend found set distinct⟩

theorem reads_dotted {s : String} (stands : Stands tables document)
    (amounts : Amounts document.nodes sets) (root : tables.header = none) (table : Spaced key s)
    (other : s ∉ tables.names) (name : Spaced key' n) (blank : Blanks a) (value : Scalar cs g)
    (trail : Trail rest tail) (set : entrySets? s (.table [(n, g)]) = some more)
    (distinct : ((sets ++ more).map Prod.fst).Nodup) :
    ∃ document', Reads document (key ++ '.' :: (key' ++ '=' :: (a ++ (cs ++ (tail ++ rest))))) rest
      { tables with dotted := s :: tables.dotted } (sets ++ more) document' := by
  obtain ⟨parts, found, new, amounts'⟩ := amounts.dotted stands other set distinct
  obtain ⟨c, front, spaced, known, dropped⟩ := table.front
  have top : document.header = [] := by rw [stands.header, root]; rfl
  have assigned := Nodes.assign_dotted (valueOf g) top found new
  have named : Toml.key (c :: front ++ '.' :: (key' ++ '=' :: (a ++ (cs ++ (tail ++ rest))))) = _ :=
    key_dotted spaced name
  refine ⟨_, ?_, ?_, stands.put_dotted root _, amounts'⟩
  · rw [dropped]
    exact line_pair known named blank (.scalar value) value.distinct trail assigned
  · rw [dropped]
    simp only [List.length_cons, List.length_append]
    omega

end

/-! ## All lines -/

/-- A line, and the blanks behind it. -/
def nextLine (document : Document) : Reader Document := line document <* spaces

theorem steps_line {last : Document} (read : line document cs = .ok (document', rest))
    (shorter : rest.length < cs.length)
    (later : Steps nextLine document' (rest.dropWhile isSpace) last []) :
    Steps nextLine document cs last [] :=
  .more (seqLeft_of_ok read spaces_eq)
    (Nat.lt_of_le_of_lt (List.dropWhile_suffix isSpace).length_le shorter) later

theorem distinct_of_append {first later : List (Settings.Key × Settings.Value)}
    (distinct : ((sets ++ (first ++ later)).map Prod.fst).Nodup) :
    ((sets ++ first).map Prod.fst).Nodup ∧ ((sets ++ first ++ later).map Prod.fst).Nodup := by
  rw [← List.append_assoc] at distinct
  refine ⟨?_, distinct⟩
  rw [List.map_append] at distinct
  exact (List.nodup_append.1 distinct).1

/-- **All lines of the grammar are read**, and in the end the document amounts to what was set
before and what they set. -/
theorem Lines.steps {entries : List (String × Given)} (h : Lines tables cs entries)
    (stands : Stands tables document) (amounts : Amounts document.nodes sets)
    (set : sets? entries = some more) (distinct : ((sets ++ more).map Prod.fst).Nodup) :
    ∃ last, Steps nextLine document (cs.dropWhile isSpace) last [] ∧
      Amounts last.nodes (sets ++ more) := by
  induction h generalizing document sets more with
  | nil =>
    cases set
    have ends : (nextLine document).Declines [] :=
      (Declines.of_bind next_apply declines_fail).seqLeft
    exact ⟨document, .stop ends, by simpa using amounts⟩
  | empty trail _ ih =>
    obtain ⟨last, later, all⟩ := ih stands amounts set distinct
    rcases trail.passed document with same | ⟨read, shorter⟩
    · exact ⟨last, by rwa [same], all⟩
    · exact ⟨last, steps_line read shorter later, all⟩
  | header blank name free trail _ ih =>
    obtain ⟨first, behind, table, others, rfl⟩ := sets?_cons.1 set
    obtain ⟨-, distinct⟩ := distinct_of_append distinct
    obtain ⟨document', next⟩ := reads_header stands amounts blank name free trail table
    obtain ⟨last, later, all⟩ := ih next.stands next.amounts others distinct
    exact ⟨last, steps_line next.read next.shorter later, List.append_assoc .. ▸ all⟩
  | part under name blank value trail _ ih =>
    obtain ⟨first, behind, table, others, rfl⟩ := sets?_cons.1 set
    obtain ⟨once, distinct⟩ := distinct_of_append distinct
    obtain ⟨document', next⟩ := reads_part stands amounts under name blank value trail table once
    obtain ⟨last, later, all⟩ := ih next.stands next.amounts others distinct
    exact ⟨last, steps_line next.read next.shorter later, List.append_assoc .. ▸ all⟩
  | value root name free blank value trail _ ih =>
    obtain ⟨first, behind, entry, others, rfl⟩ := sets?_cons.1 set
    obtain ⟨once, distinct⟩ := distinct_of_append distinct
    obtain ⟨document', next⟩ :=
      reads_value stands amounts root name free blank value trail entry once
    obtain ⟨last, later, all⟩ := ih next.stands next.amounts others distinct
    exact ⟨last, steps_line next.read next.shorter later, List.append_assoc .. ▸ all⟩
  | dotted root table other name blank value trail _ ih =>
    obtain ⟨first, behind, entry, others, rfl⟩ := sets?_cons.1 set
    obtain ⟨once, distinct⟩ := distinct_of_append distinct
    obtain ⟨document', next⟩ :=
      reads_dotted stands amounts root table other name blank value trail entry once
    obtain ⟨last, later, all⟩ := ih next.stands next.amounts others distinct
    exact ⟨last, steps_line next.read next.shorter later, List.append_assoc .. ▸ all⟩

/-! ## Whole texts -/

theorem Lines.head_ne {entries : List (String × Given)} (h : Lines tables cs entries) :
    cs.head? ≠ some '\ufeff' := by
  have keyed {n : String} {key more : List Char} (name : Spaced key n) :
      (key ++ more).head? ≠ some '\ufeff' := by
    obtain ⟨c, others, rfl, other⟩ := name.head (x := '\ufeff') (by decide)
    exact fun same => other (Option.some.inj same)
  have blanks {a more : List Char} (blank : Blanks a) (h : more.head? ≠ some '\ufeff') :
      (a ++ more).head? ≠ some '\ufeff' := by
    cases a with
    | nil => exact h
    | cons b a =>
      rintro ⟨⟩
      exact absurd (blank '\ufeff' List.mem_cons_self) (by decide)
  have comments {c more : List Char} (comment : Comment c) (h : more.head? ≠ some '\ufeff') :
      (c ++ more).head? ≠ some '\ufeff' := by
    cases comment with
    | absent => exact h
    | marked => simp
  cases h with
  | nil => simp
  | empty trail =>
    cases trail with
    | ended blank comment newline =>
      rw [List.append_assoc, List.append_assoc]
      exact blanks blank (comments comment (newline.head_ne (by decide)))
    | last blank comment none =>
      subst none
      rw [List.append_assoc]
      exact blanks blank (comments comment (by simp))
  | header blank => exact blanks blank (by simp)
  | part _ name => exact keyed name
  | value _ name => exact keyed name
  | dotted _ table => exact keyed table

/-- **A text of the grammar that sets each key once is read**, and what is read sets the same. -/
theorem parse_of_says {text : String} {entries : List (String × Given)}
    (h : Says text.toList entries) (set : sets? entries = some sets)
    (distinct : (sets.map Prod.fst).Nodup) :
    ∃ read sets', parse text = .ok read ∧ sets? read = some sets' ∧ sets'.Perm sets := by
  have stands : Stands {} {} := ⟨rfl, by rintro _ ⟨⟩, by rintro _ _ ⟨⟩⟩
  have nothing : Amounts [] [] := ⟨[], rfl, .refl _⟩
  generalize letters : text.toList = all at h
  obtain ⟨cs, said, marked⟩ : ∃ cs, Lines {} cs entries ∧
      (discard (mark '\ufeff').maybe) all = .ok ((), cs) := by
    cases h with
    | plain h => exact ⟨_, h, discard_of_ok (declines_mark h.head_ne).maybe⟩
    | marked h => exact ⟨_, h, discard_of_ok (maybe_of_ok (mark_cons _))⟩
  obtain ⟨last, steps, sets', amounts, perm⟩ := said.steps stands nothing set distinct
  refine ⟨givenEntries last.nodes, sets', ?_, amounts, perm⟩
  have read : lines all = .ok (last, []) := by
    refine (bind_of_ok marked).trans ((bind_of_ok spaces_eq).trans ?_)
    exact (bind_of_ok (repeating_of_steps steps)).trans rfl
  rw [parse, letters, read]

end ConversationMemory.Toml
