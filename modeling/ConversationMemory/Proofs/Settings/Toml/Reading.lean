import ConversationMemory.Settings.Toml.Reader
import Mathlib.Data.List.TakeDrop

/-!
# How readers go on

What a reader makes of a text, from what its parts make of it.

* `Reader.Declines`: a reader fails in a way that lets something else be tried.
* `Reader.bind_of_ok`, `Declines.bind`: one reader after another.
* `Reader.run_append`, `Reader.char_cons`: characters with a property; `StopsAt` says that they end.
* `Reader.Steps`: a reader goes on, step by step, until it declines. **`repeating_of_steps`**,
  **`many_of_taken`**: then so do the repetitions.
* `Reader.Pieced`: runs of characters with a property, and other pieces between them;
  **`Pieced.many`**: all of them are read.
-/

namespace ConversationMemory.Toml.Reader

variable {α β σ : Type} {read other : Reader α} {f : α → Reader β} {a : α} {b : β}
  {cs mid rest : List Char} {p : Char → Bool}

/-- A reader fails, and something else may be tried. -/
def Declines (read : Reader α) (cs : List Char) : Prop :=
  ∃ fault, read cs = .error fault ∧ fault.final = false

/-- A run of characters with a property ends here. -/
def StopsAt (p : Char → Bool) (rest : List Char) : Prop := ∀ c, rest.head? = some c → p c = false

theorem stopsAt_nil : StopsAt p [] := by rintro _ ⟨⟩

theorem stopsAt_cons {c : Char} (h : p c = false) : StopsAt p (c :: rest) := by
  rintro _ ⟨⟩
  exact h

/-! ## One after another -/

theorem bind_of_ok (h : read cs = .ok (a, mid)) : (read >>= f) cs = f a mid := by
  simp only [bind, StateT.bind, h, Except.bind]

theorem Declines.bind (h : read.Declines cs) : (read >>= f).Declines cs := by
  obtain ⟨fault, failed, opens⟩ := h
  exact ⟨fault, by simp only [Bind.bind, StateT.bind, failed, Except.bind], opens⟩

theorem Declines.of_bind (h : read cs = .ok (a, mid)) (h' : (f a).Declines mid) :
    (read >>= f).Declines cs := by
  rwa [Declines, bind_of_ok h]

theorem map_of_ok {g : α → β} (h : read cs = .ok (a, mid)) : (g <$> read) cs = .ok (g a, mid) := by
  rw [map_eq_pure_bind, bind_of_ok h]
  rfl

theorem Declines.map {g : α → β} (h : read.Declines cs) : (g <$> read).Declines cs := by
  rw [map_eq_pure_bind]
  exact h.bind

theorem discard_of_ok (h : read cs = .ok (a, mid)) : (discard read) cs = .ok ((), mid) :=
  map_of_ok h

theorem Declines.discard (h : read.Declines cs) : (Functor.discard read).Declines cs := h.map

theorem seqRight_of_ok {next : Reader β} (h : read cs = .ok (a, mid)) :
    (read *> next) cs = next mid := by
  rw [seqRight_eq_bind, bind_of_ok h]

theorem Declines.seqRight {next : Reader β} (h : read.Declines cs) : (read *> next).Declines cs := by
  rw [seqRight_eq_bind]
  exact h.bind

theorem Declines.of_seqRight {next : Reader β} (h : read cs = .ok (a, mid)) (h' : next.Declines mid) :
    (read *> next).Declines cs := by
  rwa [Declines, seqRight_of_ok h]

theorem seqLeft_of_ok {next : Reader β} (h : read cs = .ok (a, mid)) (h' : next mid = .ok (b, rest)) :
    (read <* next) cs = .ok (a, rest) := by
  rw [seqLeft_eq_bind, bind_of_ok h, bind_of_ok h']
  rfl

theorem Declines.seqLeft {next : Reader β} (h : read.Declines cs) : (read <* next).Declines cs := by
  rw [seqLeft_eq_bind]
  exact h.bind

theorem Declines.of_seqLeft {next : Reader β} (h : read cs = .ok (a, mid)) (h' : next.Declines mid) :
    (read <* next).Declines cs := by
  rw [seqLeft_eq_bind]
  exact .of_bind h h'.bind

/-! ## What a failure says -/

theorem named_of_ok (what : String) (h : read cs = .ok (a, mid)) :
    (read.named what) cs = .ok (a, mid) := by rw [named, h]; rfl

theorem expecting_of_ok (what : List String) (h : read cs = .ok (a, mid)) :
    (read.expecting what) cs = .ok (a, mid) := by rw [expecting, h]; rfl

theorem commit_of_ok (h : read cs = .ok (a, mid)) : read.commit cs = .ok (a, mid) := by
  rw [commit, h]; rfl

theorem Declines.named (what : String) (h : read.Declines cs) : (read.named what).Declines cs := by
  obtain ⟨fault, failed, opens⟩ := h
  exact ⟨fault.named what, by rw [Reader.named, failed]; rfl, opens⟩

theorem Declines.expecting (what : List String) (h : read.Declines cs) :
    (read.expecting what).Declines cs := by
  obtain ⟨fault, failed, opens⟩ := h
  exact ⟨fault.expecting what, by rw [Reader.expecting, failed]; rfl, opens⟩

theorem convert_of_ok {g : α → Except Cause β} (h : read cs = .ok (a, mid)) (h' : g a = .ok b) :
    read.convert g cs = .ok (b, mid) := by
  simp only [convert, h, bind, Except.bind, h']

theorem Declines.convert {g : α → Except Cause β} (h : read.Declines cs) :
    (read.convert g).Declines cs := by
  obtain ⟨fault, failed, opens⟩ := h
  exact ⟨fault, by simp only [Reader.convert, failed, Bind.bind, Except.bind], opens⟩

theorem declines_convert {g : α → Except Cause β} {cause : Cause} (h : read cs = .ok (a, mid))
    (h' : g a = .error cause) : (read.convert g).Declines cs :=
  ⟨{ rest := cs, cause := some cause }, by simp only [convert, h, bind, Except.bind, h', refuse], rfl⟩

/-! ## Characters -/

theorem declines_fail : (fail : Reader α).Declines cs := ⟨{ rest := cs }, rfl, rfl⟩

theorem char_cons {c : Char} (h : p c = true) : char p (c :: rest) = .ok (c, rest) := by
  rw [char, if_pos h]

theorem declines_char (h : StopsAt p cs) : (char p).Declines cs := by
  cases cs with
  | nil => exact declines_fail
  | cons c rest =>
    rw [Declines, char, h c rfl]
    exact declines_fail

theorem mark_cons (c : Char) : mark c (c :: rest) = .ok ((), rest) :=
  discard_of_ok (char_cons (by simp))

theorem declines_mark {c : Char} (h : cs.head? ≠ some c) : (mark c).Declines cs := by
  refine (declines_char fun x hx => ?_).discard
  rw [beq_eq_false_iff_ne]
  rintro rfl
  exact h hx

theorem word_append (w : String) : word w (w.toList ++ rest) = .ok ((), rest) := by
  have front : w.toList.isPrefixOf (w.toList ++ rest) = true := by simp
  rw [word, if_pos front, ← String.length_toList, List.drop_left]

theorem declines_word {w : String} (h : ¬ w.toList <+: cs) : (word w).Declines cs := by
  rw [Declines, word, if_neg (by simpa using h)]
  exact declines_fail

theorem span_append (inside : ∀ c ∈ cs, p c = true) (stops : StopsAt p rest) :
    (cs ++ rest).span p = (cs, rest) := by
  have none : rest.takeWhile p = [] ∧ rest.dropWhile p = rest := by
    cases rest with
    | nil => exact ⟨rfl, rfl⟩
    | cons c rest => simp [stops c rfl]
  rw [List.span_eq_takeWhile_dropWhile, List.takeWhile_append_of_pos inside,
    List.dropWhile_append_of_pos inside, none.1, none.2, List.append_nil]

theorem run_append (inside : ∀ c ∈ cs, p c = true) (stops : StopsAt p rest) :
    run p (cs ++ rest) = .ok (cs, rest) := by
  rw [run, span_append inside stops]

theorem run1_append (nonEmpty : cs ≠ []) (inside : ∀ c ∈ cs, p c = true) (stops : StopsAt p rest) :
    run1 p (cs ++ rest) = .ok (cs, rest) := by
  simp only [run1, ensure, run_append inside stops, bind, Except.bind]
  rw [if_pos (by simpa using nonEmpty)]

theorem declines_run1 (h : StopsAt p cs) : (run1 p).Declines cs := by
  have none : run p cs = .ok ([], cs) := by
    simpa using @run_append [] cs p (by simp) h
  refine ⟨{ rest := cs }, ?_, rfl⟩
  simp only [run1, ensure, none, bind, Except.bind]
  rfl

theorem exactly_append {count : Nat} (length : cs.length = count) (inside : ∀ c ∈ cs, p c = true) :
    exactly count p (cs ++ rest) = .ok (cs, rest) := by
  rw [exactly, ← length, List.take_left, List.drop_left]
  exact if_pos ⟨rfl, List.all_eq_true.2 inside⟩

theorem declines_exactly {count : Nat}
    (h : ¬ ((cs.take count).length = count ∧ (cs.take count).all p = true)) :
    (exactly count p).Declines cs := by
  rw [Declines, exactly, if_neg h]
  exact declines_fail

theorem next_apply : next cs = .ok (cs.head?, cs) := rfl

theorem ahead_of_ok (h : read cs = .ok (a, mid)) : (ahead read) cs = .ok ((), cs) := by
  rw [ahead, h]

theorem Declines.ahead (h : read.Declines cs) : (Reader.ahead read).Declines cs := by
  obtain ⟨fault, failed, opens⟩ := h
  exact ⟨{ fault with rest := cs }, by rw [Reader.ahead, failed], opens⟩

/-! ## Choices -/

theorem orElse_of_ok (h : read cs = .ok (a, mid)) : (read.orElse other) cs = .ok (a, mid) := by
  rw [orElse, h]

theorem Declines.orElse_eq (h : read.Declines cs) : (read.orElse other) cs = other cs := by
  obtain ⟨fault, failed, opens⟩ := h
  rw [orElse, failed]
  dsimp only
  rw [opens]
  rfl

theorem Declines.orElse (h : read.Declines cs) (h' : other.Declines cs) :
    (read.orElse other).Declines cs := by
  rwa [Declines, h.orElse_eq]

theorem maybe_of_ok (h : read cs = .ok (a, mid)) : read.maybe cs = .ok (some a, mid) :=
  orElse_of_ok (map_of_ok h)

theorem Declines.maybe (h : read.Declines cs) : read.maybe cs = .ok (none, cs) :=
  h.map.orElse_eq

/-! ## Repetitions -/

/-- Goes on from a value, each time past some characters, until there is no more to read. -/
inductive Steps (step : σ → Reader σ) : σ → List Char → σ → List Char → Prop
  | stop {s : σ} {cs : List Char} (h : (step s).Declines cs) : Steps step s cs s cs
  | more {s t u : σ} {cs mid rest : List Char} (h : step s cs = .ok (t, mid))
    (shorter : mid.length < cs.length) (later : Steps step t mid u rest) : Steps step s cs u rest

variable {step : σ → Reader σ} {s t : σ}

theorem iterate_of_steps (h : Steps step s cs t rest) {bound : List Char}
    (enough : cs.length < bound.length) : iterate step bound s cs = .ok (t, rest) := by
  induction h generalizing bound with
  | @stop s cs h =>
    obtain ⟨fault, failed, opens⟩ := h
    cases bound with
    | nil => cases enough
    | cons _ bound =>
      rw [iterate]
      simp only [failed, opens, Bool.false_eq_true, if_false]
  | @more s t u cs mid rest h shorter _ ih =>
    cases bound with
    | nil => cases enough
    | cons _ bound =>
      rw [iterate]
      simp only [h]
      refine ih ?_
      rw [List.length_cons] at enough
      omega

/-- **A reader that goes on step by step is repeated.** -/
theorem repeating_of_steps (h : Steps step s cs t rest) : repeating step s cs = .ok (t, rest) :=
  iterate_of_steps h (Nat.lt_succ_self _)

/-- Takes one after another, each time past some characters, until there is no more. -/
inductive Taken (read : Reader α) : List Char → List α → List Char → Prop
  | stop {cs : List Char} (h : read.Declines cs) : Taken read cs [] cs
  | more {cs mid rest : List Char} {a : α} {as : List α} (h : read cs = .ok (a, mid))
    (shorter : mid.length < cs.length) (later : Taken read mid as rest) : Taken read cs (a :: as) rest

theorem Taken.steps {as : List α} (h : Taken read cs as rest) (before : List α) :
    Steps (fun read? => (· :: read?) <$> read) before cs (as.reverse ++ before) rest := by
  induction h generalizing before with
  | stop h => exact .stop h.map
  | @more cs mid rest a as h shorter _ ih =>
    rw [List.reverse_cons, List.append_assoc]
    exact .more (map_of_ok h) shorter (ih (a :: before))

/-- **A reader that takes one after another reads many.** -/
theorem many_of_taken {as : List α} (h : Taken read cs as rest) : many read cs = .ok (as, rest) := by
  have all : many read cs = .ok ((as.reverse ++ []).reverse, rest) :=
    map_of_ok (repeating_of_steps (h.steps []))
  rwa [List.append_nil, List.reverse_reverse] at all

/-! ## Runs and other pieces -/

/-- In front of a rest stand characters that runs of a property and another reader take piece by
piece, whatever run goes before them. -/
def Pieced (p : Char → Bool) (other : Reader (List Char)) (cs taken rest : List Char) : Prop :=
  ∀ front, (∀ c ∈ front, p c = true) → ∃ pieces,
    Taken ((run1 p).orElse other) (front ++ (cs ++ rest)) pieces rest ∧
      pieces.flatten = front ++ taken

variable {others : Reader (List Char)} {taken : List Char}

theorem Taken.after_run {pieces : List (List Char)} {front : List Char}
    (h : Taken ((run1 p).orElse others) cs pieces rest) (inside : ∀ c ∈ front, p c = true)
    (stops : StopsAt p cs) :
    ∃ pieces', Taken ((run1 p).orElse others) (front ++ cs) pieces' rest ∧
      pieces'.flatten = front ++ pieces.flatten := by
  rcases front.eq_nil_or_concat with rfl | nonEmpty
  · exact ⟨pieces, h, rfl⟩
  · have some : front ≠ [] := by
      obtain ⟨_, _, rfl⟩ := nonEmpty
      simp
    refine ⟨front :: pieces, .more (orElse_of_ok (run1_append some inside stops)) ?_ h, rfl⟩
    rw [List.length_append]
    have := List.length_pos_iff.2 some
    omega

theorem Pieced.nil (stops : StopsAt p rest) (ends : others.Declines rest) :
    Pieced p others [] [] rest := fun _ inside =>
  Taken.after_run (.stop ((declines_run1 stops).orElse ends)) inside stops

theorem Pieced.plain {c : Char} (h : p c = true) (more : Pieced p others cs taken rest) :
    Pieced p others (c :: cs) (c :: taken) rest := by
  intro front inside
  obtain ⟨pieces, h, same⟩ := more (front ++ [c]) (by simpa [or_imp, forall_and, h] using inside)
  exact ⟨pieces, by simpa using h, by simpa using same⟩

theorem Pieced.item (item piece : List Char) (more : Pieced p others cs taken rest)
    (some : item ≠ []) (stops : StopsAt p (item ++ (cs ++ rest)))
    (h : others (item ++ (cs ++ rest)) = .ok (piece, cs ++ rest)) :
    Pieced p others (item ++ cs) (piece ++ taken) rest := by
  intro front inside
  obtain ⟨pieces, later, same⟩ := more [] (by simp)
  have first : ((run1 p).orElse others) (item ++ (cs ++ rest)) = .ok (piece, cs ++ rest) :=
    (declines_run1 stops).orElse_eq.trans h
  have shorter : (cs ++ rest).length < (item ++ (cs ++ rest)).length := by
    have := List.length_pos_iff.2 some
    simp only [List.length_append]
    omega
  obtain ⟨pieces', all, flat⟩ := (Taken.more first shorter later).after_run inside stops
  exact ⟨pieces', by simpa using all, by simpa [same] using flat⟩

/-- **Runs and the pieces between them are read.** There are some if there are characters. -/
theorem Pieced.many (h : Pieced p others cs taken rest) :
    ∃ pieces, many ((run1 p).orElse others) (cs ++ rest) = .ok (pieces, rest) ∧
      pieces.flatten = taken ∧ (cs ≠ [] → pieces ≠ []) := by
  obtain ⟨pieces, all, same⟩ := h [] (by simp)
  refine ⟨pieces, many_of_taken all, same, ?_⟩
  rintro some rfl
  have none : cs ++ rest = rest := by
    generalize hall : [] ++ (cs ++ rest) = text at all
    cases all
    simpa using hall
  simp at none
  exact some none

end ConversationMemory.Toml.Reader
