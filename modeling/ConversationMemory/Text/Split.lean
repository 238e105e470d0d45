/-!
# Parts of a text

* `Text.splitAt`: the parts between the separators, always one more than there are separators.
* `Text.fieldsAt`: the parts of a string at a mark.
* `Text.pieces`: the parts that are not empty; `Text.words`: those between blanks.
* `Text.joinWith`: the parts with separators between them; **`joinWith_splitAt`**: it undoes
  `Text.splitAt`.
-/

namespace ConversationMemory.Text

/-- The parts between the characters that separate. -/
def splitAt (separates : Char → Bool) : List Char → List (List Char)
  | [] => [[]]
  | c :: rest =>
    if separates c then [] :: splitAt separates rest
    else
      match splitAt separates rest with
      | [] => [[c]]
      | part :: parts => (c :: part) :: parts

/-- The parts of a string between the places of a mark. -/
def fieldsAt (mark : Char) (text : String) : List String :=
  (splitAt (· == mark) text.toList).map String.ofList

/-- The parts between the characters that separate, without the empty ones. -/
def pieces (separates : Char → Bool) (cs : List Char) : List (List Char) :=
  (splitAt separates cs).filter fun part => !part.isEmpty

/-- The parts between blanks and line ends. -/
def words (text : String) : List (List Char) := pieces (fun c => c == ' ' || c == '\n') text.toList

/-- The parts with a separator between them. -/
def joinWith (separator : List Char) : List (List Char) → List Char
  | [] => []
  | [part] => part
  | part :: parts => part ++ separator ++ joinWith separator parts

theorem splitAt_ne_nil (separates : Char → Bool) (cs : List Char) : splitAt separates cs ≠ [] := by
  match cs with
  | [] => simp [splitAt]
  | c :: rest =>
    unfold splitAt
    split
    · simp
    · split <;> simp

theorem splitAt_of_none {separates : Char → Bool} {cs : List Char}
    (h : ∀ c ∈ cs, separates c = false) : splitAt separates cs = [cs] := by
  induction cs with
  | nil => rfl
  | cons c cs ih => simp [splitAt, h c (by simp), ih fun x hx => h x (by simp [hx])]

theorem splitAt_append {separates : Char → Bool} {mark : Char} (h : separates mark = true)
    (cs rest : List Char) :
    splitAt separates (cs ++ mark :: rest) = splitAt separates cs ++ splitAt separates rest := by
  induction cs with
  | nil => simp [splitAt, h]
  | cons c cs ih =>
    simp only [List.cons_append, splitAt, ih]
    split
    · rfl
    · obtain ⟨part, parts, heq⟩ := List.exists_cons_of_ne_nil (splitAt_ne_nil separates cs)
      simp [heq]

theorem splitAt_append_of_none {separates : Char → Bool} {tail : List Char}
    (h : ∀ c ∈ tail, separates c = false) (cs : List Char) :
    splitAt separates (cs ++ tail) = (splitAt separates cs).dropLast ++
      [(splitAt separates cs).getLast (splitAt_ne_nil _ _) ++ tail] := by
  induction cs with
  | nil => simp [splitAt, splitAt_of_none h]
  | cons c cs ih =>
    simp only [List.cons_append, splitAt, ih]
    split
    · simp [List.dropLast_cons_of_ne_nil, List.getLast_cons, splitAt_ne_nil]
    · obtain ⟨part, parts, heq⟩ := List.exists_cons_of_ne_nil (splitAt_ne_nil separates cs)
      cases parts <;> simp [heq]

/-- **Joining the parts again gives the text.** -/
theorem joinWith_splitAt (mark : Char) (cs : List Char) :
    joinWith [mark] (splitAt (· == mark) cs) = cs := by
  induction cs with
  | nil => simp [splitAt, joinWith]
  | cons c rest ih =>
    unfold splitAt
    split
    · rename_i hc
      obtain ⟨part, parts, heq⟩ := List.exists_cons_of_ne_nil (splitAt_ne_nil (· == mark) rest)
      rw [heq] at ih ⊢
      simp only [joinWith, ih, List.nil_append, List.singleton_append, List.cons.injEq, and_true]
      exact (beq_iff_eq.1 hc).symm
    · split
      · rename_i heq
        exact absurd heq (splitAt_ne_nil _ rest)
      · rename_i part parts heq
        rw [heq] at ih
        cases parts with
        | nil => simpa [joinWith] using ih
        | cons next parts => simpa [joinWith] using ih

end ConversationMemory.Text
