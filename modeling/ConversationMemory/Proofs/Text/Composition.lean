import ConversationMemory.Text.Composition

/-!
# Normal forms in parts

* `Text.Apart`: a character before all that pairs are made of. It joins with nothing, and no mark
  moves across it.
* `normalize_eq`: a text of ASCII is no exception to how normal forms are made.
* **`normalize_append_cons`**: a normal form falls into parts at a character that stays apart.
-/

namespace ConversationMemory.Text

/-- A character before all that pairs are made of. -/
def Apart (c : Char) : Prop := c.toNat < 0x3C

instance (c : Char) : Decidable (Apart c) := inferInstanceAs (Decidable (c.toNat < 0x3C))

/-! ## Characters without marks -/

theorem markClass_eq_zero {c : Char} (h : c.toNat < 0x300) : markClass c = 0 := by
  rw [markClass, if_pos h]

theorem parts_eq_self {c : Char} (h : c.toNat < 0xC0) : parts c = [c] := by
  rw [parts, if_pos h]

theorem whole?_eq_none {c : Char} (h : c.toNat < 0x300) (letter : Char) : whole? letter c = none := by
  simp [whole?, h]

theorem insertMark_eq_cons {c : Char} (h : markClass c = 0) (cs : List Char) :
    insertMark c cs = c :: cs := by
  cases cs with
  | nil => rfl
  | cons d rest => simp [insertMark, h]

section

variable {cs : List Char}

theorem decompose_eq_self (h : ∀ c ∈ cs, c.toNat < 0xC0) : decompose cs = cs := by
  have once : cs.flatMap parts = cs := by
    rw [List.flatMap_def, List.map_congr_left fun c hc => parts_eq_self (h c hc),
      ← List.flatMap_def, List.flatMap_singleton']
  rw [decompose, once, once, once]

theorem arrange_eq_self (h : ∀ c ∈ cs, c.toNat < 0x300) : arrange cs = cs := by
  induction cs with
  | nil => rfl
  | cons c cs ih =>
    have rest := ih fun d hd => h d (List.mem_cons_of_mem _ hd)
    rw [arrange, List.foldr_cons, ← arrange, rest,
      insertMark_eq_cons (markClass_eq_zero (h c List.mem_cons_self))]

theorem composeFrom_eq_cons (letter : Char) (h : ∀ c ∈ cs, c.toNat < 0x300) :
    composeFrom letter [] 0 cs = letter :: cs := by
  induction cs generalizing letter with
  | nil => rfl
  | cons c cs ih =>
    have small := h c List.mem_cons_self
    have rest := ih c fun d hd => h d (List.mem_cons_of_mem _ hd)
    simp [composeFrom, whole?_eq_none small, markClass_eq_zero small, rest]

theorem compose_eq_self (h : ∀ c ∈ cs, c.toNat < 0x300) : compose cs = cs := by
  cases cs with
  | nil => rfl
  | cons c cs =>
    rw [compose, if_pos (markClass_eq_zero (h c List.mem_cons_self)),
      composeFrom_eq_cons c fun d hd => h d (List.mem_cons_of_mem _ hd)]

end

theorem normalize_eq (cs : List Char) : normalize cs = compose (arrange (decompose cs)) := by
  rw [normalize]
  split
  · rename_i ascii
    have small {n : Nat} (hn : 0x80 ≤ n) : ∀ c ∈ cs, c.toNat < n := fun c hc => by
      have := List.all_eq_true.1 ascii c hc
      exact Nat.lt_of_lt_of_le (of_decide_eq_true this) hn
    rw [decompose_eq_self (small (by decide)), arrange_eq_self (small (by decide)),
      compose_eq_self (small (by decide))]
  · rfl

/-! ## Characters that stay apart -/

section

variable {mark : Char} (apart : Apart mark)

include apart

theorem markClass_of_apart : markClass mark = 0 :=
  markClass_eq_zero (Nat.lt_trans apart (by decide))

theorem whole?_of_apart (c : Char) : whole? mark c = none := by
  have : mark.toNat < 0x3C := apart
  simp [whole?, this]

theorem decompose_append_cons (x y : List Char) :
    decompose (x ++ mark :: y) = decompose x ++ mark :: decompose y := by
  have self : parts mark = [mark] := parts_eq_self (Nat.lt_trans apart (by decide))
  simp [decompose, self]

theorem insertMark_append_cons (c : Char) (x y : List Char) :
    insertMark c (x ++ mark :: y) = insertMark c x ++ mark :: y := by
  induction x with
  | nil => simp [insertMark, markClass_of_apart apart]
  | cons d x ih =>
    simp only [List.cons_append, insertMark, ih]
    split <;> rfl

theorem arrange_append_cons (x y : List Char) :
    arrange (x ++ mark :: y) = arrange x ++ mark :: arrange y := by
  induction x with
  | nil => exact insertMark_eq_cons (markClass_of_apart apart) (arrange y)
  | cons c x ih =>
    change insertMark c (arrange (x ++ mark :: y)) = insertMark c (arrange x) ++ mark :: arrange y
    rw [ih, insertMark_append_cons apart]

theorem composeFrom_of_apart (marks : List Char) (reached : Nat) (y : List Char) :
    composeFrom mark marks reached y = mark :: marks ++ compose y := by
  induction y generalizing marks reached with
  | nil => simp [composeFrom, compose]
  | cons c y ih =>
    simp only [composeFrom, whole?_of_apart apart, ite_self, compose]
    split
    · rfl
    · rw [ih]
      simp

theorem composeFrom_append_cons (letter : Char) (marks : List Char) (reached : Nat)
    (x y : List Char) : composeFrom letter marks reached (x ++ mark :: y) =
      composeFrom letter marks reached x ++ mark :: compose y := by
  induction x generalizing letter marks reached with
  | nil =>
    have alone : whole? letter mark = none :=
      whole?_eq_none (Nat.lt_trans apart (by decide)) letter
    simp [composeFrom, alone, markClass_of_apart apart, composeFrom_of_apart apart]
  | cons c x ih =>
    simp only [List.cons_append, composeFrom, ih]
    split
    · rfl
    · split
      · simp
      · rfl

theorem compose_append_cons (x y : List Char) :
    compose (x ++ mark :: y) = compose x ++ mark :: compose y := by
  induction x with
  | nil =>
    simp [compose, markClass_of_apart apart, composeFrom_of_apart apart]
  | cons c x ih =>
    simp only [List.cons_append, compose, ih, composeFrom_append_cons apart]
    split <;> rfl

/-- **A normal form falls into parts at a character that stays apart.** -/
theorem normalize_append_cons (x y : List Char) :
    normalize (x ++ mark :: y) = normalize x ++ mark :: normalize y := by
  rw [normalize_eq, normalize_eq, normalize_eq, decompose_append_cons apart,
    arrange_append_cons apart, compose_append_cons apart]

end

end ConversationMemory.Text
