import ConversationMemory.Text.Character
import Mathlib.Data.List.Forall2
import Mathlib.Data.Nat.Digits.Defs

/-!
# Numbers in digits

* `Text.digitValues`: the digits up to those of base sixteen. `Text.MakesUp`: digits make up a number.
* **`MakesUp.valueIn_eq`**: their value is this number.
-/

namespace ConversationMemory.Text

/-- The digits up to those of base sixteen, with their values. -/
def digitValues : List (Char × Nat) :=
  [('0', 0), ('1', 1), ('2', 2), ('3', 3), ('4', 4), ('5', 5), ('6', 6), ('7', 7), ('8', 8), ('9', 9),
    ('a', 10), ('b', 11), ('c', 12), ('d', 13), ('e', 14), ('f', 15),
    ('A', 10), ('B', 11), ('C', 12), ('D', 13), ('E', 14), ('F', 15)]

/-- A digit of a base. -/
def IsDigitOf (base : Nat) (d : Char) : Prop := ∃ v, (d, v) ∈ digitValues ∧ v < base

/-- Digits of a base make up a number, the last one counting least. -/
def MakesUp (base : Nat) (ds : List Char) (n : Nat) : Prop :=
  ∃ vs, List.Forall₂ (fun d v => (d, v) ∈ digitValues ∧ v < base) ds vs ∧
    n = Nat.ofDigits base vs.reverse

variable {base n v : Nat} {d : Char} {ds : List Char}

theorem hexDigit?_of_mem (known : (d, v) ∈ digitValues) : hexDigit? d = some v := by
  have all : ∀ entry ∈ digitValues, hexDigit? entry.1 = some entry.2 := by decide
  exact all _ known

theorem IsDigitOf.isDigitIn (h : IsDigitOf base d) : isDigitIn base d = true := by
  obtain ⟨v, known, small⟩ := h
  simp [Text.isDigitIn, hexDigit?_of_mem known, small]

theorem MakesUp.isDigitOf (h : MakesUp base ds n) : ∀ d ∈ ds, IsDigitOf base d := by
  obtain ⟨vs, values, -⟩ := h
  induction values with
  | nil => rintro _ ⟨⟩
  | cons digit _ ih =>
    intro d hd
    rcases List.mem_cons.1 hd with rfl | hd
    · exact ⟨_, digit⟩
    · exact ih d hd

/-- **The value of digits is the number that they make up.** -/
theorem MakesUp.valueIn_eq (h : MakesUp base ds n) : valueIn base ds = n := by
  obtain ⟨vs, values, rfl⟩ := h
  have read : ds.filterMap hexDigit? = vs := by
    induction values with
    | nil => rfl
    | cons digit _ ih => rw [List.filterMap_cons_some (hexDigit?_of_mem digit.1), ih]
  rw [valueIn, read, Nat.ofDigits_eq_foldr, List.foldr_reverse]
  refine congrArg (fun f => vs.foldl f 0) ?_
  funext n v
  rw [Nat.mul_comm, Nat.add_comm]
  rfl

end ConversationMemory.Text
