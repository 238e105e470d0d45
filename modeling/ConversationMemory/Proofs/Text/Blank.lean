import ConversationMemory.Text.Character
import Mathlib.Data.List.DropRight
import Mathlib.Data.List.TakeWhile

/-!
# Texts without blanks at their ends

* `strip_spells`: what is taken away from a list at its ends. `head_strip`, `last_strip`: what is left
  goes on at both ends.
* **`trim_trim`**: nothing more is taken away the second time.
* `strip_append`: a list with something behind it loses nothing but at the back.
-/

namespace ConversationMemory.Text

variable {p : Char → Bool} {cs : List Char}

theorem dropWhile_of_head (h : ∀ c ∈ cs.head?, p c = false) : cs.dropWhile p = cs := by
  cases cs with
  | nil => rfl
  | cons c rest => simp [h c rfl]

theorem head_dropWhile (p : Char → Bool) (cs : List Char) :
    ∀ c ∈ (cs.dropWhile p).head?, p c = false := by
  intro c hc
  have := List.head?_dropWhile_not p cs
  rw [Option.mem_def.1 hc] at this
  exact this

theorem strip_spells (p : Char → Bool) (cs : List Char) :
    ∃ front back, cs = front ++ strip p cs ++ back ∧ ∀ c ∈ front ++ back, p c = true := by
  have inner := List.takeWhile_append_dropWhile (p := p) (l := (cs.dropWhile p).reverse)
  refine ⟨cs.takeWhile p, ((cs.dropWhile p).reverse.takeWhile p).reverse, ?_, ?_⟩
  · rw [strip, List.append_assoc, ← List.reverse_append, inner, List.reverse_reverse,
      List.takeWhile_append_dropWhile]
  · intro c hc
    rcases List.mem_append.1 hc with hc | hc
    · exact List.mem_takeWhile_imp hc
    · exact List.mem_takeWhile_imp (List.mem_reverse.1 hc)

theorem last_strip (p : Char → Bool) (cs : List Char) :
    ∀ c ∈ (strip p cs).getLast?, p c = false := by
  rw [strip, List.getLast?_reverse]
  exact head_dropWhile p _

theorem head_strip (p : Char → Bool) (cs : List Char) : ∀ c ∈ (strip p cs).head?, p c = false := by
  intro c hc
  refine head_dropWhile p cs c ?_
  -- what is left begins what is left of the front
  obtain ⟨back, hback⟩ : strip p cs <+: cs.dropWhile p := List.rdropWhile_prefix p _
  rw [← hback, List.head?_append, Option.mem_def.1 hc]
  rfl

theorem strip_of_ends (head : ∀ c ∈ cs.head?, p c = false) (last : ∀ c ∈ cs.getLast?, p c = false) :
    strip p cs = cs := by
  rw [strip, dropWhile_of_head head, dropWhile_of_head (by rwa [List.head?_reverse]),
    List.reverse_reverse]

/-- **A text that has been trimmed has no blanks at its ends.** -/
theorem trim_trim (s : String) : trim (trim s) = trim s := by
  have kept := strip_of_ends (head_strip isBlank s.toList) (last_strip isBlank s.toList)
  rw [trim, trim, String.toList_ofList, kept]

/-! ## Texts with something behind them -/

theorem strip_prefix (first : ∀ c ∈ cs.head?, p c = false) : strip p cs <+: cs := by
  have front : strip p cs <+: cs.dropWhile p := List.rdropWhile_prefix p _
  rwa [dropWhile_of_head first] at front

theorem head?_strip (first : ∀ c ∈ cs.head?, p c = false) : (strip p cs).head? = cs.head? := by
  rw [strip, dropWhile_of_head first]
  cases cs with
  | nil => rfl
  | cons c cs =>
    have stays : p c = false := first c rfl
    rw [List.reverse_cons, List.dropWhile_append]
    split
    · simp [stays]
    · simp

theorem strip_append {front back : List Char} (first : ∀ c ∈ front.head?, p c = false)
    (last : ∀ c ∈ front.getLast?, p c = false) (next : ∀ c ∈ back.head?, p c = false)
    (nonEmpty : front ≠ []) : strip p (front ++ back) = front ++ strip p back := by
  have begins : (front ++ back).dropWhile p = front ++ back := dropWhile_of_head (by
    rwa [List.head?_append_of_ne_nil _ nonEmpty])
  have ends : front.reverse.dropWhile p = front.reverse := dropWhile_of_head (by
    rwa [List.head?_reverse])
  rw [strip, strip, begins, dropWhile_of_head next, List.reverse_append, List.dropWhile_append]
  split
  · rename_i nothing
    rw [ends, List.isEmpty_iff.1 nothing, List.reverse_reverse, List.reverse_nil, List.append_nil]
  · rw [List.reverse_append, List.reverse_reverse]

end ConversationMemory.Text
