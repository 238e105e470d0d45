import ConversationMemory.Proofs.Http
import ConversationMemory.Proofs.Text.Composition

/-!
# Names in parts

A host is decoded, mapped, brought into normal form and checked label by label. Each of these steps goes
on behind a point without regard to what was in front of it.

* `Percent.decode_append_cons`, `Utf8.decode?_append_cons`: bytes and characters in parts.
  `Host.spelled?_append_cons`: so what a text spells falls into parts.
* `Domain.mapped?_append_cons`: so does what a name is mapped to. `Domain.ascii?_of_forbidden`: a
  forbidden character is found wherever it stands.
* **`Domain.IsPlain.ascii?`**: a name below a domain of lower-case letters is looked up below this
  domain.
-/

namespace ConversationMemory

/-! ## Parts of texts -/

namespace Text

variable {separates : Char → Bool}

theorem separates_or_mem_splitAt {cs : List Char} {c : Char} (h : c ∈ cs) :
    separates c = true ∨ ∃ part ∈ splitAt separates cs, c ∈ part := by
  induction cs with
  | nil => cases h
  | cons d cs ih =>
    obtain ⟨part, parts, heq⟩ := List.exists_cons_of_ne_nil (splitAt_ne_nil separates cs)
    rw [heq] at ih
    simp only [splitAt, heq]
    rcases List.mem_cons.1 h with rfl | h
    · split
      · exact .inl ‹_›
      · exact .inr ⟨_, List.mem_cons_self, List.mem_cons_self⟩
    · rcases ih h with mark | ⟨found, hfound, hc⟩
      · exact .inl mark
      · right
        split
        · exact ⟨found, List.mem_cons_of_mem _ hfound, hc⟩
        · rcases List.mem_cons.1 hfound with rfl | hfound
          · exact ⟨_, List.mem_cons_self, List.mem_cons_of_mem _ hc⟩
          · exact ⟨found, List.mem_cons_of_mem _ hfound, hc⟩

theorem mem_of_mem_splitAt {cs part : List Char} (hpart : part ∈ splitAt separates cs) {c : Char}
    (hc : c ∈ part) : c ∈ cs := by
  induction cs generalizing part with
  | nil =>
    obtain rfl := List.mem_singleton.1 hpart
    exact hc
  | cons d cs ih =>
    obtain ⟨first, parts, heq⟩ := List.exists_cons_of_ne_nil (splitAt_ne_nil separates cs)
    rw [heq] at ih
    simp only [splitAt, heq] at hpart
    split at hpart
    · rcases List.mem_cons.1 hpart with rfl | hpart
      · cases hc
      · exact List.mem_cons_of_mem _ (ih hpart hc)
    · rcases List.mem_cons.1 hpart with rfl | hpart
      · rcases List.mem_cons.1 hc with rfl | hc
        · exact List.mem_cons_self
        · exact List.mem_cons_of_mem _ (ih List.mem_cons_self hc)
      · exact List.mem_cons_of_mem _ (ih (List.mem_cons_of_mem _ hpart) hc)

theorem joinWith_append (separator : List Char) {a b : List (List Char)} (ha : a ≠ [])
    (hb : b ≠ []) :
    joinWith separator (a ++ b) = joinWith separator a ++ separator ++ joinWith separator b := by
  induction a with
  | nil => exact (ha rfl).elim
  | cons part a ih =>
    cases a with
    | nil =>
      obtain ⟨first, rest, rfl⟩ := List.exists_cons_of_ne_nil hb
      rfl
    | cons next a =>
      have rest := ih (List.cons_ne_nil _ _)
      simp only [List.cons_append, joinWith] at rest ⊢
      rw [rest]
      simp only [List.append_assoc]

end Text

/-! ## Bytes -/

theorem Percent.decode_append_cons {mark : Char} (h : Text.hexDigit? mark = none)
    (x y : List Char) : decode (x ++ mark :: y) = decode x ++ decode (mark :: y) := by
  fun_induction decode x with
  | case1 => rfl
  | case2 high low rest l k hlow hhigh ih => simp only [List.cons_append, decode, hlow, hhigh, ih]
  | case3 high low rest other ih =>
    simp only [List.cons_append] at ih ⊢
    rw [decode, ih, List.append_assoc]
    split
    · exact (other _ _ ‹_› ‹_›).elim
    · rfl
  | case4 c rest other ih =>
    rw [List.cons_append, List.append_assoc, ← ih]
    by_cases percent : c = '%'
    · subst percent
      rcases rest with _ | ⟨d, _ | ⟨e, rest⟩⟩
      · cases y <;> simp [decode, h]
      · simp [decode, h]
      · exact (other d e rest rfl rfl).elim
    · exact decode_cons percent _

namespace Utf8

theorem tail?_eq_none {b : UInt8} (h : b.toNat < 0x80) : tail? b = none := by
  rw [tail?, if_neg (by omega)]

theorem decode?_append_cons {b : UInt8} (h : b.toNat < 0x80) (x y : List UInt8) :
    decode? (x ++ b :: y) = do return (← decode? x) ++ (← decode? (b :: y)) := by
  have stops := tail?_eq_none h
  fun_induction decode? x with
  | case1 => simp
  -- a whole character, and what follows it
  | case2 a rest _ ih | case4 a _ _ _ c rest ih | case6 a _ _ _ _ c d rest ih
  | case8 a _ _ _ _ _ c d e rest ih =>
    rw [List.cons_append, decode?.eq_def]
    simp only [*, if_true, if_false, List.cons_append, Option.bind_eq_bind, Option.bind_assoc,
      Option.pure_def, Option.bind_some]
  -- a byte that begins no character
  | case3 a rest | case10 a rest =>
    rw [List.cons_append, decode?.eq_def]
    simp only [*, if_true, if_false, Option.bind_eq_bind, Option.bind_none]
  -- a character that is cut off: the byte does not continue it
  | case5 a rest _ _ _ short =>
    rw [List.cons_append, decode?.eq_def]
    match rest with
    | [] => simp only [*, List.nil_append, if_true, if_false, Option.bind_eq_bind, Option.bind_none]
    | c :: rest => exact (short c rest rfl).elim
  | case7 a rest _ _ _ _ short =>
    rw [List.cons_append, decode?.eq_def]
    match rest, y with
    | [], [] | [], _ :: _ | [c], _ =>
      simp only [*, List.nil_append, List.cons_append, if_true, if_false, Option.bind_eq_bind,
        Option.bind_none, Option.bind_fun_none]
    | c :: d :: rest, _ => exact (short c d rest rfl).elim
  | case9 a rest _ _ _ _ _ short =>
    rw [List.cons_append, decode?.eq_def]
    match rest, y with
    | [], [] | [], [_] | [], _ :: _ :: _ | [c], [] | [c], _ :: _ | [c, d], _ =>
      simp only [*, List.nil_append, List.cons_append, if_true, if_false, Option.bind_eq_bind,
        Option.bind_none, Option.bind_fun_none]
    | c :: d :: e :: rest, _ => exact (short c d e rest rfl).elim

end Utf8

/-- The name that a text spells in plain and in percent-encoded characters. -/
def Host.spelled? (text : List Char) : Option (List Char) := Utf8.decode? (Percent.decode text)

theorem Host.spelled?_append_cons {mark : Char} (ascii : mark.toNat < 0x80)
    (noDigit : Text.hexDigit? mark = none) (percent : mark ≠ '%') (x y : List Char) :
    spelled? (x ++ mark :: y) = do return (← spelled? x) ++ mark :: (← spelled? y) := by
  have byte : Utf8.encodeChar mark = [mark.toNat.toUInt8] := by
    simp [Utf8.encodeChar, ascii]
  have small : mark.toNat.toUInt8.toNat < 0x80 := by
    rwa [Utf8.toNat_toUInt8 (Nat.lt_trans ascii (by decide))]
  have alone : Utf8.decode? (mark.toNat.toUInt8 :: Percent.decode y) =
      (Utf8.decode? (Percent.decode y)).map (mark :: ·) := by
    rw [← Utf8.decode?_encodeChar, byte]
    rfl
  rw [spelled?, Percent.decode_append_cons noDigit, Percent.decode_cons percent, byte,
    List.singleton_append, Utf8.decode?_append_cons small, alone, spelled?, spelled?]
  cases Utf8.decode? (Percent.decode x) with
  | none => rfl
  | some a => cases Utf8.decode? (Percent.decode y) <;> rfl

theorem Host.spelled?_eq_self {text : List Char} (h : '%' ∉ text) : spelled? text = some text := by
  have bytes : Percent.decode text = Utf8.encode text := by
    induction text with
    | nil => simp [Percent.decode, Utf8.encode]
    | cons c text ih =>
      obtain ⟨percent, rest⟩ := not_or.1 (mt List.mem_cons.2 h)
      rw [Percent.decode_cons (Ne.symm percent), ih rest]
      rfl
  rw [spelled?, bytes, Utf8.decode?_encode]

/-! ## Names -/

namespace Domain

open Text

/-- Labels of lower-case letters. -/
def IsPlain (domain : List Char) : Prop :=
  ∀ c ∈ domain, c = '.' ∨ (0x61 ≤ c.toNat ∧ c.toNat ≤ 0x7A)

theorem mapChar_eq_self {c : Char} (ascii : c.toNat < 0x80)
    (small : c.toNat < 0x41 ∨ 0x5A < c.toNat) : mapChar c = some [c] := by
  have same : c.toLower = c := by
    unfold Char.toLower
    split
    · rename_i capital
      have first : 0x41 ≤ c.toNat := UInt32.le_iff_toNat_le.1 capital.1
      have last : c.toNat ≤ 0x5A := UInt32.le_iff_toNat_le.1 capital.2
      omega
    · rfl
  rw [mapChar, if_pos ascii, same]

theorem mapped?_append_cons {mark : Char} (apart : Apart mark) (x y : List Char) :
    mapped? (x ++ mark :: y) = do return (← mapped? x) ++ mark :: (← mapped? y) := by
  have small : mark.toNat < 0x41 := Nat.lt_trans apart (by decide)
  have self := mapChar_eq_self (Nat.lt_trans small (by decide)) (.inl small)
  simp only [mapped?, List.mapM_append, List.mapM_cons, self]
  cases x.mapM mapChar with
  | none => rfl
  | some a =>
    cases y.mapM mapChar with
    | none => rfl
    | some b => simp [normalize_append_cons apart]

theorem ascii?_of_forbidden {mark : Char} (apart : Apart mark) (bad : forbidden mark = true)
    (x y : List Char) : ascii? (x ++ mark :: y) = none := by
  rw [ascii?, mapped?_append_cons apart]
  cases mapped? x with
  | none => rfl
  | some a =>
    cases mapped? y with
    | none => rfl
    | some b =>
      have refused : (a ++ mark :: b).any forbidden = true :=
        List.any_eq_true.2 ⟨mark, by simp, bad⟩
      simp only [Option.bind_eq_bind, Option.bind_some, Option.pure_def, refused, if_true]

section

variable {domain : List Char} (plain : IsPlain domain)

include plain

theorem IsPlain.below : IsPlain ('.' :: domain) := List.forall_mem_cons.2 ⟨.inl rfl, plain⟩

theorem IsPlain.ascii {c : Char} (hc : c ∈ domain) : c.toNat < 0x80 := by
  rcases plain c hc with rfl | ⟨-, last⟩
  · decide
  · omega

theorem IsPlain.mapped? : mapped? domain = some domain := by
  have parts : domain.mapM mapChar = some (domain.map fun c => [c]) := by
    induction domain with
    | nil => rfl
    | cons c domain ih =>
      have small : c.toNat < 0x41 ∨ 0x5A < c.toNat := by
        rcases plain c List.mem_cons_self with rfl | ⟨first, -⟩
        · decide
        · omega
      have self := mapChar_eq_self (ascii plain List.mem_cons_self) small
      simp [self, ih fun d hd => plain d (List.mem_cons_of_mem _ hd)]
  have small : domain.all (·.toNat < 0x80) = true :=
    List.all_eq_true.2 fun c hc => decide_eq_true (ascii plain hc)
  rw [Domain.mapped?, parts, Option.map_some, ← List.flatMap_def, List.flatMap_singleton',
    Text.normalize, if_pos small]

theorem IsPlain.all_ascii_label {label : List Char} (hlabel : label ∈ splitAt (· == '.') domain) :
    label.all (·.toNat < 0x80) = true :=
  List.all_eq_true.2 fun _ hc => decide_eq_true (ascii plain (mem_of_mem_splitAt hlabel hc))

theorem IsPlain.readable? {label : List Char} (hlabel : label ∈ splitAt (· == '.') domain) :
    readable? label = some label := by
  have noMark : ¬ punycodeMark.isPrefixOf label = true := by
    intro hmark
    have hyphen : '-' ∈ label :=
      (List.isPrefixOf_iff_prefix.1 hmark).subset (by decide)
    exact absurd (plain '-' (mem_of_mem_splitAt hlabel hyphen)) (by decide)
  rw [Domain.readable?, if_neg noMark, all_ascii_label plain hlabel, Bool.true_or, if_pos rfl]

theorem IsPlain.mapM_readable? :
    (splitAt (· == '.') domain).mapM Domain.readable? = some (splitAt (· == '.') domain) := by
  have each := fun label => @IsPlain.readable? _ plain label
  generalize splitAt (· == '.') domain = labels at each
  induction labels with
  | nil => rfl
  | cons label labels ih =>
    simp [each label List.mem_cons_self, ih fun l hl => each l (List.mem_cons_of_mem _ hl)]

theorem IsPlain.map_asciiLabel :
    (splitAt (· == '.') domain).map asciiLabel = splitAt (· == '.') domain := by
  have each (label : List Char) (hlabel : label ∈ splitAt (· == '.') domain) :
      asciiLabel label = label := by rw [asciiLabel, if_pos (all_ascii_label plain hlabel)]
  rw [List.map_congr_left each, List.map_id']

/-- **A name below a plain domain is looked up below this domain.** -/
theorem IsPlain.ascii? {name found : List Char} (h : ascii? (name ++ '.' :: domain) = some found) :
    ∃ front, found = front ++ '.' :: domain := by
  rw [Domain.ascii?, mapped?_append_cons (by decide), plain.mapped?] at h
  cases hname : Domain.mapped? name with
  | none =>
    rw [hname] at h
    cases h
  | some front =>
    simp only [hname, Option.bind_eq_bind, Option.bind_some, Option.pure_def] at h
    split at h
    · cases h
    rw [@splitAt_append (· == '.') '.' rfl, List.mapM_append, plain.mapM_readable?] at h
    obtain ⟨labels, hlabels, h⟩ := Option.bind_eq_some_iff.1 h
    obtain ⟨first, hfirst, hlabels⟩ := Option.bind_eq_some_iff.1 hlabels
    obtain rfl := Option.some.inj hlabels
    split at h
    · cases h
    have nonEmpty : first ≠ [] := by
      rintro rfl
      obtain ⟨part, parts, heq⟩ := List.exists_cons_of_ne_nil (splitAt_ne_nil (· == '.') front)
      simp [heq, List.mapM_cons, Option.bind_eq_some_iff] at hfirst
    refine ⟨joinWith ['.'] (first.map asciiLabel), ?_⟩
    obtain rfl := Option.some.inj h
    rw [List.map_append, plain.map_asciiLabel,
      joinWith_append _ (by simpa using nonEmpty) (splitAt_ne_nil _ _), joinWith_splitAt]
    simp

end

end Domain

end ConversationMemory
