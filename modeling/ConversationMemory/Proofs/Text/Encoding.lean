import ConversationMemory.Url.Percent

/-!
# Encodings read back

* **`Utf8.decode?_encode`**, `Utf8.textOf?_bytesOf`: the bytes of a text stand for this text;
  `Utf8.encode_injective`.
  `Utf8.parts_encode`: its characters are all parts that they have.
* **`Percent.decode_encode`**: a text whose class keeps no `%` stands for its bytes when it is
  percent encoded; `Percent.encode_injective`.
-/

namespace ConversationMemory

namespace Utf8

theorem toNat_toUInt8 {n : Nat} (h : n < 256) : n.toUInt8.toNat = n := UInt8.toNat_ofNat_of_lt' h

theorem tail?_toUInt8 {k : Nat} (h : k < 0x40) : tail? (0x80 + k).toUInt8 = some k := by
  rw [tail?, toNat_toUInt8 (by omega), if_pos (by omega), Nat.add_sub_cancel_left]

theorem char?_toNat {least : Nat} {c : Char} (h : least ≤ c.toNat) :
    char? least c.toNat = some c := by
  have valid : c.toNat.isValidChar := c.valid
  rw [char?, dif_pos valid, if_pos h]
  rfl

/-! A sequence of each length is read as one character, if its first byte says so. -/

theorem decode?_one {n : Nat} (hn : n < 0x80) (rest : List UInt8) :
    decode? (n.toUInt8 :: rest) = do return (← char? 0 n) :: (← decode? rest) := by
  rw [decode?.eq_def]
  simp only [toNat_toUInt8 (n := n) (by omega), if_pos hn]

theorem decode?_two {n k : Nat} (hn : n < 0x20) (hk : k < 0x40) (rest : List UInt8) :
    decode? ((0xC0 + n).toUInt8 :: (0x80 + k).toUInt8 :: rest) =
      do return (← char? 0x80 (n * 0x40 + k)) :: (← decode? rest) := by
  rw [decode?, toNat_toUInt8 (by omega), if_neg (by omega), if_neg (by omega), if_pos (by omega),
    tail?_toUInt8 hk, Nat.add_sub_cancel_left, Option.bind_eq_bind, Option.bind_some]

theorem decode?_three {n k l : Nat} (hn : n < 0x10) (hk : k < 0x40) (hl : l < 0x40)
    (rest : List UInt8) :
    decode? ((0xE0 + n).toUInt8 :: (0x80 + k).toUInt8 :: (0x80 + l).toUInt8 :: rest) =
      do return (← char? 0x800 (n * 0x1000 + k * 0x40 + l)) :: (← decode? rest) := by
  rw [decode?, toNat_toUInt8 (by omega), if_neg (by omega), if_neg (by omega), if_neg (by omega),
    if_pos (by omega)]
  dsimp only
  rw [tail?_toUInt8 hk, tail?_toUInt8 hl, Nat.add_sub_cancel_left, Option.bind_eq_bind,
    Option.bind_some, Option.bind_eq_bind, Option.bind_some]

-- a `simp` for the binds would have the kernel count up to the factor of the first byte
theorem decode?_four {n k l m : Nat} (hn : n < 8) (hk : k < 0x40) (hl : l < 0x40) (hm : m < 0x40)
    (rest : List UInt8) :
    decode? ((0xF0 + n).toUInt8 :: (0x80 + k).toUInt8 :: (0x80 + l).toUInt8 :: (0x80 + m).toUInt8 ::
      rest) = do return (← char? 0x10000 (n * 0x40000 + k * 0x1000 + l * 0x40 + m)) ::
        (← decode? rest) := by
  rw [decode?, toNat_toUInt8 (by omega), if_neg (by omega), if_neg (by omega), if_neg (by omega),
    if_neg (by omega), if_pos (by omega)]
  dsimp only
  rw [tail?_toUInt8 hk, tail?_toUInt8 hl, tail?_toUInt8 hm, Nat.add_sub_cancel_left,
    Option.bind_eq_bind, Option.bind_some, Option.bind_eq_bind, Option.bind_some,
    Option.bind_eq_bind, Option.bind_some]

/-- **The bytes of a character stand for this character.** -/
theorem decode?_encodeChar (c : Char) (rest : List UInt8) :
    decode? (encodeChar c ++ rest) = (decode? rest).map (c :: ·) := by
  have valid : c.toNat < 0x110000 := by
    have h : c.toNat.isValidChar := c.valid
    simp only [Nat.isValidChar] at h
    omega
  -- a form that is long enough but not too long gives the character
  have found {least n : Nat} (hn : n = c.toNat) (h : least ≤ c.toNat) :
      (do return (← char? least n) :: (← decode? rest)) = (decode? rest).map (c :: ·) := by
    rw [hn, char?_toNat h]
    cases decode? rest <;> rfl
  simp only [encodeChar]
  split
  · rename_i h
    exact (decode?_one h rest).trans (found rfl (by omega))
  split
  · exact (decode?_two (by omega) (by omega) rest).trans (found (by omega) (by omega))
  split
  · exact (decode?_three (by omega) (by omega) (by omega) rest).trans (found (by omega) (by omega))
  · exact (decode?_four (by omega) (by omega) (by omega) (by omega) rest).trans
      (found (by omega) (by omega))

/-- **The bytes of a text stand for this text.** -/
theorem decode?_encode (cs : List Char) : decode? (encode cs) = some cs := by
  induction cs with
  | nil => rfl
  | cons c cs ih =>
    rw [encode, List.flatMap_cons, decode?_encodeChar]
    exact congrArg _ ih

theorem encode_injective : Function.Injective encode := by
  intro a b h
  have := (decode?_encode a).symm.trans ((congrArg decode? h).trans (decode?_encode b))
  simpa using this

theorem textOf?_bytesOf (text : String) : textOf? (bytesOf text) = some text := by
  rw [textOf?, bytesOf, decode?_encode, Option.map_some, String.ofList_toList]

/-! ## Parts -/

theorem exists_encodeChar (c : Char) :
    ∃ a more, encodeChar c = a :: more ∧ width a = more.length + 1 := by
  have valid : c.toNat < 0x110000 := by
    have h : c.toNat.isValidChar := c.valid
    simp only [Nat.isValidChar] at h
    omega
  simp only [encodeChar]
  split
  · exact ⟨_, _, rfl, by rw [width, toNat_toUInt8 (by omega), if_pos (by omega)]; rfl⟩
  split
  · refine ⟨_, _, rfl, ?_⟩
    rw [width, toNat_toUInt8 (by omega), if_neg (by omega), if_neg (by omega), if_pos (by omega)]
    rfl
  split
  · refine ⟨_, _, rfl, ?_⟩
    rw [width, toNat_toUInt8 (by omega), if_neg (by omega), if_neg (by omega), if_neg (by omega),
      if_pos (by omega)]
    rfl
  · refine ⟨_, _, rfl, ?_⟩
    rw [width, toNat_toUInt8 (by omega), if_neg (by omega), if_neg (by omega), if_neg (by omega),
      if_neg (by omega), if_pos (by omega)]
    rfl

theorem parts_length (bytes rest : List UInt8) :
    parts bytes.length (bytes ++ rest) = parts 0 rest := by
  induction bytes with
  | nil => rfl
  | cons a bytes ih => exact ih

/-- **The bytes of a text have its characters as their parts.** -/
theorem parts_encode (cs : List Char) : parts 0 (encode cs) = cs.map some := by
  induction cs with
  | nil => rfl
  | cons c cs ih =>
    obtain ⟨a, more, bytes, hwidth⟩ := exists_encodeChar c
    have taken : (a :: (more ++ encode cs)).take (width a) = encodeChar c := by
      rw [hwidth, bytes, List.take_succ_cons, List.take_left' rfl]
    have alone : decode? (encodeChar c) = some [c] := by
      simpa [encode] using decode?_encode [c]
    have first : first? a (more ++ encode cs) = some c := by
      rw [first?, taken, alone]
    have step : parts 0 (a :: (more ++ encode cs)) =
        some c :: parts more.length (more ++ encode cs) := by
      simp [parts, first, hwidth]
    rw [encode, List.flatMap_cons, ← encode, bytes, List.cons_append, step, parts_length, ih,
      List.map_cons]

end Utf8

namespace Percent

theorem hexDigit?_digit : ∀ n < 16, Text.hexDigit? (digit n) = some n := by decide

theorem decode_encodeByte (b : UInt8) (rest : List Char) :
    decode (encodeByte b ++ rest) = b :: decode rest := by
  have small : b.toNat < 256 := b.toNat_lt
  have high := hexDigit?_digit (b.toNat / 16) (by omega)
  have low := hexDigit?_digit (b.toNat % 16) (by omega)
  have whole : (b.toNat / 16 * 16 + b.toNat % 16).toUInt8 = b := by
    rw [show b.toNat / 16 * 16 + b.toNat % 16 = b.toNat by omega]
    exact UInt8.ofNat_toNat
  simp only [encodeByte, List.cons_append, List.nil_append, decode, high, low, whole]

theorem decode_flatMap_encodeByte (bytes : List UInt8) (rest : List Char) :
    decode (bytes.flatMap encodeByte ++ rest) = bytes ++ decode rest := by
  induction bytes with
  | nil => rfl
  | cons b bytes ih => rw [List.flatMap_cons, List.append_assoc, decode_encodeByte, ih]; rfl

theorem decode_cons {c : Char} (h : c ≠ '%') (rest : List Char) :
    decode (c :: rest) = Utf8.encodeChar c ++ decode rest := by
  rw [decode]
  rintro high low more rfl
  exact (h rfl).elim

variable {keep : Char → Bool}

/-- **An encoded text stands for the bytes of the text**, when `%` is encoded. -/
theorem decode_encode (h : keep '%' = false) (cs : List Char) :
    decode (encode keep cs) = Utf8.encode cs := by
  induction cs with
  | nil => simp [encode, Utf8.encode, decode]
  | cons c cs ih =>
    rw [encode, List.flatMap_cons, Utf8.encode, List.flatMap_cons, encodeChar]
    split
    · rename_i kept
      have differs : c ≠ '%' := by
        rintro rfl
        simp [h] at kept
      rw [List.singleton_append, decode_cons differs]
      exact congrArg _ ih
    · rw [decode_flatMap_encodeByte]
      exact congrArg _ ih

theorem encode_injective (h : keep '%' = false) : Function.Injective (encode keep) := by
  intro a b hab
  apply Utf8.encode_injective
  rw [← decode_encode h, ← decode_encode h, hab]

end Percent

end ConversationMemory
