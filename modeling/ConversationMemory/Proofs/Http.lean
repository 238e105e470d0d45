import ConversationMemory.Http
import ConversationMemory.Proofs.Text.Blank
import ConversationMemory.Proofs.Text.Encoding
import ConversationMemory.Proofs.Url.Authority

/-!
# Where a request goes

* `Url.IsSettled`: a segment that stands in a path as it is written. `Percent.isSettled_encode`: that
  of an encoded text does, unless the text is one of the two dot segments.
* `Url.IsAuthority`: what stands between the scheme and the path.
* **`parse_authority`**: an address of an authority has what is written behind it as its path.
  `parse_settled`: settled segments stand there as they are.
* **`Request.pathChars_of_prepare`**: a request for such an address asks for this path.
-/

namespace ConversationMemory

/-! ## Settled segments -/

namespace Percent

variable {keep : Char → Bool}

theorem encode_of_keeps {cs : List Char} (h : ∀ c ∈ cs, keep c = true) : encode keep cs = cs := by
  induction cs with
  | nil => rfl
  | cons c cs ih =>
    rw [encode, List.flatMap_cons, encodeChar, if_pos (h c (by simp))]
    exact congrArg (c :: ·) (ih fun x hx => h x (by simp [hx]))

theorem mem_encode {c : Char} {cs : List Char} (h : c ∈ encode keep cs) :
    keep c = true ∨ c = '%' ∨ ∃ n < 16, c = digit n := by
  obtain ⟨x, -, hc⟩ := List.mem_flatMap.1 h
  rw [encodeChar] at hc
  split at hc
  · rename_i kept
    rw [List.mem_singleton] at hc
    exact .inl (hc ▸ kept)
  · obtain ⟨b, -, hb⟩ := List.mem_flatMap.1 hc
    have := b.toNat_lt
    simp only [encodeByte, List.mem_cons, List.not_mem_nil, or_false] at hb
    rcases hb with rfl | rfl | rfl
    · exact .inr (.inl rfl)
    · exact .inr (.inr ⟨_, by omega, rfl⟩)
    · exact .inr (.inr ⟨_, by omega, rfl⟩)

end Percent

namespace Url

/-- A character that a segment keeps. -/
def isKept (c : Char) : Bool := Percent.path c && !isSlash true c

/-- A segment that stands in a path as it is written. -/
structure IsSettled (segment : List Char) : Prop where
  kept : ∀ c ∈ segment, isKept c = true
  notHere : isHere segment = false
  notAbove : isAbove segment = false

end Url

namespace Percent

theorem toNat_of_component {c : Char} (h : component c = true) : c.toNat < 128 := by
  have last (hc : c.isAlphanum = true) : c.val ≤ 'z'.val := by
    have rows : (decide ('A'.val ≤ c.val ∧ c.val ≤ 'Z'.val) ||
        decide ('a'.val ≤ c.val) && decide (c.val ≤ 'z'.val) ||
        decide ('0'.val ≤ c.val) && decide (c.val ≤ '9'.val)) = true := hc
    simp only [Bool.or_eq_true, Bool.and_eq_true, decide_eq_true_eq] at rows
    rcases rows with (upper | lower) | digit
    · exact UInt32.le_trans upper.2 (by decide)
    · exact lower.2
    · exact UInt32.le_trans digit.2 (by decide)
  simp only [component, Bool.or_eq_true, beq_iff_eq] at h
  rcases h with (((hc | rfl) | rfl) | rfl) | rfl
  · exact Nat.lt_of_le_of_lt (last hc) (by decide)
  all_goals decide

theorem of_component {p : Char → Bool}
    (all : ∀ n < 128, component (Char.ofNat n) = true → p (Char.ofNat n) = true) {c : Char}
    (h : component c = true) : p c = true := by
  have := all c.toNat (toNat_of_component h)
  rw [Char.ofNat_toNat] at this
  exact this h

theorem component_of_mem_encode {c : Char} {cs : List Char} (h : c ∈ encode component cs) :
    component c = true ∨ c = '%' := by
  have digits : ∀ n < 16, component (digit n) = true := by decide
  rcases mem_encode h with kept | mark | ⟨n, hn, rfl⟩
  · exact .inl kept
  · exact .inr mark
  · exact .inl (digits n hn)

theorem isKept_of_mem_encode {c : Char} {cs : List Char} (h : c ∈ encode component cs) :
    Url.isKept c = true := by
  rcases component_of_mem_encode h with kept | rfl
  · exact of_component (by decide +kernel) kept
  · decide

theorem specialQuery_of_mem_encode {c : Char} {cs : List Char} (h : c ∈ encode component cs) :
    specialQuery c = true := by
  rcases component_of_mem_encode h with kept | rfl
  · exact of_component (by decide +kernel) kept
  · decide

/-- **An encoded text is a segment as it is**, unless the text is one of the two dot segments. -/
theorem isSettled_encode {cs : List Char} (here : cs ≠ ['.']) (above : cs ≠ ['.', '.']) :
    Url.IsSettled (encode component cs) := by
  have decoded := decode_encode (show component '%' = false by decide) cs
  -- each form of a dot segment stands for one point or for two
  have points : ∀ a ∈ Url.point, decode a = Utf8.encode ['.'] := by decide +kernel
  have pairs : ∀ a ∈ Url.point, ∀ b ∈ Url.point, decode (a ++ b) = Utf8.encode ['.', '.'] := by
    decide +kernel
  refine ⟨fun c => isKept_of_mem_encode, ?_, ?_⟩
  · rw [Url.isHere, ← Bool.not_eq_true, List.contains_iff_mem]
    intro hmem
    exact here (Utf8.encode_injective (decoded.symm.trans (points _ hmem)))
  · rw [Url.isAbove, ← Bool.not_eq_true, List.any_eq_true]
    rintro ⟨a, ha, hany⟩
    obtain ⟨b, hb, heq⟩ := List.any_eq_true.1 hany
    rw [beq_iff_eq] at heq
    rw [heq] at decoded
    exact above (Utf8.encode_injective (decoded.symm.trans (pairs a ha b hb)))

end Percent

namespace Url

/-! ## Paths of settled segments -/

/-- The segments, each behind a slash. -/
def slashed (parts : List (List Char)) : List Char := parts.flatMap ('/' :: ·)

theorem slashed_cons (part : List Char) (parts : List (List Char)) :
    slashed (part :: parts) = '/' :: (part ++ slashed parts) := by simp [slashed]

theorem isSlash_of_isKept {c : Char} (h : isKept c = true) : isSlash true c = false := by
  simp only [isKept, Bool.and_eq_true, Bool.not_eq_true'] at h
  exact h.2

theorem path_of_isKept {c : Char} (h : isKept c = true) : Percent.path c = true := by
  simp only [isKept, Bool.and_eq_true] at h
  exact h.1

theorem endsPath_of_isKept {c : Char} (h : isKept c = true) : endsPath c = false := by
  have := path_of_isKept h
  simp only [endsPath, Bool.or_eq_false_iff, beq_eq_false_iff_ne]
  constructor <;> (rintro rfl; revert this; decide)

theorem gt_of_isKept {c : Char} (h : isKept c = true) : 0x20 < c.toNat := by
  have kept := path_of_isKept h
  have blank : c ≠ ' ' := by
    rintro rfl
    revert kept
    decide
  simp only [Percent.path, Percent.printableBut, Percent.printable, Bool.and_eq_true,
    decide_eq_true_eq] at kept
  have : c.toNat ≠ 0x20 := fun heq => blank (Char.toNat_inj.1 heq)
  omega

theorem push_settled {segment : List Char} (settled : IsSettled segment) (path : List (List Char))
    (last : Bool) : push false path segment last = path ++ [segment] := by
  rw [push, settled.notAbove, settled.notHere,
    Percent.encode_of_keeps fun c hc => path_of_isKept (settled.kept c hc)]
  simp

theorem pushAll_settled {parts : List (List Char)} (settled : ∀ part ∈ parts, IsSettled part)
    (path : List (List Char)) : pushAll false path parts = path ++ parts := by
  induction parts generalizing path with
  | nil => simp [pushAll]
  | cons part parts ih =>
    have here := push_settled (settled part (by simp))
    cases parts with
    | nil => exact here path true
    | cons next parts =>
      rw [pushAll, here, ih fun part hmem => settled part (by simp [hmem])]
      · simp
      · simp

variable {parts : List (List Char)}

theorem splitAt_slashed {part : List Char} (settled : ∀ segment ∈ part :: parts, IsSettled segment) :
    Text.splitAt (isSlash true) (part ++ slashed parts) = part :: parts := by
  have kept : ∀ c ∈ part, isSlash true c = false := fun c hc =>
    isSlash_of_isKept ((settled part (by simp)).kept c hc)
  induction parts generalizing part with
  | nil => simpa [slashed] using Text.splitAt_of_none kept
  | cons next parts ih =>
    have later : ∀ segment ∈ next :: parts, IsSettled segment := fun segment hmem =>
      settled segment (by simp [hmem])
    have first := Text.splitAt_of_none kept
    rw [slashed_cons, Text.splitAt_append (by decide), first,
      ih later fun c hc => isSlash_of_isKept ((later next (by simp)).kept c hc)]
    rfl

theorem mem_slashed {c : Char} (settled : ∀ part ∈ parts, IsSettled part) (h : c ∈ slashed parts) :
    c = '/' ∨ isKept c = true := by
  obtain ⟨part, hpart, hc⟩ := List.mem_flatMap.1 h
  rcases List.mem_cons.1 hc with rfl | hc
  · exact .inl rfl
  · exact .inr ((settled part hpart).kept c hc)

theorem withPath_of_path {url : Url} {text : List Char} (ends : ∀ c ∈ text, endsPath c = false) :
    url.withPath text =
      { url with path := .segments (pathOf url.scheme text), fragment := none } := by
  have whole : text.takeWhile (fun c => !endsPath c) = text :=
    List.takeWhile_eq_self_iff.2 fun c hc => by simp [ends c hc]
  have nothing : text.dropWhile (fun c => !endsPath c) = [] :=
    List.dropWhile_eq_nil_iff.2 fun c hc => by simp [ends c hc]
  rw [withPath, whole, nothing]
  rfl

/-- **A path of settled segments is taken as it is written**, with nothing behind it. -/
theorem withPath_settled {url : Url} (special : isSpecial url.scheme = true)
    (file : (url.scheme == fileScheme) = false) (nonEmpty : parts ≠ [])
    (settled : ∀ part ∈ parts, IsSettled part) :
    url.withPath (slashed parts) = { url with path := .segments parts, fragment := none } := by
  obtain ⟨part, parts, rfl⟩ := List.exists_cons_of_ne_nil nonEmpty
  have ends : ∀ c ∈ slashed (part :: parts), endsPath c = false := by
    intro c hc
    rcases mem_slashed settled hc with rfl | kept
    · decide
    · exact endsPath_of_isKept kept
  have path : pathOf url.scheme (slashed (part :: parts)) = part :: parts := by
    rw [slashed_cons, pathOf]
    simp only [special]
    rw [if_pos (by decide), segmentsOf, special, splitAt_slashed settled, file,
      pushAll_settled settled, List.nil_append]
  rw [withPath_of_path ends, path]

/-! ## Authorities -/

/-- What stands between the scheme and the path, such as a host and a port: no user, and nothing that
ends it or is not seen. -/
structure IsAuthority (text : List Char) : Prop where
  nonEmpty : text ≠ []
  goesOn : ∀ c ∈ text, endsAuthority true c = false
  noUser : '@' ∉ text
  visible : ∀ c ∈ text, 0x20 < c.toNat

variable {text : List Char} {parts : List (List Char)}

theorem isAuthority_of_all (nonEmpty : text ≠ []) (noUser : '@' ∉ text)
    (goesOn : text.all (fun c => !endsAuthority true c) = true)
    (visible : text.all (fun c => 0x20 < c.toNat) = true) : IsAuthority text where
  nonEmpty := nonEmpty
  goesOn c hc := by simpa using List.all_eq_true.1 goesOn c hc
  noUser := noUser
  visible c hc := of_decide_eq_true (List.all_eq_true.1 visible c hc)

theorem withPlace_authority {url placed : Url} (special : isSpecial url.scheme = true)
    (authority : IsAuthority text) (h : url.withPlace text = .ok placed) :
    ∃ host port, placed = { url with host := some host, port } := by
  have front : text.takeWhile (fun c => !endsAuthority true c) = text :=
    List.takeWhile_eq_self_iff.2 fun c hc => by simp [authority.goesOn c hc]
  have noUser : splitUser true text = none := by
    rw [splitUser, front, if_neg (by simpa using authority.noUser)]
  rw [withPlace, noUser] at h
  cases hhost : url.withHost text with
  | error e =>
    rw [hhost] at h
    cases h
  | ok found =>
    obtain ⟨-, host, port, heq⟩ := withHost_ends authority.goesOn special hhost
    rw [hhost] at h
    cases h
    exact ⟨_, _, heq⟩

theorem withAuthority_authority {url found : Url} (special : isSpecial url.scheme = true)
    (authority : IsAuthority text) {rest : List Char}
    (h : url.withAuthority (text ++ '/' :: rest) = .ok found) :
    ∃ host port, found = { url with host := some host, port : Url }.withPath ('/' :: rest) := by
  have slash : endsAuthority true '/' = true := by decide
  rw [withAuthority_append special authority.goesOn slash] at h
  cases hplace : url.withPlace text with
  | error e =>
    rw [hplace] at h
    cases h
  | ok placed =>
    obtain ⟨host, port, rfl⟩ := withPlace_authority special authority hplace
    rw [hplace] at h
    cases h
    exact ⟨host, port, rfl⟩

/-! ## Addresses -/

/-- What stands before the authority. -/
def httpFront : List Char := ['h', 't', 't', 'p', ':', '/', '/']

/-- **An address of an authority has what is written behind it as its path**, and what follows that. -/
theorem parse_authority {address : String} {url : Url} (authority : IsAuthority text)
    {rest : List Char} (seen : ∀ c ∈ rest, 0x20 < c.toNat)
    (written : address.toList = httpFront ++ (text ++ '/' :: rest))
    (h : parse address = .ok url) :
    ∃ host port, url =
      { scheme := "http".toList, host := some host, port : Url }.withPath ('/' :: rest) := by
  have visible : ∀ c ∈ address.toList, 0x20 < c.toNat := by
    intro c hc
    rw [written, List.mem_append, List.mem_append, List.mem_cons] at hc
    rcases hc with front | inside | rfl | behind
    · have seen : httpFront.all (fun c => 0x20 < c.toNat) = true := by decide
      exact of_decide_eq_true (List.all_eq_true.1 seen c front)
    · exact authority.visible c inside
    · decide
    · exact seen c behind
  have stripped : Text.strip (fun c => c.toNat ≤ 0x20) address.toList = address.toList :=
    Text.strip_of_ends (fun c hc => by simpa using visible c (List.mem_of_mem_head? hc))
      fun c hc => by simpa using visible c (List.mem_of_mem_getLast? hc)
  have filtered : (address.toList.filter fun c => c != '\t' && c != '\n' && c != '\r') =
      address.toList := by
    refine List.filter_eq_self.2 fun c hc => ?_
    have := visible c hc
    simp only [Bool.and_eq_true, bne_iff_ne]
    refine ⟨⟨?_, ?_⟩, ?_⟩ <;> (rintro rfl; revert this; decide)
  have http : "http".toList = ['h', 't', 't', 'p'] := by decide
  have scheme : splitScheme? address.toList =
      some ("http".toList, '/' :: '/' :: (text ++ '/' :: rest)) := by
    rw [written, http]
    rfl
  have noSlash : ('/' :: '/' :: (text ++ '/' :: rest)).dropWhile (isSlash true) =
      text ++ '/' :: rest := by
    obtain ⟨c, more, rfl⟩ := List.exists_cons_of_ne_nil authority.nonEmpty
    have goesOn : isSlash true c = false := (Bool.or_eq_false_iff.1 (authority.goesOn c (by simp))).2
    have slash : isSlash true '/' = true := rfl
    simp [slash, goesOn]
  have file : ("http".toList == fileScheme) = false := by decide
  have special : isSpecial "http".toList = true := by decide
  simp only [parse, stripped, filtered, scheme, noSlash, file, special] at h
  exact withAuthority_authority special authority h

/-- **An address of an authority and settled segments has these segments as its path**, and nothing
behind it. -/
theorem parse_settled {address : String} {url : Url} (authority : IsAuthority text)
    (nonEmpty : parts ≠ []) (settled : ∀ part ∈ parts, IsSettled part)
    (written : address.toList = httpFront ++ (text ++ slashed parts))
    (h : parse address = .ok url) :
    ∃ host port, url = { scheme := "http".toList, host, port, path := .segments parts } := by
  obtain ⟨rest, hrest⟩ : ∃ rest, slashed parts = '/' :: rest := by
    obtain ⟨part, parts, rfl⟩ := List.exists_cons_of_ne_nil nonEmpty
    exact ⟨_, slashed_cons part parts⟩
  have seen : ∀ c ∈ rest, 0x20 < c.toNat := by
    intro c hc
    rcases mem_slashed settled (hrest ▸ List.mem_cons_of_mem _ hc) with rfl | kept
    · decide
    · exact gt_of_isKept kept
  rw [hrest] at written
  obtain ⟨host, port, rfl⟩ := parse_authority authority seen written h
  have special : isSpecial "http".toList = true := by decide
  have file : ("http".toList == fileScheme) = false := by decide
  exact ⟨some host, port, by rw [← hrest, withPath_settled special file nonEmpty settled]⟩

end Url

/-! ## Requests -/

namespace Request

variable {transport : Transport} {method : Method} {address : String} {headers : Headers}
  {body : Option String} {request : Request}

theorem eq_of_prepare (h : prepare transport method address headers body = .ok request) :
    ∃ url, Url.parse address = .ok url ∧ request =
      { method, url := url.withoutUser, headers := withDefaults headers transport.defaultHeaders,
        body, timeout := transport.timeout } := by
  unfold prepare at h
  split at h
  · cases h
  · rename_i url parsed
    dsimp only at h
    split at h
    · cases h
    split at h
    · cases h
    split at h
    · cases h
    split at h
    · cases h
    · cases h
      exact ⟨url, parsed, rfl⟩

theorem of_prepare (h : prepare transport method address headers body = .ok request) :
    request.method = method ∧ request.body = body ∧
      ∃ url, Url.parse address = .ok url ∧ request.url = url.withoutUser := by
  obtain ⟨url, parsed, rfl⟩ := eq_of_prepare h
  exact ⟨rfl, rfl, url, parsed, rfl⟩

open Url in
/-- **A request for an address of an authority and settled segments asks for these segments.** -/
theorem pathChars_of_prepare {text first : List Char} {parts : List (List Char)}
    (authority : IsAuthority text) (nonEmpty : first ≠ [])
    (settled : ∀ part ∈ first :: parts, IsSettled part)
    (written : address.toList = httpFront ++ (text ++ slashed (first :: parts)))
    (h : prepare transport method address headers body = .ok request) :
    request.url.pathChars = slashed (first :: parts) := by
  obtain ⟨-, -, url, parsed, hurl⟩ := of_prepare h
  obtain ⟨host, port, rfl⟩ := parse_settled authority (by simp) settled written parsed
  simp [hurl, withoutUser, pathChars, nonEmpty, slashed]

end Request

end ConversationMemory
