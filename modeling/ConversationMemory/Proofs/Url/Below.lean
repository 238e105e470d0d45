import ConversationMemory.Handle
import ConversationMemory.Proofs.Http
import ConversationMemory.Resolution
import Mathlib.Data.List.DropRight

/-!
# Addresses below an address

A base address is accepted when it is one for `http` or `https`; a path is then written behind it and
the whole is read again.

* `Url.seenFront`: what counts of a text with something behind it.
* **`parse_below`**: an address below an accepted one has the same place, and a tail that goes on from
  its tail.
* `exists_pathOf`: where the path of the tail has come to, does not depend on what follows.
* **`exists_target`**: what follows is at the end of the path, at the end of the query, or in
  the fragment.
-/

namespace ConversationMemory

namespace Text

theorem mem_dropWhile_iff {p : Char → Bool} {c : Char} (h : p c = false) {text : List Char} :
    c ∈ text.dropWhile p ↔ c ∈ text := by
  induction text with
  | nil => rfl
  | cons x text ih =>
    rw [List.dropWhile_cons]
    split
    · rename_i hx
      have other : c ≠ x := by
        rintro rfl
        rw [h] at hx
        cases hx
      rw [ih, List.mem_cons, or_iff_right other]
    · rfl

end Text

namespace Url

/-! ## Texts with something behind them -/

/-- What counts of a text when there is something behind it. -/
def seenFront (text : List Char) : List Char :=
  (text.dropWhile fun c => c.toNat ≤ 0x20).filter fun c => c != '\t' && c != '\n' && c != '\r'

theorem seen_append {tail : List Char} (nonEmpty : tail ≠ []) (visible : ∀ c ∈ tail, 0x20 < c.toNat)
    (text : List Char) : seen (text ++ tail) = seenFront text ++ tail := by
  have kept : tail.filter (fun c => c != '\t' && c != '\n' && c != '\r') = tail := by
    refine List.filter_eq_self.2 fun c hc => ?_
    have := visible c hc
    simp only [Bool.and_eq_true, bne_iff_ne]
    refine ⟨⟨?_, ?_⟩, ?_⟩ <;> (rintro rfl; revert this; decide)
  have front : (text ++ tail).dropWhile (fun c => c.toNat ≤ 0x20) =
      text.dropWhile (fun c => c.toNat ≤ 0x20) ++ tail := by
    obtain ⟨c, rest, rfl⟩ := List.exists_cons_of_ne_nil nonEmpty
    exact Text.dropWhile_stops (by simpa using visible c (by simp)) _ _
  have back : Text.strip (fun c => c.toNat ≤ 0x20) (text ++ tail) =
      text.dropWhile (fun c => c.toNat ≤ 0x20) ++ tail := by
    obtain ⟨rest, c, rfl⟩ := (List.eq_nil_or_concat' tail).resolve_left nonEmpty
    have last : ¬ c.toNat ≤ 0x20 := by simpa using visible c (by simp)
    rw [Text.strip, front]
    simp [last]
  rw [seen, back, List.filter_append, kept, seenFront]

theorem seen_begins (text : List Char) : seen text <+: seenFront text :=
  (List.rdropWhile_prefix _ _).filter _

theorem mem_seenFront {c : Char} (visible : 0x20 < c.toNat) {text : List Char} :
    c ∈ seenFront text ↔ c ∈ text := by
  have notBlank : c ≠ '\t' ∧ c ≠ '\n' ∧ c ≠ '\r' := by
    refine ⟨?_, ?_, ?_⟩ <;> (rintro rfl; revert visible; decide)
  rw [seenFront, List.mem_filter, Text.mem_dropWhile_iff (by simpa using visible)]
  simp [notBlank]

theorem withAuthority_nil {url : Url} (special : isSpecial url.scheme = true) :
    url.withAuthority [] = .error .emptyHost := by
  have noUser : splitUser true [] = none := rfl
  simp only [withAuthority, special, noUser, withHost]
  rfl

/-! ## Addresses below an address -/

/-- The schemes of requests. -/
def IsHttp (scheme : List Char) : Prop := scheme = "http".toList ∨ scheme = "https".toList

theorem IsHttp.special {scheme : List Char} (h : IsHttp scheme) : isSpecial scheme = true := by
  rcases h with rfl | rfl <;> decide

theorem IsHttp.not_file {scheme : List Char} (h : IsHttp scheme) :
    (scheme == fileScheme) = false := by
  rcases h with rfl | rfl <;> decide

theorem parse_of_validate {address : String} (h : Resolver.validate address = .ok ()) :
    ∃ url, parse address = .ok url ∧ IsHttp url.scheme := by
  unfold Resolver.validate at h
  split at h
  · cases h
  · rename_i url parsed
    split at h
    · rename_i http
      exact ⟨url, parsed, http⟩
    · cases h

theorem mem_normalize {c : Char} (h : c ≠ '/') {address : String} :
    c ∈ (normalize address).toList ↔ c ∈ address.toList := by
  by_cases slash : address.toList.getLast? = some '/'
  · obtain ⟨front, hfront⟩ := List.getLast?_eq_some_iff.1 slash
    rw [normalize, if_pos slash, hfront, List.dropLast_concat, String.toList_ofList]
    simp [h]
  · rw [normalize, if_neg slash]

theorem seen_normalize_begins (address : String) :
    seen address.toList <+: seenFront (normalize address).toList ++ ['/'] := by
  by_cases slash : address.toList.getLast? = some '/'
  · obtain ⟨front, hfront⟩ := List.getLast?_eq_some_iff.1 slash
    have shorter : (normalize address).toList = front := by
      rw [normalize, if_pos slash, hfront, List.dropLast_concat, String.toList_ofList]
    refine ⟨[], (List.append_nil _).trans ?_⟩
    rw [shorter, hfront]
    exact seen_append (by simp) (List.forall_mem_singleton.2 (by decide)) front
  · rw [normalize, if_neg slash]
    exact (seen_begins _).trans (List.prefix_append _ _)

theorem splitScheme?_of_validate {address : String} (accepted : Resolver.validate address = .ok ()) :
    ∃ scheme base, IsHttp scheme ∧
      splitScheme? (seenFront (normalize address).toList) = some (scheme, base) ∧
      base.dropWhile (isSlash true) ≠ [] := by
  obtain ⟨url, parsed, http⟩ := parse_of_validate accepted
  obtain ⟨behind, hscheme⟩ := splitScheme?_of_parse parsed
  have goesOn : behind.dropWhile (isSlash true) ≠ [] := by
    intro nothing
    have empty := @withAuthority_nil { scheme := url.scheme } http.special
    rw [parse_of_special hscheme http.special http.not_file, nothing, empty] at parsed
    cases parsed
  obtain ⟨more, hmore⟩ := seen_normalize_begins address
  have whole := splitScheme?_append hscheme more
  rw [hmore, splitScheme?_slash, Option.map_eq_some_iff] at whole
  obtain ⟨⟨scheme, base⟩, hbase, heq⟩ := whole
  obtain ⟨rfl, hbehind⟩ := Prod.mk.inj heq
  refine ⟨_, base, http, hbase, fun nothing => goesOn ?_⟩
  rw [List.dropWhile_eq_nil_iff] at nothing ⊢
  intro c hc
  have hmem : c ∈ base ++ ['/'] := hbehind ▸ List.mem_append_left more hc
  rcases List.mem_append.1 hmem with hc | hc
  · exact nothing c hc
  · obtain rfl := List.mem_singleton.1 hc
    decide

theorem goesOn_of_mem_takeWhile (text : List Char) :
    ∀ c ∈ text.takeWhile (fun c => !endsAuthority true c), endsAuthority true c = false :=
  fun c hc => by simpa using List.mem_takeWhile_imp hc

theorem withAuthority_slash {url : Url} (special : isSpecial url.scheme = true)
    (text rest : List Char) : url.withAuthority (text ++ '/' :: rest) =
      (url.withPlace (text.takeWhile fun c => !endsAuthority true c)).map
        (·.withPath (text.dropWhile (fun c => !endsAuthority true c) ++ '/' :: rest)) := by
  have inside := goesOn_of_mem_takeWhile text
  have parts := List.takeWhile_append_dropWhile (p := fun c => !endsAuthority true c) (l := text)
  generalize text.takeWhile (fun c => !endsAuthority true c) = front at inside parts ⊢
  cases htail : text.dropWhile (fun c => !endsAuthority true c) with
  | nil =>
    rw [htail, List.append_nil] at parts
    rw [← parts, withAuthority_append special inside (by decide)]
    rfl
  | cons mark more =>
    have ends : endsAuthority true mark = true := by
      have := List.head?_dropWhile_not (fun c => !endsAuthority true c) text
      rw [htail] at this
      simpa using this
    have whole : text ++ '/' :: rest = front ++ mark :: (more ++ '/' :: rest) := by
      rw [← parts, htail, List.append_assoc, List.cons_append]
    rw [whole, withAuthority_append special inside ends]
    rfl

/-- **An address below an accepted one has the same place**, and a tail that goes on from its tail. -/
theorem parse_below {address : String} (accepted : Resolver.validate address = .ok ()) :
    ∃ (place : Except UrlError Url) (front : List Char),
      (∀ url, place = .ok url → IsHttp url.scheme ∧ url.host.isSome) ∧
      ('#' ∈ front ↔ '#' ∈ address.toList) ∧
      ∀ rest, (∀ c ∈ rest, 0x20 < c.toNat) →
        parse (String.ofList ((normalize address).toList ++ '/' :: rest)) =
          place.map (·.withPath (front ++ '/' :: rest)) := by
  obtain ⟨scheme, base, http, hbase, named⟩ := splitScheme?_of_validate accepted
  refine ⟨withPlace { scheme }
      ((base.dropWhile (isSlash true)).takeWhile fun c => !endsAuthority true c),
    (base.dropWhile (isSlash true)).dropWhile fun c => !endsAuthority true c, ?_, ?_, ?_⟩
  · intro url hurl
    obtain ⟨hscheme, hhost⟩ := of_withPlace http.special (goesOn_of_mem_takeWhile _) hurl
    exact ⟨hscheme ▸ http, hhost⟩
  · obtain ⟨first, name, heq, chars, -⟩ := splitScheme?_eq_some.1 hbase
    have noHash : '#' ∉ first :: name := fun hmem => absurd (chars _ hmem) (by decide)
    rw [Text.mem_dropWhile_iff (by decide), Text.mem_dropWhile_iff (by decide),
      ← mem_normalize (by decide),
      ← @mem_seenFront '#' (by decide) (normalize address).toList, heq, List.mem_append,
      or_iff_right noHash, List.mem_cons, or_iff_right (by decide)]
  · intro rest visible
    have hseen : seen (String.ofList ((normalize address).toList ++ '/' :: rest)).toList =
        seenFront (normalize address).toList ++ '/' :: rest := by
      rw [String.toList_ofList]
      refine seen_append (by simp) (fun c hc => ?_) _
      rcases List.mem_cons.1 hc with rfl | hc
      · decide
      · exact visible c hc
    have scheme := hseen ▸ splitScheme?_append hbase ('/' :: rest)
    rw [parse_of_special scheme http.special http.not_file, List.dropWhile_append,
      if_neg (by rwa [List.isEmpty_iff]), withAuthority_slash http.special]

/-! ## Paths -/

theorem pushAll_append (file : Bool) (path front : List (List Char)) {back : List (List Char)}
    (h : back ≠ []) : pushAll file path (front ++ back) =
      pushAll file (front.foldl (fun path segment => push file path segment false) path) back := by
  induction front generalizing path with
  | nil => rfl
  | cons segment front ih =>
    obtain ⟨next, rest, heq⟩ := List.exists_cons_of_ne_nil (List.append_ne_nil_of_right_ne_nil front h)
    rw [List.cons_append, List.foldl_cons, ← ih, heq]
    rfl

theorem exists_pathOf {scheme : List Char} (special : isSpecial scheme = true)
    (file : (scheme == fileScheme) = false) (front : List Char) :
    ∃ path, ∀ rest, pathOf scheme (front ++ '/' :: rest) =
      pushAll false path (Text.splitAt (isSlash true) rest) := by
  have slash : isSlash true '/' = true := by decide
  have behind (text : List Char) : ∃ path, ∀ rest, segmentsOf scheme (text ++ '/' :: rest) =
      pushAll false path (Text.splitAt (isSlash true) rest) := by
    refine ⟨(Text.splitAt (isSlash true) text).foldl
      (fun path segment => push false path segment false) [], fun rest => ?_⟩
    rw [segmentsOf, special, file, Text.splitAt_append slash,
      pushAll_append _ _ _ (Text.splitAt_ne_nil _ _)]
  cases front with
  | nil => exact ⟨[], fun rest => by simp [pathOf, special, slash, segmentsOf, file]⟩
  | cons c front =>
    by_cases h : isSlash true c = true
    · obtain ⟨path, hpath⟩ := behind front
      exact ⟨path, fun rest => by simp [pathOf, special, h, hpath]⟩
    · obtain ⟨path, hpath⟩ := behind (c :: front)
      exact ⟨path, fun rest => by simpa [pathOf, special, h] using hpath rest⟩

theorem shorten_concat {segment : List Char} (h : keepsPlace segment = false)
    (path : List (List Char)) : shorten (path ++ [segment]) = path := by
  simp [shorten, h]

theorem slashed_append (front back : List (List Char)) :
    slashed (front ++ back) = slashed front ++ slashed back :=
  List.flatMap_append


/-! ## Targets -/

theorem target_eq {url : Url} {parts : List (List Char)} (host : url.host.isSome)
    (segments : url.path = .segments parts) :
    url.target = slashed parts ++ (url.query.map ('?' :: ·)).getD [] := by
  have named : url.host.isNone = false := by simpa using host
  unfold target pathChars
  rw [segments]
  cases url.query <;> simp [named, slashed]

theorem withPath_mark {url : Url} {mark : Char} (ends : endsPath mark = true) {front : List Char}
    (path : ∀ c ∈ front, endsPath c = false) (rest : List Char) :
    url.withPath (front ++ mark :: rest) =
      withQuery { url with path := .segments (pathOf url.scheme front) } (mark :: rest) := by
  have stops : (!endsPath mark) = false := by rw [ends]; rfl
  have whole : front.takeWhile (fun c => !endsPath c) = front :=
    List.takeWhile_eq_self_iff.2 fun c hc => by simp [path c hc]
  have nothing : front.dropWhile (fun c => !endsPath c) = [] :=
    List.dropWhile_eq_nil_iff.2 fun c hc => by simp [path c hc]
  rw [withPath, Text.takeWhile_stops (p := fun c => !endsPath c) stops,
    Text.dropWhile_stops (p := fun c => !endsPath c) stops, whole, nothing, List.nil_append]

theorem target_withQuery {url : Url} {parts : List (List Char)}
    (special : isSpecial url.scheme = true) (host : url.host.isSome)
    (segments : url.path = .segments parts) (rest : List Char) :
    (url.withQuery ('?' :: rest)).target =
      slashed parts ++ '?' :: Percent.encode Percent.specialQuery (rest.takeWhile (· != '#')) := by
  simp only [withQuery, special, if_true]
  exact target_eq host segments

theorem path_cases (front : List Char) : (∀ c ∈ front, endsPath c = false) ∨
    ∃ path mark more, front = path ++ mark :: more ∧ (∀ c ∈ path, endsPath c = false) ∧
      (mark = '?' ∨ mark = '#') := by
  induction front with
  | nil => exact .inl (by simp)
  | cons c front ih =>
    by_cases h : endsPath c = true
    · exact .inr ⟨[], c, front, rfl, by simp, by simpa [endsPath] using h⟩
    · have goesOn : endsPath c = false := by simpa using h
      rcases ih with path | ⟨path, mark, more, rfl, inside, marks⟩
      · exact .inl (by simpa [goesOn] using path)
      · exact .inr ⟨c :: path, mark, more, rfl, by simpa [goesOn] using inside, marks⟩

/-- **What stands behind a text ends the path, or ends the query, or does not count for the target**,
and this last only behind the mark of a fragment. -/
theorem exists_target {url : Url} (special : isSpecial url.scheme = true)
    (file : (url.scheme == fileScheme) = false) (host : url.host.isSome) (front : List Char) :
    ('#' ∈ front ∧ ∃ seen, ∀ rest, (url.withPath (front ++ '/' :: rest)).target = seen) ∨
    ('#' ∉ front ∧ ∃ path behind, ∀ rest, (∀ c ∈ rest, endsPath c = false) →
      (url.withPath (front ++ '/' :: rest)).target =
        slashed (pushAll false path (Text.splitAt (isSlash true) rest)) ++ behind) ∨
    ('#' ∉ front ∧ ∃ seen, ∀ rest, (∀ c ∈ rest, c ≠ '#' ∧ Percent.specialQuery c = true) →
      (url.withPath (front ++ '/' :: rest)).target = seen ++ '/' :: rest) := by
  have noHash {text : List Char} (path : ∀ c ∈ text, endsPath c = false) : '#' ∉ text := fun hmem =>
    absurd (path _ hmem) (by decide)
  rcases path_cases front with inside | ⟨path, mark, more, rfl, inside, rfl | rfl⟩
  · obtain ⟨path, hpath⟩ := exists_pathOf special file front
    refine .inr (.inl ⟨noHash inside, path, (url.query.map ('?' :: ·)).getD [],
      fun rest ends => ?_⟩)
    have through : ∀ c ∈ front ++ '/' :: rest, endsPath c = false := by
      intro c hc
      rcases List.mem_append.1 hc with hc | hc
      · exact inside c hc
      rcases List.mem_cons.1 hc with rfl | hc
      · decide
      · exact ends c hc
    rw [withPath_of_path through, ← hpath]
    exact target_eq host rfl
  · have query (rest : List Char) : (url.withPath ((path ++ '?' :: more) ++ '/' :: rest)).target =
        slashed (pathOf url.scheme path) ++
          '?' :: Percent.encode Percent.specialQuery ((more ++ '/' :: rest).takeWhile (· != '#')) := by
      rw [List.append_assoc, List.cons_append, withPath_mark (by decide) inside]
      exact @target_withQuery { url with path := .segments _ } _ special host rfl _
    by_cases hash : '#' ∈ more
    · obtain ⟨before, after, rfl⟩ := List.append_of_mem hash
      refine .inl ⟨by simp, slashed (pathOf url.scheme path) ++
        '?' :: Percent.encode Percent.specialQuery (before.takeWhile (· != '#')), fun rest => ?_⟩
      rw [query, List.append_assoc, List.cons_append, Text.takeWhile_stops (by decide)]
    · have clear : '#' ∉ path ++ '?' :: more := by simp [noHash inside, hash]
      refine .inr (.inr ⟨clear, slashed (pathOf url.scheme path) ++
        '?' :: Percent.encode Percent.specialQuery more, fun rest kept => ?_⟩)
      have whole : (more ++ '/' :: rest).takeWhile (· != '#') = more ++ '/' :: rest := by
        refine List.takeWhile_eq_self_iff.2 fun c hc => ?_
        rw [bne_iff_ne]
        rintro rfl
        rcases List.mem_append.1 hc with hc | hc
        · exact hash hc
        rcases List.mem_cons.1 hc with slash | hc
        · revert slash
          decide
        · exact (kept _ hc).1 rfl
      have same : Percent.encode Percent.specialQuery ('/' :: rest) = '/' :: rest := by
        refine Percent.encode_of_keeps fun c hc => ?_
        rcases List.mem_cons.1 hc with rfl | hc
        · decide
        · exact (kept c hc).2
      rw [query, whole, Percent.encode, List.flatMap_append, ← Percent.encode, ← Percent.encode, same,
        List.append_assoc, List.cons_append]
  · refine .inl ⟨by simp, (url.withPath path).target, fun rest => ?_⟩
    rw [List.append_assoc, List.cons_append, withPath_mark (by decide) inside, withPath_of_path inside]
    rfl

end Url

end ConversationMemory
