import ConversationMemory.Proofs.Url.Below
import ConversationMemory.Proofs.Url.Name

/-!
# Hosts below a domain

* `Ipv6.writes_of_parse?`: what an address of eight pieces is written with.
* `Domain.IsProper`: a plain domain that no network address ends in. `Host.exists_of_parse`: a host
  that ends in one is a name below it; `Host.parse_colon_ne_ok`: no colon may follow it.
* `Url.hostText`: the text of the host in an authority. `Url.host_of_withAuthority`: an address has the
  host that is read from it.
* **`Url.host_below`**: an authority with a proper domain in front of its port has a host below this
  domain, whatever begins it.
-/

namespace ConversationMemory

/-! ## Network addresses -/

theorem isSome_of_mapM {α β : Type} {f : α → Option β} {as : List α} {bs : List β}
    (h : as.mapM f = some bs) : ∀ a ∈ as, (f a).isSome := by
  induction as generalizing bs with
  | nil => nofun
  | cons first as ih =>
    rw [List.mapM_cons] at h
    obtain ⟨b, hb, h⟩ := Option.bind_eq_some_iff.1 h
    obtain ⟨rest, hrest, -⟩ := Option.bind_eq_some_iff.1 h
    intro a ha
    rcases List.mem_cons.1 ha with rfl | ha
    · rw [hb]
      rfl
    · exact ih hrest a ha

theorem Ipv4.digits_of_inBase? {base : Nat} {digits : List Char}
    (h : (inBase? base digits).isSome) : ∀ c ∈ digits, (Text.hexDigit? c).isSome := by
  rw [inBase?] at h
  generalize 0 = sum at h
  induction digits generalizing sum with
  | nil => nofun
  | cons d digits ih =>
    obtain ⟨n, h⟩ := Option.isSome_iff_exists.1 h
    rw [List.foldlM_cons] at h
    obtain ⟨next, hnext, h⟩ := Option.bind_eq_some_iff.1 h
    obtain ⟨value, hvalue, -⟩ := Option.bind_eq_some_iff.1 hnext
    intro c hc
    rcases List.mem_cons.1 hc with rfl | hc
    · rw [hvalue]
      rfl
    · exact ih next (by rw [h]; rfl) c hc

namespace Ipv6

/-- What an address of eight pieces is written with. -/
def Writes (c : Char) : Prop := (Text.hexDigit? c).isSome ∨ c = ':' ∨ c = '.'

theorem writes_of_piece? {digits : List Char} (h : (piece? digits).isSome) :
    ∀ c ∈ digits, Writes c := by
  unfold piece? at h
  split at h
  · cases h
  · exact fun c hc => .inl (Ipv4.digits_of_inBase? h c hc)

theorem writes_of_byte? {digits : List Char} (h : (byte? digits).isSome) :
    ∀ c ∈ digits, Writes c := by
  unfold byte? at h
  split at h
  · cases h
  · obtain ⟨n, h⟩ := Option.isSome_iff_exists.1 h
    have value := Option.isSome_of_mem (Option.filter_eq_some_iff.1 h).1
    exact fun c hc => .inl (Ipv4.digits_of_inBase? value c hc)

theorem writes_of_bytes? {text : List Char} (h : (bytes? text).isSome) : ∀ c ∈ text, Writes c := by
  intro c hc
  rcases @Text.separates_or_mem_splitAt (· == '.') _ _ hc with point | ⟨part, hpart, hc⟩
  · exact .inr (.inr (beq_iff_eq.1 point))
  · unfold bytes? at h
    split at h
    · rename_i heq
      exact writes_of_byte? (isSome_of_mapM heq part hpart) c hc
    · cases h

theorem writes_of_pieces? {text : List Char} {last : Bool} (h : (pieces? text last).isSome) :
    ∀ c ∈ text, Writes c := by
  intro c hc
  rcases @Text.separates_or_mem_splitAt (· == ':') _ _ hc with colon | ⟨part, hpart, hc'⟩
  · exact .inr (.inl (beq_iff_eq.1 colon))
  unfold pieces? at h
  dsimp only at h
  split at h
  · rename_i empty
    rw [List.isEmpty_iff.1 empty] at hc
    cases hc
  split at h
  · cases h
  rename_i final hfinal
  obtain ⟨all, h⟩ := Option.isSome_iff_exists.1 h
  obtain ⟨front, hfront, h⟩ := Option.bind_eq_some_iff.1 h
  obtain ⟨before, heq⟩ := List.getLast?_eq_some_iff.1 hfinal
  rw [heq, List.dropLast_concat] at hfront
  rw [heq, List.mem_append, List.mem_singleton] at hpart
  rcases hpart with hpart | rfl
  · exact writes_of_piece? (isSome_of_mapM hfront part hpart) c hc'
  split at h
  · obtain ⟨bytes, hbytes, -⟩ := Option.bind_eq_some_iff.1 h
    exact writes_of_bytes? (by rw [hbytes]; rfl) c hc'
  · obtain ⟨piece, hpiece, -⟩ := Option.bind_eq_some_iff.1 h
    exact writes_of_piece? (by rw [hpiece]; rfl) c hc'

theorem splitGap_spells {text before after : List Char} (h : splitGap text = some (before, after)) :
    text = before ++ ':' :: ':' :: after := by
  fun_induction splitGap text generalizing before with
  | case1 rest => cases h; rfl
  | case2 c rest _ ih =>
    obtain ⟨⟨front, back⟩, hfound, heq⟩ := Option.map_eq_some_iff.1 h
    obtain ⟨rfl, rfl⟩ := Prod.mk.inj heq
    rw [ih hfound]
    rfl
  | case3 => cases h

theorem writes_of_parse? {text : List Char} (h : (parse? text).isSome) : ∀ c ∈ text, Writes c := by
  unfold parse? at h
  obtain ⟨pieces, h⟩ := Option.isSome_iff_exists.1 h
  split at h
  · obtain ⟨all, hall, -⟩ := Option.bind_eq_some_iff.1 h
    exact writes_of_pieces? (by rw [hall]; rfl)
  · rename_i before after hgap
    obtain ⟨front, hfront, h⟩ := Option.bind_eq_some_iff.1 h
    obtain ⟨back, hback, -⟩ := Option.bind_eq_some_iff.1 h
    rw [splitGap_spells hgap]
    intro c hc
    simp only [List.mem_append, List.mem_cons] at hc
    rcases hc with hc | rfl | rfl | hc
    · exact writes_of_pieces? (by rw [hfront]; rfl) c hc
    · exact .inr (.inl rfl)
    · exact .inr (.inl rfl)
    · exact writes_of_pieces? (by rw [hback]; rfl) c hc

end Ipv6

/-! ## Hosts below a domain -/

instance (c : Char) : Decidable (Ipv6.Writes c) := by
  unfold Ipv6.Writes
  infer_instance

/-- A plain domain that no network address ends in. -/
structure Domain.IsProper (domain : List Char) : Prop where
  plain : IsPlain domain
  ends : (Text.splitAt (· == '.') domain).getLast? ≠ some []
  noNumber : Ipv4.looksNumeric domain = false
  letter : ∃ c ∈ domain, ¬ Ipv6.Writes c

theorem Ipv4.looksNumeric_append_cons {domain : List Char}
    (ends : (Text.splitAt (· == '.') domain).getLast? ≠ some []) (front : List Char) :
    looksNumeric (front ++ '.' :: domain) = looksNumeric domain := by
  have last : (parts (front ++ '.' :: domain)).getLast? = (parts domain).getLast? := by
    have final := List.getLast?_eq_some_getLast (Text.splitAt_ne_nil (· == '.') domain)
    have whole : (Text.splitAt (· == '.') (front ++ '.' :: domain)).getLast? =
        (Text.splitAt (· == '.') domain).getLast? := by
      rw [@Text.splitAt_append (· == '.') '.' rfl, List.getLast?_append, final, Option.some_or]
    rw [parts, parts, whole, if_neg ends, if_neg ends, whole]
  rw [looksNumeric, looksNumeric, last]

namespace Host

theorem exists_of_parseBrackets? {text : List Char} {host : Host}
    (h : parseBrackets? text = some (.ok host)) :
    ∃ inner, text = '[' :: (inner ++ [']']) ∧ (Ipv6.parse? inner).isSome := by
  unfold parseBrackets? at h
  split at h
  · rename_i rest
    split at h
    · rename_i closes
      obtain ⟨inner, rfl⟩ := List.getLast?_eq_some_iff.1 closes
      rw [List.dropLast_concat] at h
      cases hpieces : Ipv6.parse? inner with
      | none =>
        rw [hpieces] at h
        cases h
      | some pieces => exact ⟨inner, rfl, by rw [hpieces]; rfl⟩
    · cases h
  · cases h

section

variable {domain : List Char} (proper : Domain.IsProper domain)

include proper

theorem parseBrackets?_ne_ok {text : List Char} (part : ∀ c ∈ domain, c ∈ text) (host : Host) :
    parseBrackets? text ≠ some (.ok host) := by
  intro h
  obtain ⟨inner, rfl, pieces⟩ := exists_of_parseBrackets? h
  obtain ⟨c, hc, other⟩ := proper.letter
  have plain := proper.plain c hc
  have inside : c ∈ inner := by
    have := part c hc
    simp only [List.mem_cons, List.mem_append, List.not_mem_nil, or_false] at this
    rcases this with rfl | inside | rfl
    · exact absurd plain (by decide)
    · exact inside
    · exact absurd plain (by decide)
  exact other (Ipv6.writes_of_parse? pieces c inside)

/-- **A host whose text ends in a proper domain is a name below this domain.** -/
theorem exists_of_parse {front : List Char} {host : Host}
    (h : parse (front ++ '.' :: domain) = .ok host) :
    ∃ name, host = .domain (name ++ '.' :: domain) := by
  have brackets : parseBrackets? (front ++ '.' :: domain) ≠ some (.ok host) :=
    parseBrackets?_ne_ok proper
      (fun c hc => List.mem_append_right _ (List.mem_cons_of_mem _ hc)) host
  have percent : '%' ∉ domain := fun hmem => absurd (proper.plain _ hmem) (by decide)
  unfold parse at h
  split at h
  · rename_i hresult
    rw [h] at hresult
    exact (brackets hresult).elim
  split at h
  · cases h
  · cases h
  · rename_i found _ hfound
    obtain ⟨spelled, hspelled, hfound⟩ := Option.bind_eq_some_iff.1 hfound
    change spelled? (front ++ '.' :: domain) = some spelled at hspelled
    rw [spelled?_append_cons (by decide) (by decide) (by decide), spelled?_eq_self percent]
      at hspelled
    obtain ⟨name, -, hspelled⟩ := Option.bind_eq_some_iff.1 hspelled
    obtain rfl := Option.some.inj hspelled
    obtain ⟨name, rfl⟩ := proper.plain.ascii? hfound
    rw [Ipv4.looksNumeric_append_cons proper.ends, proper.noNumber] at h
    cases h
    exact ⟨name, rfl⟩

theorem parse_colon_ne_ok (front more : List Char) (host : Host) :
    parse (front ++ '.' :: domain ++ ':' :: more) ≠ .ok host := by
  intro h
  have brackets : parseBrackets? (front ++ '.' :: domain ++ ':' :: more) ≠ some (.ok host) :=
    parseBrackets?_ne_ok proper (fun c hc => by simp [hc]) host
  unfold parse at h
  split at h
  · rename_i hresult
    rw [h] at hresult
    exact brackets hresult
  have nothing : (spelled? (front ++ '.' :: domain ++ ':' :: more)).bind Domain.ascii? = none := by
    rw [spelled?_append_cons (by decide) (by decide) (by decide)]
    cases spelled? (front ++ '.' :: domain) with
    | none => rfl
    | some a =>
      cases spelled? more with
      | none => rfl
      | some b => exact Domain.ascii?_of_forbidden (by decide) (by decide) a b
  rw [spelled?] at nothing
  rw [nothing] at h
  cases h

end

end Host

/-! ## Hosts of authorities -/

namespace Url

/-- What is named in an authority: all that stands behind the last `@`. -/
def named (authority : List Char) : List Char := authority.rtakeWhile (· != '@')

/-- The text of the host in an authority. -/
def hostText (authority : List Char) : List Char :=
  (named authority).take (hostLength true false (named authority))

theorem readPort_rest {text after : List Char} {port : Option Nat}
    (h : readPort text = .ok (port, after)) : after = text.dropWhile Char.isDigit := by
  unfold readPort at h
  dsimp only at h
  split at h
  · cases h
  split at h
  · cases h
    rfl
  · split at h
    · cases h
      rfl
    · cases h

theorem withPath_host (url : Url) (text : List Char) : (url.withPath text).host = url.host := by
  unfold withPath withQuery
  dsimp only
  split <;> rfl

section

variable {url found : Url} {text : List Char} (special : isSpecial url.scheme = true)
  (goesOn : ∀ c ∈ text, endsAuthority true c = false)

include goesOn

theorem splitUser_cases : (splitUser true text = none ∧ named text = text) ∨
    ∃ user, splitUser true text = some (user, named text) := by
  have whole : text.takeWhile (fun c => !endsAuthority true c) = text :=
    List.takeWhile_eq_self_iff.2 fun c hc => by simp [goesOn c hc]
  rw [splitUser, whole]
  by_cases user : '@' ∈ text
  · right
    have parts := List.takeWhile_append_dropWhile (p := (· != '@')) (l := text.reverse)
    have mark := List.head?_dropWhile_not (· != '@') text.reverse
    cases hback : text.reverse.dropWhile (· != '@') with
    | nil =>
      have := List.dropWhile_eq_nil_iff.1 hback '@' (by simpa using user)
      exact absurd this (by decide)
    | cons c back =>
      rw [hback] at parts mark
      obtain rfl : c = '@' := by simpa using mark
      have spelled : text = back.reverse ++ '@' :: named text := by
        have := congrArg List.reverse parts
        simpa [named, List.rtakeWhile] using this.symm
      have behind : text.drop (back.length + 1) = named text := by
        generalize named text = behind at spelled
        rw [spelled, List.append_cons, List.drop_left' (by simp)]
      exact ⟨back.reverse, by simp [user, behind]⟩
  · left
    exact ⟨if_neg (by simpa using user), List.rtakeWhile_eq_self_iff.2 fun c hc => by
      have other : c ≠ '@' := fun heq => user (heq ▸ hc)
      simpa using other⟩

include special

theorem host_of_withHost {after : List Char} (h : url.withHost text = .ok (found, after)) :
    ∃ host, found.host = some host ∧ Host.parse (text.take (hostLength true false text)) = .ok host ∧
      '.' ∉ text.drop (hostLength true false text) := by
  simp only [withHost, special, bind, Except.bind, pure, Except.pure] at h
  split at h
  · cases h
  rw [if_pos trivial] at h
  split at h
  · cases h
  rename_i host hhost
  rcases drop_hostLength goesOn false with ends | ⟨more, heq, sub⟩
  · rw [ends] at h ⊢
    cases h
    exact ⟨host, rfl, hhost, List.not_mem_nil⟩
  · simp only [heq] at h ⊢
    split at h
    · cases h
    split at h
    · cases h
    · rename_i port hport
      have ends := readPort_ends (fun c hc => goesOn c (sub c hc)) hport
      cases h
      rw [readPort_rest hport, List.dropWhile_eq_nil_iff] at ends
      refine ⟨host, rfl, hhost, fun point => ?_⟩
      rcases List.mem_cons.1 point with colon | point
      · exact absurd colon (by decide)
      · exact absurd (ends _ point) (by decide)

theorem host_of_withPlace (h : url.withPlace text = .ok found) :
    ∃ host, found.host = some host ∧ Host.parse (hostText text) = .ok host ∧
      '.' ∉ (named text).drop (hostLength true false (named text)) := by
  rcases splitUser_cases goesOn with ⟨noUser, heq⟩ | ⟨user, hsplit⟩
  · rw [withPlace, noUser] at h
    cases hplaced : url.withHost text with
    | error e =>
      rw [hplaced] at h
      cases h
    | ok placed =>
      rw [hplaced] at h
      cases h
      rw [hostText, heq]
      exact host_of_withHost special goesOn hplaced
  · rw [withPlace, hsplit] at h
    dsimp only at h
    split at h
    · cases h
    split at h
    · cases h
    · rename_i placed after hplaced
      obtain ⟨host, hhost, parsed, port⟩ := host_of_withHost special
        (fun c hc => goesOn c (mem_of_splitUser hsplit hc)) hplaced
      split at h
      · cases h
      · cases h
        exact ⟨host, hhost, parsed, port⟩

theorem withAuthority_whole : url.withAuthority text = (url.withPlace text).map (·.withPath []) := by
  simp only [withAuthority, special, withPlace]
  cases huser : splitUser true text with
  | none =>
    dsimp only
    cases hhost : url.withHost text with
    | error e => rfl
    | ok found =>
      obtain ⟨nothing, -⟩ := withHost_ends goesOn special hhost
      simp [Except.map, bind, Except.bind, pure, Except.pure, nothing]
  | some parts =>
    obtain ⟨user, named⟩ := parts
    have goesOn' : ∀ c ∈ named, endsAuthority true c = false := fun c hc =>
      goesOn c (mem_of_splitUser huser hc)
    dsimp only
    cases named with
    | nil =>
      have nothing : url.withHost [] = .error .emptyHost := by
        simp [withHost, special, hostLength]
        rfl
      rw [nothing]
      cases user <;> rfl
    | cons c named =>
      have stays : (c :: named).head?.any (endsAuthority true) = false := by
        simpa using goesOn' c (by simp)
      simp only [stays, List.isEmpty_cons, Bool.and_false, Bool.false_eq_true, if_false]
      cases hhost : url.withHost (c :: named) with
      | error e => rfl
      | ok found =>
        obtain ⟨nothing, -⟩ := withHost_ends goesOn' special hhost
        simp only [Except.map, bind, Except.bind, pure, Except.pure, nothing]
        split
        · rfl
        · rfl

end

/-- The authority at the front of a text. -/
def authority (text : List Char) : List Char := text.takeWhile fun c => !endsAuthority true c

theorem goesOn_authority (text : List Char) : ∀ c ∈ authority text, endsAuthority true c = false :=
  goesOn_of_mem_takeWhile text

theorem mem_authority_of_prefix {front text : List Char} (h : front <+: text) {c : Char}
    (hc : c ∈ authority front) : c ∈ authority text := by
  obtain ⟨rest, rfl⟩ := h
  rw [authority, List.takeWhile_append]
  split
  · exact List.mem_append_left _ ((List.takeWhile_sublist _).subset hc)
  · exact hc

theorem withAuthority_eq {url : Url} (special : isSpecial url.scheme = true) (text : List Char) :
    url.withAuthority text = (url.withPlace (authority text)).map
      (·.withPath (text.dropWhile fun c => !endsAuthority true c)) := by
  have parts : authority text ++ text.dropWhile (fun c => !endsAuthority true c) = text :=
    List.takeWhile_append_dropWhile
  have goesOn := goesOn_authority text
  cases htail : text.dropWhile (fun c => !endsAuthority true c) with
  | nil =>
    rw [htail, List.append_nil] at parts
    rw [parts] at goesOn ⊢
    exact withAuthority_whole special goesOn
  | cons mark more =>
    have ends : endsAuthority true mark = true := by
      have := List.head?_dropWhile_not (fun c => !endsAuthority true c) text
      rw [htail] at this
      simpa using this
    rw [htail] at parts
    rw [← withAuthority_append special goesOn ends, parts]

theorem host_of_withAuthority {url found : Url} (special : isSpecial url.scheme = true)
    {text : List Char} (h : url.withAuthority text = .ok found) :
    ∃ host, found.host = some host ∧ Host.parse (hostText (authority text)) = .ok host ∧
      '.' ∉ (named (authority text)).drop (hostLength true false (named (authority text))) := by
  rw [withAuthority_eq special] at h
  cases hplace : url.withPlace (authority text) with
  | error e =>
    rw [hplace] at h
    cases h
  | ok placed =>
    rw [hplace] at h
    cases h
    rw [withPath_host]
    exact host_of_withPlace special (goesOn_authority text) hplace

/-! ## Authorities with a domain -/

theorem named_append_of_not_mem {back : List Char} (h : '@' ∉ back) (front : List Char) :
    named (front ++ back) = named front ++ back := by
  have all : ∀ c ∈ back.reverse, (c != '@') = true := fun c hc => by
    have other : c ≠ '@' := fun heq => h (heq ▸ List.mem_reverse.1 hc)
    simpa using other
  rw [named, List.rtakeWhile, List.reverse_append, List.takeWhile_append_of_pos all]
  simp [named, List.rtakeWhile]

theorem named_append_of_mem {back : List Char} (h : '@' ∈ back) (front : List Char) :
    named (front ++ back) = named back := by
  obtain ⟨a, b, hback⟩ := List.append_of_mem (List.mem_reverse.2 h)
  have stops (rest : List Char) : (a ++ '@' :: rest).takeWhile (· != '@') = a.takeWhile (· != '@') :=
    Text.takeWhile_stops (p := (· != '@')) rfl a rest
  rw [named, named, List.rtakeWhile, List.rtakeWhile, List.reverse_append, hback, List.append_assoc,
    List.cons_append, stops, stops]

theorem hostLength_cases {front : List Char} (goesOn : ∀ c ∈ front, endsAuthority true c = false)
    (rest : List Char) (bracket : Bool) :
    (∃ a b, front = a ++ ':' :: b ∧ hostLength true bracket (front ++ rest) = a.length) ∨
      ∃ bracket', hostLength true bracket (front ++ rest) =
        front.length + hostLength true bracket' rest := by
  induction front generalizing bracket with
  | nil => exact .inr ⟨bracket, by simp⟩
  | cons c front ih =>
    simp only [List.cons_append, hostLength, goesOn c List.mem_cons_self, Bool.or_false]
    split
    · rename_i colon
      rw [Bool.and_eq_true, beq_iff_eq] at colon
      exact .inl ⟨[], front, by rw [colon.1]; rfl, rfl⟩
    · rcases ih (fun d hd => goesOn d (List.mem_cons_of_mem _ hd))
          (if c == '[' then true else if c == ']' then false else bracket) with
        ⟨a, b, rfl, length⟩ | ⟨bracket', length⟩
      · exact .inl ⟨c :: a, b, rfl, by rw [length, List.length_cons]⟩
      · exact .inr ⟨bracket', by rw [length, List.length_cons, Nat.add_right_comm]⟩

section

variable {domain : List Char} (plain : Domain.IsPlain domain)

include plain

theorem ne_mark_of_plain {c mark : Char} (hc : c ∈ domain)
    (hmark : mark ∈ [':', '[', ']', '/', '\\', '?', '#']) : c ≠ mark := by
  rintro rfl
  rcases plain c hc with rfl | ⟨first, -⟩
  · exact absurd hmark (by decide)
  · have below : ∀ mark ∈ [':', '[', ']', '/', '\\', '?', '#'], mark.toNat < 0x61 := by simp
    exact absurd (below c hmark) (Nat.not_lt.2 first)

theorem goesOn_of_plain {c : Char} (hc : c ∈ domain) : endsAuthority true c = false := by
  simp [endsAuthority, endsPath, isSlash, ne_mark_of_plain plain hc]

theorem hostLength_plain (rest : List Char) (bracket : Bool) :
    hostLength true bracket (domain ++ rest) =
      domain.length + hostLength true bracket rest := by
  induction domain with
  | nil => simp
  | cons c domain ih =>
    have inside : c ∈ c :: domain := List.mem_cons_self
    simp [hostLength, goesOn_of_plain plain inside, ne_mark_of_plain plain inside,
      ih fun d hd => plain d (List.mem_cons_of_mem _ hd)]
    omega

end

/-- **An authority with a proper domain in front of its port has a host below this domain.** -/
theorem host_below {domain front port : List Char} (proper : Domain.IsProper domain) {host : Host}
    (goesOn : ∀ c ∈ front, endsAuthority true c = false) (noUser : '@' ∉ port)
    (begins : ∀ c ∈ port.head?, c = ':')
    (parsed : Host.parse (hostText (front ++ '.' :: domain ++ port)) = .ok host)
    (noPoint : '.' ∉ (named (front ++ '.' :: domain ++ port)).drop
      (hostLength true false (named (front ++ '.' :: domain ++ port)))) :
    ∃ name, host = .domain (name ++ '.' :: domain) := by
  have plain := proper.plain.below
  have noUser' : '@' ∉ '.' :: domain ++ port := fun hmem => by
    rcases List.mem_append.1 hmem with hmem | hmem
    · exact absurd (plain _ hmem) (by decide)
    · exact noUser hmem
  have spelled : named (front ++ '.' :: domain ++ port) = named front ++ ('.' :: domain ++ port) := by
    rw [List.append_assoc, named_append_of_not_mem noUser']
  have goesOn' : ∀ c ∈ named front, endsAuthority true c = false := fun c hc =>
    goesOn c ((List.rtakeWhile_suffix _ _).subset hc)
  rw [hostText, spelled] at parsed
  rw [spelled] at noPoint
  generalize named front = front at parsed noPoint goesOn'
  rcases hostLength_cases goesOn' ('.' :: domain ++ port) false with
    ⟨a, b, rfl, length⟩ | ⟨bracket, length⟩
  · -- the port would begin in front of the domain
    rw [length] at noPoint
    simp at noPoint
  rw [length, hostLength_plain plain, List.take_length_add_append, List.take_length_add_append,
    ← List.append_assoc] at parsed
  cases port with
  | nil =>
    rw [List.take_nil, List.append_nil] at parsed
    exact Host.exists_of_parse proper parsed
  | cons c more =>
    obtain rfl := begins c rfl
    cases bracket with
    | false =>
      have ends : hostLength true false (':' :: more) = 0 := by simp [hostLength]
      rw [ends, List.take_zero, List.append_nil] at parsed
      exact Host.exists_of_parse proper parsed
    | true =>
      -- the colon is part of the host, as a bracket is open
      have goesOn : hostLength true true (':' :: more) = hostLength true true more + 1 := by
        simp [hostLength, endsAuthority, endsPath, isSlash]
      rw [goesOn, List.take_succ_cons] at parsed
      exact (Host.parse_colon_ne_ok proper _ _ _ parsed).elim

end Url

end ConversationMemory
