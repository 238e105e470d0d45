import ConversationMemory.Url
import Mathlib.Data.List.TakeWhile

/-!
# Authorities

An address has three parts: a scheme, an authority, and a tail with a path, a query and a fragment.

* `Url.seen`: what counts of a text. `splitScheme?_of_parse`, `parse_of_special`: an address is read
  from it, behind its scheme.
* `Url.withPlace`: the address with the user, the host and the port of an authority.
* **`withAuthority_append`**: what stands behind an authority does not count for it, and is all that
  counts for the path, the query and the fragment.
-/

namespace ConversationMemory

namespace Text

variable {p : Char → Bool} {mark : Char}

theorem takeWhile_stops (h : p mark = false) (text rest : List Char) :
    (text ++ mark :: rest).takeWhile p = text.takeWhile p := by
  induction text with
  | nil => simp [h]
  | cons c text ih => simp only [List.cons_append, List.takeWhile_cons, ih]

theorem dropWhile_stops (h : p mark = false) (text rest : List Char) :
    (text ++ mark :: rest).dropWhile p = text.dropWhile p ++ mark :: rest := by
  induction text with
  | nil => simp [h]
  | cons c text ih =>
    simp only [List.cons_append, List.dropWhile_cons, ih]
    split <;> rfl

end Text

namespace Url

/-! ## Host and port -/

theorem hostLength_le (special : Bool) (text : List Char) :
    ∀ bracket, hostLength special bracket text ≤ text.length := by
  induction text with
  | nil => simp [hostLength]
  | cons c text ih =>
    intro bracket
    rw [hostLength]
    split
    · exact Nat.zero_le _
    · exact Nat.succ_le_succ (ih _)

section

variable {mark : Char} (ends : endsAuthority true mark = true) (text rest : List Char)

include ends

theorem not_isDigit_of_ends : mark.isDigit = false := by
  simp only [endsAuthority, endsPath, isSlash, Bool.or_eq_true, Bool.true_and, beq_iff_eq] at ends
  rcases ends with (rfl | rfl) | rfl | rfl <;> decide

theorem ne_colon_of_ends : mark ≠ ':' := by
  rintro rfl
  revert ends
  decide

theorem hostLength_append (bracket : Bool) :
    hostLength true bracket (text ++ mark :: rest) = hostLength true bracket text := by
  induction text generalizing bracket with
  | nil => simp [hostLength, ends]
  | cons c text ih => simp only [List.cons_append, hostLength, ih]

theorem readPort_append : readPort (text ++ mark :: rest) =
    (readPort text).map fun found => (found.1, found.2 ++ mark :: rest) := by
  have noDigit := not_isDigit_of_ends ends
  simp only [readPort, Text.takeWhile_stops noDigit, Text.dropWhile_stops noDigit]
  split
  · rfl
  · cases text.dropWhile Char.isDigit with
    | nil =>
      have : (endsPath mark || isSlash true mark) = true := ends
      simp [this, Except.map]
    | cons c more =>
      dsimp only [List.cons_append]
      split <;> rfl

theorem withHost_append {url : Url} (special : isSpecial url.scheme = true) :
    url.withHost (text ++ mark :: rest) =
      (url.withHost text).map fun found => (found.1, found.2 ++ mark :: rest) := by
  have within := hostLength_le true text false
  have colon := ne_colon_of_ends ends
  simp only [withHost, special, hostLength_append ends, List.take_append_of_le_length within,
    List.drop_append_of_le_length within]
  generalize text.take _ = name
  generalize text.drop _ = left
  simp only [bind, Except.bind, pure, Except.pure, Bool.true_and, if_true]
  by_cases unnamed : name.isEmpty = true
  · simp only [unnamed, if_true]
    rfl
  simp only [unnamed]
  cases Host.parse name with
  | error e => rfl
  | ok host =>
    cases left with
    | nil => simp [colon, Except.map]
    | cons c more =>
      by_cases h : c = ':'
      · subst h
        simp only [List.cons_append, readPort_append ends]
        cases host.isEmpty
        · cases readPort more <;> rfl
        · rfl
      · simp [h, Except.map]

end

section

variable {text : List Char} (goesOn : ∀ c ∈ text, endsAuthority true c = false)

include goesOn

theorem drop_hostLength (bracket : Bool) :
    text.drop (hostLength true bracket text) = [] ∨
      ∃ more, text.drop (hostLength true bracket text) = ':' :: more ∧ ∀ c ∈ more, c ∈ text := by
  induction text generalizing bracket with
  | nil => exact .inl rfl
  | cons x text ih =>
    rw [hostLength]
    split
    · rename_i hx
      rw [goesOn x (by simp), Bool.or_false, Bool.and_eq_true, beq_iff_eq] at hx
      exact .inr ⟨text, by rw [hx.1]; rfl, fun c hc => by simp [hc]⟩
    · rcases ih (fun c hc => goesOn c (by simp [hc])) _ with ends | ⟨more, heq, sub⟩
      · exact .inl ends
      · exact .inr ⟨more, heq, fun c hc => by simp [sub c hc]⟩

theorem readPort_ends {port : Option Nat} {after : List Char}
    (h : readPort text = .ok (port, after)) : after = [] := by
  unfold readPort at h
  dsimp only at h
  split at h
  · cases h
  split at h
  · rename_i heq
    cases h
    exact heq
  · rename_i c more heq
    have hc : c ∈ text := (List.dropWhile_sublist _).subset (heq ▸ List.mem_cons_self)
    have inside : (endsPath c || isSlash true c) = false := goesOn c hc
    rw [inside] at h
    cases h

theorem withHost_ends {url found : Url} {after : List Char} (special : isSpecial url.scheme = true)
    (h : url.withHost text = .ok (found, after)) :
    after = [] ∧ ∃ host port, found = { url with host := some host, port } := by
  simp only [withHost, special, bind, Except.bind, pure, Except.pure] at h
  split at h
  · cases h
  rw [if_pos trivial] at h
  split at h
  · cases h
  rcases drop_hostLength goesOn false with ends | ⟨more, heq, sub⟩
  · rw [ends] at h
    cases h
    exact ⟨rfl, _, _, rfl⟩
  · simp only [heq] at h
    split at h
    · cases h
    split at h
    · cases h
    · rename_i found hport
      have ends := readPort_ends (fun c hc => goesOn c (sub c hc)) hport
      cases h
      exact ⟨ends, _, _, rfl⟩

end
/-! ## Authorities -/

/-- The address with the user, the host and the port of an authority. -/
def withPlace (url : Url) (text : List Char) : Except UrlError Url :=
  match splitUser true text with
  | none => (url.withHost text).map (·.1)
  | some (user, named) =>
    if user.isEmpty && named.isEmpty then .error .emptyHost
    else
      match url.withHost named with
      | .error e => .error e
      | .ok (found, _) =>
        let username := user.takeWhile (· != ':')
        let password := (user.dropWhile (· != ':')).drop 1
        if found.host.any Host.isEmpty && !(username.isEmpty && password.isEmpty) then
          .error .emptyHost
        else
          .ok { found with
            username := Percent.encode Percent.userinfo username
            password := Percent.encode Percent.userinfo password }

section

variable {url found : Url} {text : List Char} (special : isSpecial url.scheme = true)
  (goesOn : ∀ c ∈ text, endsAuthority true c = false)

include goesOn in
theorem splitUser_append {mark : Char} (ends : endsAuthority true mark = true) (rest : List Char) :
    splitUser true (text ++ mark :: rest) =
      (splitUser true text).map fun found => (found.1, found.2 ++ mark :: rest) := by
  have stops : (!endsAuthority true mark) = false := by rw [ends]; rfl
  have whole : text.takeWhile (fun c => !endsAuthority true c) = text :=
    List.takeWhile_eq_self_iff.2 fun c hc => by simp [goesOn c hc]
  simp only [splitUser, Text.takeWhile_stops (p := fun c => !endsAuthority true c) stops, whole]
  split
  · rename_i named
    have found : text.reverse.dropWhile (· != '@') ≠ [] := by
      rw [Ne, List.dropWhile_eq_nil_iff]
      intro all
      simpa using all '@' (by simpa using named)
    have shorter : (text.reverse.dropWhile (· != '@')).length ≤ text.length := by
      simpa using (List.dropWhile_sublist (l := text.reverse) (· != '@')).length_le
    have within : ((text.reverse.dropWhile (· != '@')).drop 1).length + 1 ≤ text.length := by
      have := List.length_pos_iff.2 found
      rw [List.length_drop]
      omega
    simp only [Option.map_some, List.drop_append_of_le_length within]
  · rfl

theorem mem_of_splitUser {user named : List Char} (h : splitUser true text = some (user, named))
    {c : Char} (hc : c ∈ named) : c ∈ text := by
  unfold splitUser at h
  dsimp only at h
  split at h
  · cases h
    exact List.mem_of_mem_drop hc
  · cases h

include special goesOn

/-- **What stands behind an authority does not count for it**, and is all that counts for the path,
the query and the fragment. -/
theorem withAuthority_append {mark : Char} (ends : endsAuthority true mark = true)
    (rest : List Char) :
    url.withAuthority (text ++ mark :: rest) =
      (url.withPlace text).map (·.withPath (mark :: rest)) := by
  simp only [withAuthority, special, splitUser_append goesOn ends, withPlace]
  cases huser : splitUser true text with
  | none =>
    simp only [Option.map_none, withHost_append ends _ _ special]
    cases hhost : url.withHost text with
    | error e => rfl
    | ok found =>
      obtain ⟨nothing, -⟩ := withHost_ends goesOn special hhost
      simp [Except.map, bind, Except.bind, pure, Except.pure, nothing]
  | some parts =>
    obtain ⟨user, named⟩ := parts
    have goesOn' : ∀ c ∈ named, endsAuthority true c = false := fun c hc =>
      goesOn c (mem_of_splitUser huser hc)
    have unnamed : (named ++ mark :: rest).head?.any (endsAuthority true) = named.isEmpty := by
      cases named with
      | nil => simp [ends]
      | cons c named => simpa using goesOn' c (by simp)
    simp only [Option.map_some, unnamed, withHost_append ends _ _ special]
    split
    · rfl
    cases hhost : url.withHost named with
    | error e => rfl
    | ok found =>
      obtain ⟨nothing, -⟩ := withHost_ends goesOn' special hhost
      simp only [Except.map, bind, Except.bind, pure, Except.pure, nothing, List.nil_append]
      split
      · rfl
      · rfl

theorem of_withPlace (h : url.withPlace text = .ok found) :
    found.scheme = url.scheme ∧ found.host.isSome := by
  unfold withPlace at h
  split at h
  · cases hhost : url.withHost text with
    | error e =>
      rw [hhost] at h
      cases h
    | ok placed =>
      rw [hhost] at h
      cases h
      obtain ⟨-, host, port, heq⟩ := withHost_ends goesOn special hhost
      simp [heq]
  · rename_i user named huser
    split at h
    · cases h
    split at h
    · cases h
    · rename_i placed after hhost
      obtain ⟨-, host, port, rfl⟩ :=
        withHost_ends (fun c hc => goesOn c (mem_of_splitUser huser hc)) special hhost
      dsimp only at h
      split at h <;> cases h
      simp

end

/-! ## Schemes -/

theorem withQuery_scheme (url : Url) (text : List Char) : (url.withQuery text).scheme = url.scheme := by
  unfold withQuery
  dsimp only
  split <;> rfl

theorem withPath_scheme (url : Url) (text : List Char) : (url.withPath text).scheme = url.scheme :=
  withQuery_scheme _ _

theorem withFilePath_scheme (url : Url) (path : List (List Char)) (text : List Char) :
    (url.withFilePath path text).scheme = url.scheme :=
  withQuery_scheme _ _

theorem withHost_scheme {url : Url} {text : List Char} {found : Url × List Char}
    (h : url.withHost text = .ok found) : found.1.scheme = url.scheme := by
  simp only [withHost, bind, Except.bind, pure, Except.pure] at h
  split at h
  · cases h
  split at h <;> split at h
  all_goals first | cases h | skip
  all_goals split at h
  all_goals first | (cases h; rfl) | skip
  all_goals split at h
  all_goals first | cases h | skip
  all_goals split at h <;> cases h
  all_goals rfl

theorem withAuthority_scheme {url found : Url} {text : List Char}
    (h : url.withAuthority text = .ok found) : found.scheme = url.scheme := by
  simp only [withAuthority, bind, Except.bind, pure, Except.pure] at h
  split at h
  · split at h
    · cases h
    · rename_i placed hhost
      cases h
      rw [withPath_scheme, withHost_scheme hhost]
  · split at h
    · cases h
    split at h
    · cases h
    · rename_i placed hhost
      split at h <;> cases h
      rw [withPath_scheme]
      exact withHost_scheme hhost

theorem withFile_scheme {url found : Url} {text : List Char} (h : url.withFile text = .ok found) :
    found.scheme = url.scheme := by
  unfold withFile at h
  dsimp only at h
  split at h
  · split at h
    · split at h
      · cases h
        exact withFilePath_scheme _ _ _
      split at h
      · cases h
        exact withFilePath_scheme _ _ _
      simp only [bind, Except.bind, pure, Except.pure] at h
      split at h
      · cases h
      split at h <;> cases h
      · exact withFilePath_scheme _ _ _
      · exact withFilePath_scheme _ _ _
    · cases h
      exact withFilePath_scheme _ _ _
  · cases h
    exact withFilePath_scheme _ _ _

/-! ## What counts of a text -/

/-- A text without the characters that do not count. -/
def seen (text : List Char) : List Char :=
  (Text.strip (fun c => c.toNat ≤ 0x20) text).filter fun c => c != '\t' && c != '\n' && c != '\r'

theorem splitScheme?_of_parse {address : String} {url : Url} (h : parse address = .ok url) :
    ∃ rest, splitScheme? (seen address.toList) = some (url.scheme, rest) := by
  unfold parse at h
  dsimp only at h
  rw [← seen] at h
  split at h
  · cases h
  · rename_i scheme rest hscheme
    refine ⟨rest, ?_⟩
    have same : url.scheme = scheme := by
      split at h
      · exact withFile_scheme h
      split at h
      · exact withAuthority_scheme h
      split at h
      · exact withAuthority_scheme h
      · cases h
        exact withPath_scheme _ _
      · cases h
        exact withQuery_scheme _ _
    rw [hscheme, same]

theorem parse_of_special {address : String} {scheme rest : List Char}
    (h : splitScheme? (seen address.toList) = some (scheme, rest)) (special : isSpecial scheme = true)
    (file : (scheme == fileScheme) = false) :
    parse address = withAuthority { scheme } (rest.dropWhile (isSlash true)) := by
  unfold parse
  dsimp only
  rw [← seen, h]
  simp [file, special]

theorem splitScheme?_eq_some {text scheme rest : List Char} :
    splitScheme? text = some (scheme, rest) ↔ ∃ first name, text = first :: name ++ ':' :: rest ∧
      (∀ c ∈ first :: name, schemeChar c = true) ∧ first.isAlpha = true ∧
      scheme = (first :: name).map Char.toLower := by
  constructor
  · intro h
    unfold splitScheme? at h
    dsimp only at h
    split at h
    · rename_i first name behind hfront hbehind
      split at h
      · rename_i letter
        cases h
        refine ⟨first, name, ?_, fun c hc => List.mem_takeWhile_imp (hfront ▸ hc), letter,
          by rw [hfront]⟩
        rw [← hfront, ← hbehind, List.takeWhile_append_dropWhile]
      · cases h
    · cases h
  · rintro ⟨first, name, rfl, inside, letter, rfl⟩
    have colon : schemeChar ':' = false := by decide
    simp only [splitScheme?, Text.takeWhile_stops colon, Text.dropWhile_stops colon,
      List.takeWhile_eq_self_iff.2 inside, List.dropWhile_eq_nil_iff.2 inside, List.nil_append, letter,
      if_true]

theorem splitScheme?_append {text scheme rest : List Char} (h : splitScheme? text = some (scheme, rest))
    (more : List Char) : splitScheme? (text ++ more) = some (scheme, rest ++ more) := by
  obtain ⟨first, name, rfl, inside, letter, rfl⟩ := splitScheme?_eq_some.1 h
  exact splitScheme?_eq_some.2 ⟨first, name, by simp, inside, letter, rfl⟩

theorem splitScheme?_slash (text rest : List Char) : splitScheme? (text ++ '/' :: rest) =
    (splitScheme? text).map fun found => (found.1, found.2 ++ '/' :: rest) := by
  have slash : schemeChar '/' = false := by decide
  simp only [splitScheme?, Text.takeWhile_stops slash, Text.dropWhile_stops slash]
  cases text.takeWhile schemeChar with
  | nil => rfl
  | cons first name =>
    cases text.dropWhile schemeChar with
    | nil => rfl
    | cons c behind =>
      by_cases h : c = ':'
      · subst h
        simp only [List.cons_append]
        cases first.isAlpha <;> rfl
      · simp [h]

end Url

end ConversationMemory
