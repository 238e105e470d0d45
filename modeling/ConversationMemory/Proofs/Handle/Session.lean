import ConversationMemory.Proofs.Handle.Course
import ConversationMemory.Proofs.Url.Below

/-!
# Sessions side by side

Sessions of one memory have one base address, and each has its history at a target of its own.

* `sessionTail`: what stands behind the base address. `sessionPath`: the segments that it makes up.
* `target_withPath_eq_iff`: behind which tails of a base address two sessions have one target.
* **`target_eq_iff`**: two operations of different sessions ask for one target exactly when the address
  of the memory has a fragment: everything behind its mark belongs to the fragment.
-/

namespace ConversationMemory

/-! ## The tail of a session -/

/-- What stands behind the base address and a slash, for the history of a session. -/
def sessionTail (session : List Char) : List Char :=
  "messages".toList ++ '/' :: Percent.encode Percent.component session

/-- The last segment of the path of a session: a point stands for no segment. -/
def lastSegment (session : List Char) : List Char :=
  if session = ['.'] then [] else Percent.encode Percent.component session

/-- The segments behind a base address, in the history of a session: two points take one back. -/
def sessionPath (session : List Char) : List (List Char) :=
  if session = ['.', '.'] then [[]] else ["messages".toList, lastSegment session]

theorem encode_component_injective : Function.Injective (Percent.encode Percent.component) :=
  Percent.encode_injective (by decide)

variable {session other : List Char}

theorem lastSegment_inj (h : session ≠ []) (h' : other ≠ [])
    (same : lastSegment session = lastSegment other) : session = other := by
  have empty {cs : List Char} (h : Percent.encode Percent.component cs = []) : cs = [] :=
    encode_component_injective h
  unfold lastSegment at same
  split at same <;> rename_i here <;> split at same <;> rename_i here'
  · rw [here, here']
  · exact (h' (empty same.symm)).elim
  · exact (h (empty same)).elim
  · exact encode_component_injective same

theorem slashed_sessionPath_inj (h : session ≠ []) (h' : other ≠ [])
    (same : Url.slashed (sessionPath session) = Url.slashed (sessionPath other)) :
    session = other := by
  have pair (word segment : List Char) : Url.slashed [word, segment] = '/' :: (word ++ '/' :: segment) := by
    simp [Url.slashed]
  have long (segment : List Char) : Url.slashed [[]] ≠ Url.slashed ["messages".toList, segment] := by
    rw [pair]
    intro heq
    exact List.append_ne_nil_of_right_ne_nil _ (List.cons_ne_nil _ _) (List.cons.inj heq).2.symm
  unfold sessionPath at same
  split at same <;> rename_i above <;> split at same <;> rename_i above'
  · rw [above, above']
  · exact (long _ same).elim
  · exact (long _ same.symm).elim
  · rw [pair, pair] at same
    have segments := List.append_cancel_left (List.cons.inj same).2
    exact lastSegment_inj h h' (List.cons.inj segments).2

theorem pushAll_session (path : List (List Char)) (session : List Char) :
    Url.pushAll false path (Text.splitAt (Url.isSlash true) (sessionTail session)) =
      path ++ sessionPath session := by
  have word : Url.IsSettled "messages".toList :=
    ⟨List.all_eq_true.1 (by decide), by decide, by decide⟩
  have inside : ∀ c ∈ Percent.encode Percent.component session, Url.isSlash true c = false :=
    fun c hc => Url.isSlash_of_isKept (Percent.isKept_of_mem_encode hc)
  have leaves : Url.keepsPlace "messages".toList = false := by decide
  unfold sessionTail sessionPath lastSegment
  generalize "messages".toList = name at word leaves
  rw [Text.splitAt_append (by decide), Text.splitAt_of_none inside,
    Text.splitAt_of_none fun c hc => Url.isSlash_of_isKept (word.kept c hc), List.singleton_append]
  simp only [Url.pushAll, Url.push_settled word]
  by_cases above : session = ['.', '.']
  · have dots : Percent.encode Percent.component session = ['.', '.'] := by
      rw [above]
      decide
    have isAbove : Url.isAbove ['.', '.'] = true := by decide
    rw [if_pos above, dots, Url.push, if_pos isAbove, Url.shorten_concat leaves]
    rfl
  by_cases here : session = ['.']
  · have dot : Percent.encode Percent.component session = ['.'] := by
      rw [here]
      decide
    have notAbove : Url.isAbove ['.'] = false := by decide
    have isHere : Url.isHere ['.'] = true := by decide
    rw [if_neg above, if_pos here, dot, Url.push, notAbove, isHere]
    simp
  · rw [if_neg above, if_neg here, Url.push_settled (Percent.isSettled_encode here above)]
    simp

/-! ## Targets -/

theorem mem_sessionTail {c : Char} (h : c ∈ sessionTail session) : c = '/' ∨ Url.isKept c = true := by
  rcases List.mem_append.1 h with h | h
  · have word : "messages".toList.all Url.isKept = true := by decide
    exact .inr (List.all_eq_true.1 word c h)
  rcases List.mem_cons.1 h with rfl | h
  · exact .inl rfl
  · exact .inr (Percent.isKept_of_mem_encode h)

theorem visible_sessionTail : ∀ c ∈ sessionTail session, 0x20 < c.toNat := by
  intro c hc
  rcases mem_sessionTail hc with rfl | kept
  · decide
  · exact Url.gt_of_isKept kept

theorem endsPath_sessionTail : ∀ c ∈ sessionTail session, Url.endsPath c = false := by
  intro c hc
  rcases mem_sessionTail hc with rfl | kept
  · decide
  · exact Url.endsPath_of_isKept kept

theorem specialQuery_sessionTail :
    ∀ c ∈ sessionTail session, c ≠ '#' ∧ Percent.specialQuery c = true := by
  intro c hc
  refine ⟨?_, ?_⟩
  · rintro rfl
    exact absurd (endsPath_sessionTail _ hc) (by decide)
  rcases List.mem_append.1 hc with hc | hc
  · have word : "messages".toList.all Percent.specialQuery = true := by decide
    exact List.all_eq_true.1 word c hc
  rcases List.mem_cons.1 hc with rfl | hc
  · decide
  · exact Percent.specialQuery_of_mem_encode hc

theorem sessionTail_injective : Function.Injective sessionTail := by
  intro session other same
  unfold sessionTail at same
  exact encode_component_injective (List.cons.inj (List.append_cancel_left same)).2

open Url in
/-- **Two sessions have one target exactly behind the mark of a fragment.** -/
theorem target_withPath_eq_iff {url : Url} (special : isSpecial url.scheme = true)
    (file : (url.scheme == fileScheme) = false) (host : url.host.isSome) (front : List Char)
    (h : session ≠ []) (h' : other ≠ []) (differ : session ≠ other) :
    (url.withPath (front ++ '/' :: sessionTail session)).target =
      (url.withPath (front ++ '/' :: sessionTail other)).target ↔ '#' ∈ front := by
  rcases exists_target special file host front with ⟨hash, seen, target⟩ |
    ⟨clear, path, behind, target⟩ | ⟨clear, seen, target⟩
  · simp only [target, hash]
  · rw [target _ endsPath_sessionTail, target _ endsPath_sessionTail, pushAll_session,
      pushAll_session, slashed_append, slashed_append]
    refine iff_of_false (fun same => differ (slashed_sessionPath_inj h h' ?_)) clear
    exact List.append_cancel_left (List.append_cancel_right same)
  · rw [target _ specialQuery_sessionTail, target _ specialQuery_sessionTail]
    refine iff_of_false (fun same => differ (sessionTail_injective ?_)) clear
    exact (List.cons.inj (List.append_cancel_left same)).2

/-! ## Requests -/

theorem Resolver.validate_of_resolve {resolver : Resolver} {spec : AddressSpec}
    {namespaceName address : String} (h : resolver.resolve spec namespaceName = .ok address) :
    validate address = .ok () := by
  unfold resolve at h
  split at h
  · cases h
  split at h
  · cases h
  dsimp only at h
  split at h
  · cases h
  · rename_i accepted
    cases h
    exact accepted

theorem Resolver.nonEmpty_of_resolve {resolver : Resolver} {spec : AddressSpec}
    {namespaceName address : String} (h : resolver.resolve spec namespaceName = .ok address) :
    address ≠ "" := by
  rintro rfl
  cases validate_of_resolve h

namespace Handle

/-- The request is sent by an operation of the handle that has resolved the address. -/
def Asks (handle : Handle) (address : String) (request : Request) : Prop :=
  ∃ operation state calls r base, handle.Course operation state calls r base ∧
    resolvedAddresses calls = [address] ∧ request ∈ requests calls

variable {handle : Handle} {address : String} {request : Request}

theorem Asks.url (h : handle.Asks address request)
    (standard : handle.settings.messagesPath = Settings.standard.memory.messagesPath) :
    ∃ url, Url.parse (String.ofList ((normalize address).toList ++
      '/' :: sessionTail handle.sessionId.toList)) = .ok url ∧ request.url = url.withoutUser := by
  obtain ⟨operation, state, calls, r, base, course, resolved, sent⟩ := h
  obtain ⟨-, found, url, hfound, parsed, hurl⟩ := course.target sent
  obtain rfl : found = address := by simpa [resolved] using hfound.symm
  refine ⟨url, ?_, hurl⟩
  have path : handle.settings.messagesPath.toList = '/' :: "messages".toList := by
    rw [standard]
    decide
  rw [← parsed]
  unfold sessionTail
  generalize "messages".toList = name at path
  apply congrArg Url.parse
  rw [← String.toList_inj]
  simp [path]

variable {other : Handle} {asked : Request} {resolver : Resolver} {spec : AddressSpec}
  {namespaceName : String}

/-- **Two sessions have one target exactly when the address of their memory has a fragment**: what is
written behind its mark, belongs to the fragment, and no server gets to see it. -/
theorem target_eq_iff (resolved : resolver.resolve spec namespaceName = .ok address)
    (standard : handle.settings.messagesPath = Settings.standard.memory.messagesPath)
    (standard' : other.settings.messagesPath = Settings.standard.memory.messagesPath)
    (named : handle.sessionId ≠ "") (named' : other.sessionId ≠ "")
    (differ : handle.sessionId ≠ other.sessionId)
    (asks : handle.Asks address request) (asks' : other.Asks address asked) :
    request.url.target = asked.url.target ↔ '#' ∈ address.toList := by
  obtain ⟨place, front, placed, hash, below⟩ :=
    Url.parse_below (Resolver.validate_of_resolve resolved)
  obtain ⟨url, parsed, hurl⟩ := asks.url standard
  obtain ⟨url', parsed', hurl'⟩ := asks'.url standard'
  rw [below _ visible_sessionTail] at parsed parsed'
  cases place with
  | error e => cases parsed
  | ok base =>
    obtain ⟨http, host⟩ := placed base rfl
    cases parsed
    cases parsed'
    have text {session : String} (h : session ≠ "") : session.toList ≠ [] := by simpa using h
    have sessions : handle.sessionId.toList ≠ other.sessionId.toList := by
      simpa [String.toList_inj] using differ
    rw [hurl, hurl', ← hash]
    exact target_withPath_eq_iff http.special http.not_file host front (text named) (text named')
      sessions

/-- The handle of a session at a memory on this machine. -/
def speakerOf (session : String) : Handle where
  name := "notes"
  namespaceName := "team"
  sessionId := session
  settings := Settings.standard.memory

theorem exists_asks (operation : Operation)
    (prepared : (handle.requestFor ⟨address, none⟩ operation (normalize address)).isOk = true) :
    ∃ request, handle.Asks address request := by
  cases hrequest : handle.requestFor ⟨address, none⟩ operation (normalize address) with
  | error e =>
    rw [hrequest] at prepared
    cases prepared
  | ok request =>
    have calls := @ReconcileCalls.kept handle operation.name address
      (MemoryRecord.create "notes" "team" (.literal address)) address rfl
    refine ⟨request, operation, ⟨address, none⟩, _, _, _,
      .sent calls hrequest (.ok ⟨200, .whole []⟩), rfl, ?_⟩
    exact List.mem_singleton.2 rfl

/-- Behind a mark one session asks for what the other one has added; without it they are apart. -/
theorem target_eq_iff_shared :
    (∃ added got, (speakerOf "alice").Asks "http://[::1]/#shared" added ∧
      (speakerOf "bob").Asks "http://[::1]/#shared" got ∧ added.url.target = got.url.target) ∧
    ∃ added got, (speakerOf "alice").Asks "http://[::1]/" added ∧
      (speakerOf "bob").Asks "http://[::1]/" got ∧ added.url.target ≠ got.url.target := by
  have shared : Resolver.resolve {} (.literal "http://[::1]/#shared") "team" =
      .ok "http://[::1]/#shared" := rfl
  have apart : Resolver.resolve {} (.literal "http://[::1]/") "team" = .ok "http://[::1]/" := rfl
  have alice : (speakerOf "alice").sessionId ≠ "" := by decide
  have bob : (speakerOf "bob").sessionId ≠ "" := by decide
  have differ : (speakerOf "alice").sessionId ≠ (speakerOf "bob").sessionId := by decide
  constructor
  · obtain ⟨added, hadded⟩ := @exists_asks (speakerOf "alice") "http://[::1]/#shared"
      (.add [.user "secret"]) (by decide +kernel)
    obtain ⟨got, hgot⟩ := @exists_asks (speakerOf "bob") "http://[::1]/#shared" .get (by decide +kernel)
    refine ⟨added, got, hadded, hgot, ?_⟩
    exact (target_eq_iff shared rfl rfl alice bob differ hadded hgot).2 (by decide)
  · obtain ⟨added, hadded⟩ := @exists_asks (speakerOf "alice") "http://[::1]/" (.add [.user "secret"])
      (by decide +kernel)
    obtain ⟨got, hgot⟩ := @exists_asks (speakerOf "bob") "http://[::1]/" .get (by decide +kernel)
    refine ⟨added, got, hadded, hgot, fun same => ?_⟩
    exact absurd ((target_eq_iff apart rfl rfl alice bob differ hadded hgot).1 same) (by decide)

end Handle

end ConversationMemory
