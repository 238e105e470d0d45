import ConversationMemory.Proofs.Handle.Backend
import ConversationMemory.Proofs.Handle.Session

/-!
# The session in a path

What a service at the root of a host gets to see of a session.

* `sessionAt`: the session that the last segment of a target names.
* `Asks.target_eq`: the target of a request consists of the segments of its session.
* **`names_session_iff`**: it names the session below `/messages/`, unless the session is one of the
  two dot segments, which take a segment of the path away.
-/

namespace ConversationMemory

/-- The session that the last segment of a target names. -/
def sessionAt (target : List Char) : Option (List Char) :=
  (Text.splitAt (· == '/') target).getLast?.bind fun segment => Utf8.decode? (Percent.decode segment)

variable {session : List Char}

theorem not_slash_of_mem_encode :
    ∀ c ∈ Percent.encode Percent.component session, (c == '/') = false := by
  intro c hc
  have kept := Percent.isKept_of_mem_encode hc
  rw [beq_eq_false_iff_ne]
  rintro rfl
  revert kept
  decide

theorem sessionAt_append (front : List Char) :
    sessionAt (front ++ '/' :: Percent.encode Percent.component session) = some session := by
  rw [sessionAt, Text.splitAt_append rfl, Text.splitAt_of_none not_slash_of_mem_encode,
    List.getLast?_append_of_ne_nil _ (List.cons_ne_nil _ _), List.getLast?_singleton,
    Option.bind_some, Percent.decode_encode (by decide), Utf8.decode?_encode]

namespace Handle

variable {handle : Handle} {address : String} {request : Request}

/-- **The target of a request consists of the segments of its session**, at a service that has been
found at the root of a host. -/
theorem Asks.target_eq (asks : handle.Asks address request) (service : IsService address)
    (standard : handle.settings.messagesPath = Settings.standard.memory.messagesPath) :
    request.url.target = Url.slashed (sessionPath handle.sessionId.toList) := by
  obtain ⟨text, authority, based⟩ := isBase_normalize service
  obtain ⟨url, parsed, hurl⟩ := asks.url standard
  have written : (String.ofList ((normalize address).toList ++
      '/' :: sessionTail handle.sessionId.toList)).toList =
      Url.httpFront ++ (text ++ '/' :: sessionTail handle.sessionId.toList) := by
    rw [String.toList_ofList, based, List.append_assoc]
  obtain ⟨host, port, rfl⟩ := Url.parse_authority authority visible_sessionTail written parsed
  have ends : ∀ c ∈ '/' :: sessionTail handle.sessionId.toList, Url.endsPath c = false := by
    intro c hc
    rcases List.mem_cons.1 hc with rfl | later
    · decide
    · exact endsPath_sessionTail c later
  have path : Url.pathOf "http".toList ('/' :: sessionTail handle.sessionId.toList) =
      sessionPath handle.sessionId.toList := by
    have special : Url.isSpecial "http".toList = true := by decide
    have file : ("http".toList == Url.fileScheme) = false := by decide
    rw [Url.pathOf, special, if_pos (by decide), Url.segmentsOf, special, file, pushAll_session,
      List.nil_append]
  rw [hurl, Url.withPath_of_path ends, path]
  exact (Url.target_eq rfl rfl).trans (List.append_nil _)

/-- **The target of a request names its session below `/messages/`, unless the session is one of the
two dot segments**: one point stands for nothing, and two points take `messages` away. -/
theorem names_session_iff (service : IsService address)
    (standard : handle.settings.messagesPath = Settings.standard.memory.messagesPath)
    (asks : handle.Asks address request) :
    ((request.url.target = "/messages/".toList ++
          Percent.encode Percent.component handle.sessionId.toList ∧
        sessionAt request.url.target = some handle.sessionId.toList) ↔
      handle.sessionId ≠ "." ∧ handle.sessionId ≠ "..") ∧
    (handle.sessionId = "." → request.url.target = "/messages/".toList) ∧
    (handle.sessionId = ".." → request.url.target = "/".toList) := by
  have target := asks.target_eq service standard
  have here (h : handle.sessionId = ".") : request.url.target = "/messages/".toList := by
    rw [target, h]
    decide
  have above (h : handle.sessionId = "..") : request.url.target = "/".toList := by
    rw [target, h]
    decide
  refine ⟨⟨fun named => ⟨fun h => ?_, fun h => ?_⟩, fun ordinary => ?_⟩, here, above⟩
  · have lost := named.1
    rw [here h, h] at lost
    revert lost
    decide
  · have lost := named.1
    rw [above h, h] at lost
    revert lost
    decide
  · have notHere : handle.sessionId.toList ≠ ['.'] := fun h => ordinary.1 (String.toList_inj.1 h)
    have notAbove : handle.sessionId.toList ≠ ['.', '.'] := fun h =>
      ordinary.2 (String.toList_inj.1 h)
    have front : "/messages/".toList = '/' :: "messages".toList ++ ['/'] := by decide
    have path : request.url.target = '/' :: "messages".toList ++
        '/' :: Percent.encode Percent.component handle.sessionId.toList := by
      rw [target, sessionPath, if_neg notAbove, lastSegment, if_neg notHere]
      simp [Url.slashed]
    exact ⟨by rw [path, front, List.append_assoc]; rfl, path ▸ sessionAt_append _⟩

/-- A session with a slash and points has a path of its own; two points take the session to the root
of the service. -/
theorem names_session_iff_speaker :
    (∃ request, (speakerOf "a/../b").Asks "http://[::1]:8080/" request ∧
      request.url.target = "/messages/a%2F..%2Fb".toList ∧
      sessionAt request.url.target = some "a/../b".toList) ∧
    ∃ request, (speakerOf "..").Asks "http://[::1]:8080/" request ∧
      request.url.target = "/".toList := by
  have service : IsService "http://[::1]:8080/" :=
    ⟨"[::1]:8080".toList,
      Url.isAuthority_of_all (by decide) (by decide) (by decide) (by decide), .inr (by decide)⟩
  obtain ⟨kept, hkept⟩ := @exists_asks (speakerOf "a/../b") "http://[::1]:8080/"
    (.add [.user "secret"]) (by decide +kernel)
  obtain ⟨lost, hlost⟩ := @exists_asks (speakerOf "..") "http://[::1]:8080/" .get (by decide +kernel)
  have named := (names_session_iff service rfl hkept).1.2 ⟨by decide, by decide⟩
  have encoded : "/messages/".toList ++ Percent.encode Percent.component "a/../b".toList =
      "/messages/a%2F..%2Fb".toList := by decide
  exact ⟨⟨kept, hkept, named.1.trans encoded, named.2⟩, lost, hlost,
    (names_session_iff service rfl hlost).2.2 rfl⟩

end Handle

end ConversationMemory
