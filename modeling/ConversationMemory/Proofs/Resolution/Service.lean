import ConversationMemory.Proofs.Resolution
import ConversationMemory.Proofs.Url.Host

/-!
# Addresses of services

The address of a service is put together from its name, its namespace, the domain of the cluster, its
port and its path.

* `Host.InCluster`: a host below the domain of the cluster.
* `ServiceRef.strayAuthority?`: an authority in this address that the domain is no part of.
  `ServiceRef.strayAuthority?_eq_none`: labels for both names, and a port without an `@`, make none.
* **`Resolver.host_of_service`**: the host is in the cluster, unless there is a stray authority; then it
  is the host of that.
-/

namespace ConversationMemory

/-- The characters of an address that count. -/
def Url.counts (c : Char) : Bool := c != '\t' && c != '\n' && c != '\r'

theorem Url.seen_eq (text : List Char) :
    seen text = (Text.strip (fun c => c.toNat ≤ 0x20) text).filter counts := rfl

/-! ## The cluster -/

/-- The domain of the cluster, unless a resolver has another one. -/
def clusterDomain : List Char := "svc.cluster.local".toList

theorem isProper_clusterDomain : Domain.IsProper clusterDomain where
  plain c hc := by
    have letters : clusterDomain.all fun c => c = '.' ∨ (0x61 ≤ c.toNat ∧ c.toNat ≤ 0x7A) := by decide
    exact of_decide_eq_true (List.all_eq_true.1 letters c hc)
  ends := by decide
  noNumber := by decide
  letter := ⟨'s', by decide, by decide⟩

/-- A host of the cluster, in whatever case it is written. -/
def Host.InCluster (host : Host) : Prop := '.' :: clusterDomain <:+ host.chars.map Char.toLower

theorem Host.inCluster_domain (name : List Char) :
    InCluster (.domain (name ++ '.' :: clusterDomain)) := by
  rw [InCluster, Host.chars, List.map_append]
  exact List.suffix_append _ _

/-! ## The address of a service -/

namespace ServiceRef

/-- Name and namespace of the service. -/
def front (ref : ServiceRef) (namespaceName : String) : String :=
  ref.name ++ "." ++ ref.namespaceName.getD namespaceName

/-- The port with its colon. -/
def portPart (ref : ServiceRef) : String := (nonEmpty? ref.port).elim "" fun port => ":" ++ port

/-- The path with its slash. -/
def pathPart (ref : ServiceRef) : String :=
  (nonEmpty? ref.path).elim "" fun path => if path.startsWith "/" then path else "/" ++ path

/-- What stands behind the domain. -/
def back (ref : ServiceRef) : String := ref.portPart ++ ref.pathPart

/-- How the address of a service begins. -/
def httpMark : List Char := ['h', 't', 't', 'p', ':', '/', '/']

/-- The address up to the port. -/
def opening (ref : ServiceRef) (namespaceName : String) : List Char :=
  httpMark ++ (ref.front namespaceName).toList ++ '.' :: clusterDomain

/-- Name and namespace as they begin an authority. -/
def place (ref : ServiceRef) (namespaceName : String) : List Char :=
  ((ref.front namespaceName).toList.filter Url.counts).dropWhile (Url.isSlash true)

/-- Port and path as they count in an address. -/
def tail (ref : ServiceRef) : List Char := Url.seen (Text.trim ref.back).toList

/-- The port, up to where an authority ends. -/
def portText (ref : ServiceRef) : List Char := Url.authority ref.tail

/-- The authority in the address of the service, when the domain of the cluster is no part of its host:
the authority ends in the name or the namespace, or an `@` in the port makes a user of all in front. -/
def strayAuthority? (ref : ServiceRef) (namespaceName : String) : Option (List Char) :=
  if (ref.place namespaceName).any (Url.endsAuthority true) then
    some (Url.authority (ref.place namespaceName))
  else if ref.portText.contains '@' then some ref.portText
  else none

variable {ref : ServiceRef} {namespaceName : String}

theorem pathPart_cases : ref.pathPart.toList = [] ∨ ∃ rest, ref.pathPart.toList = '/' :: rest := by
  rw [pathPart]
  cases nonEmpty? ref.path with
  | none => exact .inl rfl
  | some path =>
    right
    dsimp only [Option.elim]
    split
    · rename_i slash
      obtain ⟨rest, hrest⟩ := String.startsWith_string_iff.1 slash
      exact ⟨rest, hrest.symm⟩
    · exact ⟨path.toList, by rw [String.toList_append]; rfl⟩

theorem back_begins : ∀ c ∈ ref.back.toList.head?, c = ':' ∨ c = '/' := by
  rw [back, String.toList_append, portPart]
  cases nonEmpty? ref.port with
  | none =>
    rcases @pathPart_cases ref with nothing | ⟨rest, slash⟩
    · rw [nothing]
      nofun
    · rw [slash]
      rintro c ⟨⟩
      exact .inr rfl
  | some port =>
    dsimp only [Option.elim]
    rw [String.toList_append]
    rintro c ⟨⟩
    exact .inl rfl

theorem not_blank_of_begins {c : Char} (h : c = ':' ∨ c = '/') :
    Text.isBlank c = false ∧ decide (c.toNat ≤ 0x20) = false ∧ Url.counts c = true := by
  rcases h with rfl | rfl <;> decide

theorem trim_back_begins : ∀ c ∈ (Text.trim ref.back).toList.head?, c = ':' ∨ c = '/' := by
  rw [Text.trim, String.toList_ofList,
    Text.head?_strip fun c hc => (not_blank_of_begins (back_begins c hc)).1]
  exact back_begins

theorem tail_begins : ∀ c ∈ ref.tail.head?, c = ':' ∨ c = '/' := by
  have begins := @trim_back_begins ref
  have first := Text.head?_strip fun c hc => (not_blank_of_begins (begins c hc)).2.1
  rw [← first] at begins
  rw [tail, Url.seen_eq]
  cases hstrip : Text.strip (fun c => c.toNat ≤ 0x20) (Text.trim ref.back).toList with
  | nil => nofun
  | cons d more =>
    rw [hstrip] at begins
    rw [List.filter_cons_of_pos (not_blank_of_begins (begins d rfl)).2.2]
    exact begins

theorem portText_begins : ∀ c ∈ ref.portText.head?, c = ':' := by
  intro c hc
  rw [portText, Url.authority, List.head?_takeWhile, Option.mem_def, Option.filter_eq_some_iff] at hc
  rcases tail_begins c hc.1 with rfl | rfl
  · rfl
  · exact absurd hc.2 (by decide)

/-- The text of the host in the address of a service: that of a stray authority, or of one with the
domain of the cluster in front of its port. -/
theorem authority_cases (ref : ServiceRef) (namespaceName : String) :
    (∃ stray, ref.strayAuthority? namespaceName = some stray ∧
      Url.hostText (Url.authority (ref.place namespaceName ++ '.' :: (clusterDomain ++ ref.tail))) =
        Url.hostText stray) ∨
    ref.strayAuthority? namespaceName = none ∧ '@' ∉ ref.portText ∧
      (∀ c ∈ ref.place namespaceName, Url.endsAuthority true c = false) ∧
      Url.authority (ref.place namespaceName ++ '.' :: (clusterDomain ++ ref.tail)) =
        ref.place namespaceName ++ '.' :: clusterDomain ++ ref.portText := by
  rw [strayAuthority?]
  split
  · rename_i ends
    refine .inl ⟨_, rfl, congrArg Url.hostText ?_⟩
    have ended : ((ref.place namespaceName).takeWhile fun c => !Url.endsAuthority true c).length ≠
        (ref.place namespaceName).length := by
      intro length
      obtain ⟨c, hc, ends⟩ := List.any_eq_true.1 ends
      have goesOn := List.takeWhile_eq_self_iff.1
        ((List.takeWhile_prefix _).eq_of_length length) c hc
      rw [ends] at goesOn
      cases goesOn
    rw [Url.authority, List.takeWhile_append, if_neg ended, Url.authority]
  · rename_i goesOn
    have goesOn : ∀ c ∈ ref.place namespaceName, Url.endsAuthority true c = false := by
      simpa using goesOn
    have domain : ∀ c ∈ '.' :: clusterDomain, Url.endsAuthority true c = false :=
      fun _ => Url.goesOn_of_plain isProper_clusterDomain.plain.below
    have whole : Url.authority (ref.place namespaceName ++ '.' :: (clusterDomain ++ ref.tail)) =
        ref.place namespaceName ++ '.' :: clusterDomain ++ ref.portText := by
      rw [Url.authority, List.takeWhile_append_of_pos fun c hc => by simp [goesOn c hc],
        ← List.cons_append, List.takeWhile_append_of_pos fun c hc => by simp [domain c hc], portText,
        Url.authority, List.append_assoc]
    split
    · rename_i user
      refine .inl ⟨_, rfl, ?_⟩
      rw [whole, Url.hostText, Url.hostText, Url.named_append_of_mem (by simpa using user)]
    · rename_i noUser
      exact .inr ⟨rfl, by simpa using noUser, goesOn, whole⟩

theorem toList_serviceUrl {values : Option ValueSource} :
    (({ values } : Resolver).serviceUrl ref namespaceName).toList =
      ref.opening namespaceName ++ ref.back.toList := by
  rw [Resolver.serviceUrl, opening, front, back, portPart, pathPart]
  simp only [String.toList_append, List.append_assoc]
  rfl

theorem strip_opening {p : Char → Bool} (first : p 'h' = false) (last : p 'l' = false)
    {back : List Char} (next : ∀ c ∈ back.head?, p c = false) :
    Text.strip p (ref.opening namespaceName ++ back) =
      ref.opening namespaceName ++ Text.strip p back := by
  have begins : (ref.opening namespaceName).head? = some 'h' := rfl
  have ends : (ref.opening namespaceName).getLast? = some 'l' := by
    rw [opening, List.getLast?_append]
    rfl
  refine Text.strip_append ?_ ?_ next (by rintro h; rw [h] at begins; cases begins)
  · rw [begins]
    rintro c ⟨⟩
    exact first
  · rw [ends]
    rintro c ⟨⟩
    exact last

theorem seen_trim_serviceUrl {values : Option ValueSource} :
    Url.seen (Text.trim (({ values } : Resolver).serviceUrl ref namespaceName)).toList =
      httpMark ++ ((ref.front namespaceName).toList.filter Url.counts ++
        '.' :: (clusterDomain ++ ref.tail)) := by
  have trimmed : (Text.trim (({ values } : Resolver).serviceUrl ref namespaceName)).toList =
      ref.opening namespaceName ++ (Text.trim ref.back).toList := by
    rw [Text.trim, Text.trim, String.toList_ofList, String.toList_ofList, toList_serviceUrl,
      strip_opening (by decide) (by decide) fun c hc => (not_blank_of_begins (back_begins c hc)).1]
  have kept : (ref.opening namespaceName).filter Url.counts =
      httpMark ++ (ref.front namespaceName).toList.filter Url.counts ++ '.' :: clusterDomain := by
    rw [opening, List.filter_append, List.filter_append]
    rfl
  rw [trimmed, Url.seen_eq, strip_opening (by decide) (by decide) fun c hc =>
    (not_blank_of_begins (trim_back_begins c hc)).2.1, List.filter_append, kept, tail, Url.seen_eq,
    List.append_assoc, List.append_assoc]
  rfl

theorem parse_trim_serviceUrl {values : Option ValueSource} :
    Url.parse (Text.trim (({ values } : Resolver).serviceUrl ref namespaceName)) =
      Url.withAuthority { scheme := "http".toList }
        (ref.place namespaceName ++ '.' :: (clusterDomain ++ ref.tail)) := by
  have scheme : Url.splitScheme? httpMark = some ("http".toList, ['/', '/']) := by decide
  have slashes (text : List Char) :
      (['/', '/'] ++ text).dropWhile (Url.isSlash true) = text.dropWhile (Url.isSlash true) := rfl
  rw [Url.parse_of_special (seen_trim_serviceUrl ▸ Url.splitScheme?_append scheme _) (by decide)
    (by decide), slashes, Text.dropWhile_stops (by decide)]
  rfl

theorem mem_of_mem_portText {c : Char} (hc : c ∈ ref.portText) : c ∈ ref.portPart.toList := by
  have trimmed : (Text.trim ref.back).toList <+: ref.back.toList := by
    rw [Text.trim, String.toList_ofList]
    exact Text.strip_prefix fun c hc => (not_blank_of_begins (back_begins c hc)).1
  have stripped : Text.strip (fun c => c.toNat ≤ 0x20) (Text.trim ref.back).toList <+:
      ref.back.toList :=
    (Text.strip_prefix fun c hc => (not_blank_of_begins (trim_back_begins c hc)).2.1).trans trimmed
  have counted : ref.tail <+: ref.back.toList.filter Url.counts := by
    rw [tail, Url.seen_eq]
    exact stripped.filter _
  have whole := Url.mem_authority_of_prefix counted hc
  rw [back, String.toList_append, List.filter_append, Url.authority] at whole
  have inside : c ∈ ref.portPart.toList.filter Url.counts := by
    rcases @pathPart_cases ref with nothing | ⟨rest, slash⟩
    · rw [nothing, List.filter_nil, List.append_nil] at whole
      exact (List.takeWhile_sublist _).subset whole
    · rw [slash, List.filter_cons_of_pos rfl, Text.takeWhile_stops rfl] at whole
      exact (List.takeWhile_sublist _).subset whole
  exact List.filter_sublist.subset inside

theorem strayAuthority?_eq_none
    (labels : ∀ c ∈ (ref.front namespaceName).toList, Url.endsAuthority true c = false)
    (noUser : ∀ port, ref.port = some port → '@' ∉ port.toList) :
    ref.strayAuthority? namespaceName = none := by
  have goesOn : ¬ (ref.place namespaceName).any (Url.endsAuthority true) = true := by
    intro ends
    obtain ⟨c, hc, ends⟩ := List.any_eq_true.1 ends
    have inside := List.filter_sublist.subset ((List.dropWhile_sublist _).subset hc)
    rw [labels c inside] at ends
    cases ends
  have named : ¬ ref.portText.contains '@' = true := by
    intro user
    have user := mem_of_mem_portText (List.contains_iff_mem.1 user)
    rw [portPart] at user
    cases given : nonEmpty? ref.port with
    | none =>
      rw [given] at user
      cases user
    | some port =>
      rw [given] at user
      have := noUser port (AddressSpec.nonEmpty?_eq_some.1 given).1
      simp [this] at user
  rw [strayAuthority?, if_neg goesOn, if_neg named]

end ServiceRef

namespace Resolver

/-- **The host of a service is one of the cluster**, unless its address has a stray authority; then it
is the host of that. -/
theorem host_of_service {values : Option ValueSource} {spec : AddressSpec} {ref : ServiceRef}
    {namespaceName address : String} (source : spec.source? = some (.service ref))
    (resolved : ({ values } : Resolver).resolve spec namespaceName = .ok address) :
    ∃ url host, Url.parse address = .ok url ∧ url.host = some host ∧
      (ref.strayAuthority? namespaceName = none → host.InCluster) ∧
      ∀ authority ∈ ref.strayAuthority? namespaceName,
        Host.parse (Url.hostText authority) = .ok host := by
  rw [resolve_of_source source, textOf, Except.bind, judge] at resolved
  split at resolved
  · cases resolved
  rename_i accepted
  obtain rfl := Except.ok.inj resolved
  obtain ⟨url, parsed, -⟩ := Url.parse_of_validate accepted
  rw [ServiceRef.parse_trim_serviceUrl] at parsed
  obtain ⟨host, hhost, text, noPoint⟩ := Url.host_of_withAuthority rfl parsed
  refine ⟨url, host, by rw [ServiceRef.parse_trim_serviceUrl, parsed], hhost, ?_⟩
  rcases ref.authority_cases namespaceName with ⟨stray, hstray, heq⟩ | ⟨hstray, noUser, goesOn, heq⟩
  · rw [heq] at text
    rw [hstray]
    exact ⟨fun h => (Option.some_ne_none _ h).elim, fun authority h => Option.some.inj h ▸ text⟩
  · rw [heq] at text noPoint
    obtain ⟨name, rfl⟩ := Url.host_below isProper_clusterDomain goesOn noUser
      ServiceRef.portText_begins text noPoint
    rw [hstray]
    exact ⟨fun _ => Host.inCluster_domain name, fun authority h => by cases h⟩

/-- A service whose name ends in a slash: its address has the host that the name says. -/
theorem host_of_service_slash :
    resolve {} (.service { name := "[::1]/" }) "team" =
      .ok "http://[::1]/.team.svc.cluster.local" ∧
    ∃ url host, Url.parse "http://[::1]/.team.svc.cluster.local" = .ok url ∧ url.host = some host ∧
      ¬ host.InCluster := by
  have resolved : resolve {} (.service { name := "[::1]/" }) "team" =
      .ok "http://[::1]/.team.svc.cluster.local" := rfl
  have stray : (ServiceRef.mk "[::1]/" none none none).strayAuthority? "team" =
      some ['[', ':', ':', '1', ']'] := by decide +kernel
  obtain ⟨url, host, parsed, hhost, -, text⟩ :=
    @host_of_service none (.service { name := "[::1]/" }) { name := "[::1]/" } "team" _ rfl resolved
  refine ⟨resolved, url, host, parsed, hhost, ?_⟩
  have := text _ stray
  have same : host = .ipv6 [0, 0, 0, 0, 0, 0, 0, 1] := (Except.ok.inj this).symm
  rw [same, Host.InCluster]
  decide +kernel

end Resolver

end ConversationMemory
