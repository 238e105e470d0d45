import ConversationMemory.Proofs.Text.Blank
import ConversationMemory.Proofs.Url.Below

/-!
# What an address is resolved to

* `AddressSpec.First`: the source that a specification is taken to name. `AddressSpec.first_iff`: this
  is the one that is used.
* `Resolver.resolveBy`: resolving with a source of values that is asked by calls.
  `Resolver.resolveBy_eq`: one call is made at most, and the rest depends on its answer only.
* `IsAddress`: what is known of an address that was resolved. `Resolver.judged_judge`: an address
  comes of a text, or the text is refused.
* `Resolver.PortSays`, `Resolver.PathSays`: what the address of a service says of its port and its path;
  `Resolver.serviceUrl_says`: the whole of it.
* **`Resolver.resolve_outcome`**: what comes of a specification, with the keys that are looked up.
-/

namespace ConversationMemory

/-! ## The first source -/

/-- No literal value is given. -/
def AddressSpec.IsSilent (spec : AddressSpec) : Prop := ∀ text, spec.value = some text → text = ""

/-- The source that a specification is taken to name: a literal value before a config map, a config
map before a secret, and a secret before a service. -/
inductive AddressSpec.First (spec : AddressSpec) : AddressSource → Prop
  | literal {text : String} (given : spec.value = some text) (nonEmpty : text ≠ "") :
      First spec (.literal text)
  | configMap {places : ValueFrom} {ref : KeyRef} (silent : spec.IsSilent)
      (kept : spec.valueFrom = some places) (here : places.configMapKeyRef = some ref) :
      First spec (.key .configMap ref)
  | secret {places : ValueFrom} {ref : KeyRef} (silent : spec.IsSilent)
      (kept : spec.valueFrom = some places) (noMap : places.configMapKeyRef = none)
      (here : places.secretKeyRef = some ref) : First spec (.key .secret ref)
  | service {places : ValueFrom} {ref : ServiceRef} (silent : spec.IsSilent)
      (kept : spec.valueFrom = some places) (noMap : places.configMapKeyRef = none)
      (noSecret : places.secretKeyRef = none) (here : places.serviceRef = some ref) :
      First spec (.service ref)

namespace AddressSpec

variable {spec : AddressSpec} {source : AddressSource}

theorem nonEmpty?_eq_some {given : Option String} {text : String} :
    nonEmpty? given = some text ↔ given = some text ∧ text ≠ "" := by
  simp [nonEmpty?, Option.filter_eq_some_iff]

theorem isSilent_iff : spec.IsSilent ↔ nonEmpty? spec.value = none := by
  rw [Option.eq_none_iff_forall_ne_some]
  simp only [ne_eq, nonEmpty?_eq_some, IsSilent, not_and, not_not]

/-- **The source that is used is the first one.** -/
theorem first_iff : spec.First source ↔ spec.source? = some source := by
  constructor
  · intro first
    cases first with
    | literal given nonEmpty => rw [source?, nonEmpty?_eq_some.2 ⟨given, nonEmpty⟩]
    | configMap silent kept here =>
      rw [source?, isSilent_iff.1 silent, kept]
      simp [ValueFrom.source?, here]
    | secret silent kept noMap here =>
      rw [source?, isSilent_iff.1 silent, kept]
      simp [ValueFrom.source?, noMap, here]
    | service silent kept noMap noSecret here =>
      rw [source?, isSilent_iff.1 silent, kept]
      simp [ValueFrom.source?, noMap, noSecret, here]
  · intro used
    rw [source?] at used
    cases given : nonEmpty? spec.value with
    | some text =>
      rw [given] at used
      obtain rfl := Option.some.inj used
      obtain ⟨said, nonEmpty⟩ := nonEmpty?_eq_some.1 given
      exact .literal said nonEmpty
    | none =>
      rw [given] at used
      have silent := isSilent_iff.2 given
      obtain ⟨places, kept, used⟩ := Option.bind_eq_some_iff.1 used
      unfold ValueFrom.source? at used
      split at used
      · rename_i here
        obtain rfl := Option.some.inj used
        exact .configMap silent kept here
      · rename_i noMap here
        obtain rfl := Option.some.inj used
        exact .secret silent kept noMap here
      · rename_i noMap noSecret here
        obtain rfl := Option.some.inj used
        exact .service silent kept noMap noSecret here
      · cases used

end AddressSpec

/-! ## Asking for values -/

/-- The key of a value that a reference in a namespace is about. -/
def KeyRef.keyIn (ref : KeyRef) (kind : ValueKind) (namespaceName : String) : ValueKey :=
  ⟨kind, namespaceName, ref.name, ref.key⟩

/-- A source of values that is asked by calls. -/
abbrev AskedSource (m : Type → Type) := ValueKey → m (Except StoreError (Option String))

namespace Resolver

section

variable {m : Type → Type} [Monad m]

/-- What an answer of a source of values is to a reference. -/
def received (kind : ValueKind) (ref : KeyRef) (namespaceName : String) :
    Except StoreError (Option String) → Except ResolveError String
  | .error e => .error (.source e)
  | .ok none => .error (.keyNotFound kind ref.name ref.key namespaceName)
  | .ok (some text) => .ok text

/-- The value of a reference, asked for. -/
def lookUpBy (ask : Option (AskedSource m)) (kind : ValueKind) (ref : KeyRef)
    (namespaceName : String) : m (Except ResolveError String) :=
  match ask with
  | none => pure (.error (.noValueSource kind))
  | some ask => received kind ref namespaceName <$> ask (ref.keyIn kind namespaceName)

/-- The text of a specification, one place tried after the other. -/
def textBy (ask : Option (AskedSource m)) (resolver : Resolver) (spec : AddressSpec)
    (namespaceName : String) : m (Except ResolveError String) :=
  if let some text := nonEmpty? spec.value then pure (.ok text)
  else if let some places := spec.valueFrom then
    if let some ref := places.configMapKeyRef then lookUpBy ask .configMap ref namespaceName
    else if let some ref := places.secretKeyRef then lookUpBy ask .secret ref namespaceName
    else if let some ref := places.serviceRef then
      pure (.ok (resolver.serviceUrl ref namespaceName))
    else pure (.error .emptySpec)
  else pure (.error .emptySpec)

/-- The address in a text, without the blanks around it. -/
def judge (text : String) : Except ResolveError String :=
  match validate (Text.trim text) with
  | .error e => .error e
  | .ok () => .ok (Text.trim text)

/-- The address of a specification, with its values asked for. -/
def resolveBy (ask : Option (AskedSource m)) (resolver : Resolver) (spec : AddressSpec)
    (namespaceName : String) : m (Except ResolveError String) :=
  (·.bind judge) <$> textBy ask resolver spec namespaceName

/-- **Resolving asks for one value at most**, the one that the first source refers to, and goes by the
answer from there on. -/
theorem resolveBy_eq [LawfulMonad m] (ask : Option (AskedSource m)) (resolver : Resolver)
    (spec : AddressSpec) (namespaceName : String) :
    resolveBy ask resolver spec namespaceName =
      match spec.source?, ask with
      | none, _ => pure (.error .emptySpec)
      | some (.literal text), _ => pure (judge text)
      | some (.service ref), _ => pure (judge (resolver.serviceUrl ref namespaceName))
      | some (.key kind _), none => pure (.error (.noValueSource kind))
      | some (.key kind ref), some ask =>
        (fun answer => (received kind ref namespaceName answer).bind judge) <$>
          ask (ref.keyIn kind namespaceName) := by
  have looked (kind : ValueKind) (ref : KeyRef) :
      (·.bind judge) <$> lookUpBy ask kind ref namespaceName =
        match ask with
        | none => pure (.error (.noValueSource kind))
        | some ask => (fun answer => (received kind ref namespaceName answer).bind judge) <$>
            ask (ref.keyIn kind namespaceName) := by
    cases ask with
    | none => simp only [lookUpBy, map_pure, Except.bind]
    | some ask => simp only [lookUpBy, Functor.map_map]
  rw [resolveBy, textBy, AddressSpec.source?]
  cases nonEmpty? spec.value with
  | some text => simp only [map_pure, Except.bind]
  | none =>
    cases spec.valueFrom with
    | none => simp only [map_pure, Except.bind, Option.bind_none]
    | some places =>
      obtain ⟨map, secret, service⟩ := places
      simp only [Option.bind_some, ValueFrom.source?]
      cases map with
      | some ref => cases ask <;> simp only [looked]
      | none =>
        cases secret with
        | some ref => cases ask <;> simp only [looked]
        | none =>
          cases service with
          | some ref => simp only [map_pure, Except.bind]
          | none => simp only [map_pure, Except.bind]

end

variable {resolver : Resolver} {spec : AddressSpec} {namespaceName : String}

theorem resolve_of_source {source : AddressSource} (used : spec.source? = some source) :
    resolver.resolve spec namespaceName = (resolver.textOf namespaceName source).bind judge := by
  rw [resolve, used]
  dsimp only
  cases resolver.textOf namespaceName source with
  | error e => simp only [Except.bind]
  | ok text =>
    cases accepted : validate (Text.trim text) with
    | error e => simp only [Except.bind, judge, accepted]
    | ok _ => simp only [Except.bind, judge, accepted]

theorem lookUp_eq {values : ValueSource} (set : resolver.values = some values) (kind : ValueKind)
    (ref : KeyRef) : resolver.lookUp kind ref namespaceName =
      received kind ref namespaceName (values (ref.keyIn kind namespaceName)) := by
  rw [lookUp, set, KeyRef.keyIn]
  dsimp only
  cases values ⟨kind, namespaceName, ref.name, ref.key⟩ with
  | error e => rfl
  | ok found => cases found <;> rfl

/-- A source of values that notes down what it is asked for. -/
def noting (values : ValueSource) : AskedSource (StateM (List ValueKey)) :=
  fun key asked => (values key, asked ++ [key])

/-- The address of a specification, with the keys that were looked up for it. -/
def recorded (resolver : Resolver) (spec : AddressSpec) (namespaceName : String) :
    Except ResolveError String × List ValueKey :=
  (resolveBy (resolver.values.map noting) resolver spec namespaceName).run []

/-- The keys that are looked up: that of the first source, if it refers to a value. -/
def lookups (resolver : Resolver) (spec : AddressSpec) (namespaceName : String) : List ValueKey :=
  match spec.source?, resolver.values with
  | some (.key kind ref), some _ => [ref.keyIn kind namespaceName]
  | _, _ => []

theorem recorded_eq (resolver : Resolver) (spec : AddressSpec) (namespaceName : String) :
    resolver.recorded spec namespaceName =
      (resolver.resolve spec namespaceName, resolver.lookups spec namespaceName) := by
  rw [recorded, resolveBy_eq, lookups]
  cases used : spec.source? with
  | none =>
    rw [resolve, used]
    rfl
  | some source =>
    rw [resolve_of_source used]
    cases source with
    | literal text =>
      rw [textOf, Except.bind]
      rfl
    | service ref =>
      rw [textOf, Except.bind]
      rfl
    | key kind ref =>
      cases set : resolver.values with
      | none =>
        rw [textOf, lookUp, set, Except.bind]
        rfl
      | some values =>
        rw [textOf, lookUp_eq set]
        rfl

end Resolver

/-! ## Addresses -/

/-- What is known of an address that came of a text. -/
structure IsAddress (text address : String) : Prop where
  /-- It is the text without the blanks around it, and has no others at its ends. -/
  spelled : ∃ front back, text.toList = front ++ address.toList ++ back ∧
    ∀ c ∈ front ++ back, Text.isBlank c = true
  begins : ∀ c ∈ address.toList.head?, Text.isBlank c = false
  ends : ∀ c ∈ address.toList.getLast?, Text.isBlank c = false
  nonEmpty : address ≠ ""
  absolute : ∃ url, Url.parse address = .ok url ∧ Url.IsHttp url.scheme
  /-- It stands for itself, wherever it is resolved. -/
  stays : ∀ (resolver : Resolver) (namespaceName : String),
    resolver.resolve (.literal address) namespaceName = .ok address

/-- What comes of a text: an address, or the refusal of a text that is none. -/
inductive Judged (text : String) : Except ResolveError String → Prop
  | address {address : String} (h : IsAddress text address) : Judged text (.ok address)
  | unreadable {e : UrlError} (refused : Url.parse (Text.trim text) = .error e) :
      Judged text (.error (.invalidAddress (Text.trim text) e.message))
  | unsupported {url : Url} (parsed : Url.parse (Text.trim text) = .ok url)
      (other : ¬ Url.IsHttp url.scheme) :
      Judged text (.error (.invalidAddress (Text.trim text)
        s!"unsupported scheme '{String.ofList url.scheme}'"))

namespace Resolver

theorem judged_judge (text : String) : Judged text (judge text) := by
  rw [judge]
  cases accepted : validate (Text.trim text) with
  | error e =>
    unfold validate at accepted
    split at accepted
    · rename_i refused
      obtain rfl := Except.error.inj accepted
      exact .unreadable refused
    · rename_i url parsed
      split at accepted
      · cases accepted
      · rename_i other
        obtain rfl := Except.error.inj accepted
        exact .unsupported parsed other
  | ok _ =>
    obtain ⟨url, parsed, http⟩ := Url.parse_of_validate accepted
    have nonEmpty : Text.trim text ≠ "" := by
      intro nothing
      rw [nothing] at parsed
      cases parsed
    refine .address ⟨?_, ?_, ?_, nonEmpty, ⟨url, parsed, http⟩, fun resolver namespaceName => ?_⟩
    · rw [Text.trim, String.toList_ofList]
      exact Text.strip_spells Text.isBlank text.toList
    · rw [Text.trim, String.toList_ofList]
      exact Text.head_strip Text.isBlank text.toList
    · rw [Text.trim, String.toList_ofList]
      exact Text.last_strip Text.isBlank text.toList
    · have used := AddressSpec.first_iff.1
        (@AddressSpec.First.literal (.literal (Text.trim text)) _ rfl nonEmpty)
      rw [resolve_of_source used, textOf, Except.bind, judge, Text.trim_trim, accepted]

/-! ## The address of a service -/

/-- What an address says of the port of a service; an empty one counts as none. -/
inductive PortSays : Option String → String → Prop
  | unset : PortSays none ""
  | empty : PortSays (some "") ""
  | port {port : String} (nonEmpty : port ≠ "") : PortSays (some port) (":" ++ port)

/-- What an address says of the path of a service; a slash comes in front of one that has none. -/
inductive PathSays : Option String → String → Prop
  | unset : PathSays none ""
  | empty : PathSays (some "") ""
  | rooted {path : String} (slash : path.toList.head? = some '/') : PathSays (some path) path
  | relative {path : String} (nonEmpty : path ≠ "") (noSlash : path.toList.head? ≠ some '/') :
      PathSays (some path) ("/" ++ path)

theorem portSays (port : Option String) :
    PortSays port ((nonEmpty? port).elim "" fun port => ":" ++ port) := by
  cases port with
  | none => exact .unset
  | some port =>
    by_cases nonEmpty : port = ""
    · subst nonEmpty
      exact .empty
    · rw [AddressSpec.nonEmpty?_eq_some.2 ⟨rfl, nonEmpty⟩]
      exact .port nonEmpty

theorem pathSays (path : Option String) : PathSays path ((nonEmpty? path).elim "" fun path =>
    if path.startsWith "/" then path else "/" ++ path) := by
  have slash_iff (path : String) : path.startsWith "/" = true ↔ path.toList.head? = some '/' := by
    rw [String.startsWith_string_iff]
    cases path.toList with
    | nil => decide
    | cons c rest => simp [eq_comm]
  cases path with
  | none => exact .unset
  | some path =>
    by_cases nonEmpty : path = ""
    · subst nonEmpty
      exact .empty
    · rw [AddressSpec.nonEmpty?_eq_some.2 ⟨rfl, nonEmpty⟩, Option.elim_some]
      split
      · rename_i slash
        exact .rooted ((slash_iff path).1 slash)
      · rename_i noSlash
        exact .relative nonEmpty fun slash => noSlash ((slash_iff path).2 slash)

theorem PortSays.of_some {port said : String} (h : PortSays (some port) said) (nonEmpty : port ≠ "") :
    said = ":" ++ port := by
  generalize given : some port = named at h
  cases h with
  | unset => cases given
  | empty => exact (nonEmpty (Option.some.inj given)).elim
  | port => exact congrArg _ (Option.some.inj given).symm

theorem PathSays.of_relative {path said : String} (h : PathSays (some path) said)
    (nonEmpty : path ≠ "") (noSlash : path.toList.head? ≠ some '/') : said = "/" ++ path := by
  generalize given : some path = named at h
  cases h with
  | unset => cases given
  | empty => exact (nonEmpty (Option.some.inj given)).elim
  | rooted slash => exact (noSlash (Option.some.inj given ▸ slash)).elim
  | relative => exact congrArg _ (Option.some.inj given).symm

/-- The address of a service is put together from its name, its namespace or that of the record, the
domain of the cluster, its port and its path. -/
theorem serviceUrl_says (resolver : Resolver) (ref : ServiceRef) (namespaceName : String) :
    ∃ port path, PortSays ref.port port ∧ PathSays ref.path path ∧
      resolver.serviceUrl ref namespaceName = "http://" ++ ref.name ++ "." ++
        ref.namespaceName.getD namespaceName ++ "." ++ resolver.clusterDomain ++ port ++ path :=
  ⟨_, _, portSays ref.port, pathSays ref.path, rfl⟩

/-! ## What comes of a specification -/

/-- What comes of a specification, and what is looked up for it. -/
inductive Outcome (resolver : Resolver) (spec : AddressSpec) (namespaceName : String) :
    Except ResolveError String → List ValueKey → Prop
  | emptySpec (nowhere : ∀ source, ¬ spec.First source) :
      Outcome resolver spec namespaceName (.error .emptySpec) []
  | literal {text : String} {result : Except ResolveError String}
      (first : spec.First (.literal text)) (judged : Judged text result) :
      Outcome resolver spec namespaceName result []
  | service {ref : ServiceRef} {port path : String} {result : Except ResolveError String}
      (first : spec.First (.service ref)) (portSaid : PortSays ref.port port)
      (pathSaid : PathSays ref.path path)
      (judged : Judged ("http://" ++ ref.name ++ "." ++ ref.namespaceName.getD namespaceName ++ "." ++
        resolver.clusterDomain ++ port ++ path) result) :
      Outcome resolver spec namespaceName result []
  | noValueSource {kind : ValueKind} {ref : KeyRef} (first : spec.First (.key kind ref))
      (unset : resolver.values = none) :
      Outcome resolver spec namespaceName (.error (.noValueSource kind)) []
  | failed {kind : ValueKind} {ref : KeyRef} {values : ValueSource} {e : StoreError}
      (first : spec.First (.key kind ref)) (set : resolver.values = some values)
      (answer : values (ref.keyIn kind namespaceName) = .error e) :
      Outcome resolver spec namespaceName (.error (.source e)) [ref.keyIn kind namespaceName]
  | keyNotFound {kind : ValueKind} {ref : KeyRef} {values : ValueSource}
      (first : spec.First (.key kind ref)) (set : resolver.values = some values)
      (answer : values (ref.keyIn kind namespaceName) = .ok none) :
      Outcome resolver spec namespaceName
        (.error (.keyNotFound kind ref.name ref.key namespaceName)) [ref.keyIn kind namespaceName]
  | value {kind : ValueKind} {ref : KeyRef} {values : ValueSource} {text : String}
      {result : Except ResolveError String} (first : spec.First (.key kind ref))
      (set : resolver.values = some values)
      (answer : values (ref.keyIn kind namespaceName) = .ok (some text))
      (judged : Judged text result) :
      Outcome resolver spec namespaceName result [ref.keyIn kind namespaceName]

theorem outcome_of_lookups (resolver : Resolver) (spec : AddressSpec) (namespaceName : String) :
    Outcome resolver spec namespaceName (resolver.resolve spec namespaceName)
      (resolver.lookups spec namespaceName) := by
  rw [lookups]
  cases used : spec.source? with
  | none =>
    rw [resolve, used]
    refine .emptySpec fun source first => ?_
    rw [AddressSpec.first_iff.1 first] at used
    cases used
  | some source =>
    have first := AddressSpec.first_iff.2 used
    rw [resolve_of_source used]
    cases source with
    | literal text =>
      rw [textOf, Except.bind]
      exact .literal first (judged_judge text)
    | service ref =>
      obtain ⟨port, path, portSaid, pathSaid, text⟩ := resolver.serviceUrl_says ref namespaceName
      rw [textOf, Except.bind, text]
      exact .service first portSaid pathSaid (judged_judge _)
    | key kind ref =>
      cases set : resolver.values with
      | none =>
        rw [textOf, lookUp, set]
        exact .noValueSource first set
      | some values =>
        rw [textOf, lookUp_eq set]
        cases answer : values (ref.keyIn kind namespaceName) with
        | error e => exact .failed first set answer
        | ok found =>
          cases found with
          | none => exact .keyNotFound first set answer
          | some text =>
            rw [received, Except.bind]
            exact .value first set answer (judged_judge text)

theorem resolve_congr {resolver other : Resolver} {spec : AddressSpec} {namespaceName : String}
    (domain : other.clusterDomain = resolver.clusterDomain)
    (set : other.values.isSome = resolver.values.isSome)
    (agree : ∀ key ∈ resolver.lookups spec namespaceName,
      other.values.map (· key) = resolver.values.map (· key)) :
    other.resolve spec namespaceName = resolver.resolve spec namespaceName := by
  cases used : spec.source? with
  | none => rw [resolve, resolve, used]
  | some source =>
    rw [resolve_of_source used, resolve_of_source used]
    cases source with
    | literal text => rfl
    | service ref => rw [textOf, textOf, serviceUrl, serviceUrl, domain]
    | key kind ref =>
      cases mine : resolver.values with
      | none =>
        rw [mine, Option.isSome_none, Option.isSome_eq_false_iff, Option.isNone_iff_eq_none] at set
        rw [textOf, textOf, lookUp, lookUp, set, mine]
      | some values =>
        rw [mine, Option.isSome_some, Option.isSome_iff_exists] at set
        obtain ⟨theirs, set⟩ := set
        rw [lookups, used, mine, set] at agree
        have same : theirs (ref.keyIn kind namespaceName) = values (ref.keyIn kind namespaceName) :=
          Option.some.inj (agree _ (List.mem_singleton_self _))
        rw [textOf, textOf, lookUp_eq mine, lookUp_eq set, same]

/-- **What comes of a specification.** The first of its sources is read, and no other one; there is one
lookup at most, of what this source refers to in the namespace. What goes wrong with it is answered.
From a text comes an address, which stands for itself, or a refusal. No other value of a source of
values makes a difference. -/
theorem resolve_outcome (resolver : Resolver) (spec : AddressSpec) (namespaceName : String) :
    ∃ asked, resolver.recorded spec namespaceName =
        (resolver.resolve spec namespaceName, asked) ∧
      Outcome resolver spec namespaceName (resolver.resolve spec namespaceName) asked ∧
      ∀ other : Resolver, other.clusterDomain = resolver.clusterDomain →
        other.values.isSome = resolver.values.isSome →
        (∀ key ∈ asked, other.values.map (· key) = resolver.values.map (· key)) →
          other.resolve spec namespaceName = resolver.resolve spec namespaceName :=
  ⟨resolver.lookups spec namespaceName, recorded_eq resolver spec namespaceName,
    outcome_of_lookups resolver spec namespaceName, fun _ => resolve_congr⟩

/-- A specification with an empty value and two references. -/
def mixed : AddressSpec where
  value := some ""
  valueFrom := some
    { configMapKeyRef := some ⟨"memory", "url"⟩, secretKeyRef := some ⟨"keys", "url"⟩ }

/-- A service in the namespace of the record, with a port and a path. -/
def chatService : ServiceRef where
  name := "chat"
  port := some "8080"
  path := some "v1"

/-- An empty value does not count, and no secret is read when there is a config map: the address is the
same without it. The text of a service is judged without any lookup. -/
theorem resolve_outcome_mixed :
    (recorded { values := some fun _ => .ok (some " http://[::1] ") } mixed "team" =
        (.ok "http://[::1]", [⟨.configMap, "team", "memory", "url"⟩]) ∧
      resolve { values := some fun key =>
          if key.kind = .configMap then .ok (some " http://[::1] ") else .ok none } mixed "team" =
        .ok "http://[::1]") ∧
    (recorded {} (.service chatService) "team").2 = [] ∧
      Judged "http://chat.team.svc.cluster.local:8080/v1"
        (resolve {} (.service chatService) "team") := by
  constructor
  · have noted : recorded { values := some fun _ => .ok (some " http://[::1] ") } mixed "team" =
        (.ok "http://[::1]", [⟨.configMap, "team", "memory", "url"⟩]) := rfl
    obtain ⟨asked, both, -, same⟩ :=
      resolve_outcome { values := some fun _ => .ok (some " http://[::1] ") } mixed "team"
    rw [noted] at both
    obtain ⟨resolved, rfl⟩ := Prod.mk.inj both
    refine ⟨noted, (same _ rfl rfl fun key hkey => ?_).trans resolved.symm⟩
    obtain rfl := List.mem_singleton.1 hkey
    rfl
  · obtain ⟨asked, both, outcome, -⟩ := resolve_outcome {} (.service chatService) "team"
    have named {source : AddressSource} (first : (AddressSpec.service chatService).First source) :
        source = .service chatService :=
      Option.some.inj ((AddressSpec.first_iff.1 first).symm.trans rfl)
    rw [both]
    generalize resolve {} (.service chatService) "team" = result at outcome
    cases outcome with
    | emptySpec nowhere => exact (nowhere _ (AddressSpec.first_iff.2 rfl)).elim
    | service first portSaid pathSaid judged =>
      cases named first
      obtain rfl := portSaid.of_some (by decide)
      obtain rfl := pathSaid.of_relative (by decide) (by decide)
      exact ⟨rfl, judged⟩
    | literal first | noValueSource first | failed first | keyNotFound first | value first =>
      cases named first

end Resolver

end ConversationMemory
