import ConversationMemory.Store.InMemory
import ConversationMemory.Telemetry.Event
import ConversationMemory.Url

/-!
# Resolving addresses

* `AddressSpec.source?`: the one source that a specification is taken to name, the first of a
  literal value, a config map key, a secret key and a service.
* `Resolver`: looks values up in a source of values and knows the domain of the cluster.
* `Resolver.resolve`: the address of the source without blanks around it, if it is one for `http`;
  `Resolver.resolveTold` adds to the log as well.
* `ResolveError`: why there is none.
-/

namespace ConversationMemory

/-- Why a specification gives no address. -/
inductive ResolveError
  | emptySpec
  | keyNotFound (kind : ValueKind) (name key namespaceName : String)
  | invalidAddress (address reason : String)
  | noValueSource (kind : ValueKind)
  | source (error : StoreError)

/-- The error in words. -/
def ResolveError.message : ResolveError → String
  | emptySpec => "address specification has no value or valueFrom source"
  | keyNotFound kind name key namespaceName =>
    s!"{kind.name} {namespaceName}/{name} has no key '{key}'"
  | invalidAddress address reason =>
    s!"resolved address '{address}' is not a valid http(s) URL: {reason}"
  | noValueSource kind => s!"no config value source configured for {kind.name} references"
  | source error => s!"failed to read referenced value: {error.message}"

/-- The errors that led to an error, the nearest one first. -/
def ResolveError.causes : ResolveError → List String
  | source error => error.message :: error.causes
  | _ => []

/-- Where an address comes from. -/
inductive AddressSource
  | literal (text : String)
  | key (kind : ValueKind) (ref : KeyRef)
  | service (ref : ServiceRef)
  deriving DecidableEq, Repr

/-- A text that says something. -/
def nonEmpty? (text : Option String) : Option String := text.filter (· ≠ "")

/-- The first of the places in which an address can be kept. -/
def ValueFrom.source? (places : ValueFrom) : Option AddressSource :=
  match places.configMapKeyRef, places.secretKeyRef, places.serviceRef with
  | some ref, _, _ => some (.key .configMap ref)
  | none, some ref, _ => some (.key .secret ref)
  | none, none, some ref => some (.service ref)
  | none, none, none => none

/-- The first source that the specification names. -/
def AddressSpec.source? (spec : AddressSpec) : Option AddressSource :=
  match nonEmpty? spec.value with
  | some text => some (.literal text)
  | none => spec.valueFrom.bind ValueFrom.source?

/-- A source of values: `none` for a collection or key that does not exist. -/
abbrev ValueSource := ValueKey → Except StoreError (Option String)

/-- What addresses are resolved with. -/
structure Resolver where
  values : Option ValueSource := none
  clusterDomain : String := "svc.cluster.local"

namespace Resolver

/-- The value of a key, looked up in the namespace of the record. -/
def lookUp (resolver : Resolver) (kind : ValueKind) (ref : KeyRef) (namespaceName : String) :
    Except ResolveError String :=
  match resolver.values with
  | none => .error (.noValueSource kind)
  | some values =>
    match values ⟨kind, namespaceName, ref.name, ref.key⟩ with
    | .error e => .error (.source e)
    | .ok none => .error (.keyNotFound kind ref.name ref.key namespaceName)
    | .ok (some text) => .ok text

/-- The address of a service, in the namespace of the record unless it names another one. -/
def serviceUrl (resolver : Resolver) (service : ServiceRef) (namespaceName : String) : String :=
  let host :=
    s!"http://{service.name}.{service.namespaceName.getD namespaceName}." ++ resolver.clusterDomain
  let port := (nonEmpty? service.port).elim "" fun port => ":" ++ port
  let path := (nonEmpty? service.path).elim "" fun path =>
    if path.startsWith "/" then path else "/" ++ path
  host ++ port ++ path

/-- The text that a source gives. -/
def textOf (resolver : Resolver) (namespaceName : String) :
    AddressSource → Except ResolveError String
  | .literal text => .ok text
  | .key kind ref => resolver.lookUp kind ref namespaceName
  | .service ref => .ok (resolver.serviceUrl ref namespaceName)

/-- Refuses a text that is no address for `http` or `https`. -/
def validate (address : String) : Except ResolveError Unit :=
  match Url.parse address with
  | .error e => .error (.invalidAddress address e.message)
  | .ok url =>
    if url.scheme = "http".toList ∨ url.scheme = "https".toList then .ok ()
    else .error (.invalidAddress address s!"unsupported scheme '{String.ofList url.scheme}'")

/-- The address that a specification stands for in a namespace. -/
def resolve (resolver : Resolver) (spec : AddressSpec) (namespaceName : String) :
    Except ResolveError String :=
  match spec.source? with
  | none => .error .emptySpec
  | some source =>
    match resolver.textOf namespaceName source with
    | .error e => .error e
    | .ok text =>
      let address := Text.trim text
      match validate address with
      | .error e => .error e
      | .ok () => .ok address

/-- The entry about an address that was resolved. -/
def resolveEntry (address : String) : LogEntry :=
  ⟨.debug, s!"[ValueSourceResolver] Resolved address to {address}", []⟩

/-- The address that a specification stands for, with what is added to the log. -/
def resolveTold (resolver : Resolver) (spec : AddressSpec) (namespaceName : String) :
    Except ResolveError String × List LogEntry :=
  match resolver.resolve spec namespaceName with
  | .ok address => (.ok address, [resolveEntry address])
  | .error e => (.error e, [])

end Resolver

end ConversationMemory
