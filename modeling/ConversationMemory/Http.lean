import ConversationMemory.Url

/-!
# Requests and answers

* `Request`: what is sent to a service. `Request.prepare` makes one from texts, and refuses what
  cannot be sent.
* `Transport`: the default headers and the timeout that requests share.
* `Response`: the answer of a service. `TransportError`: why there is none.
-/

namespace ConversationMemory

/-- How far a request has got when it fails. -/
inductive TransportStage
  | building
  | sending
  | receiving
  deriving DecidableEq, Repr

/-- Why a request gets no answer: how far it has got, where it was to go, and what led to that. -/
structure TransportError where
  stage : TransportStage
  url : Option String := none
  causes : List String := []
  deriving DecidableEq, Repr

/-- The error in words. -/
def TransportError.message (error : TransportError) : String :=
  let what :=
    match error.stage with
    | .building => "builder error"
    | .sending => "error sending request"
    | .receiving => "error decoding response body"
  what ++ error.url.elim "" fun url => s!" for url ({url})"

/-- Headers by their names in lower case. -/
abbrev Headers := List (String × String)

/-- The methods that are used. -/
inductive Method
  | get
  | put
  deriving DecidableEq, Repr

/-- The method as it is written. -/
def Method.name : Method → String
  | get => "GET"
  | put => "PUT"

/-- What is sent to a service. -/
structure Request where
  method : Method
  url : Url
  headers : Headers
  body : Option String
  /-- The milliseconds that it may take. -/
  timeout : Option Nat
  deriving DecidableEq, Repr

/-- What requests share. -/
structure Transport where
  defaultHeaders : Headers := []
  timeout : Option Nat := none
  deriving DecidableEq, Repr

/-- The body of an answer, whole or cut off. -/
inductive ResponseBody
  | whole (bytes : List UInt8)
  | lost (causes : List String)
  deriving DecidableEq, Repr

/-- The answer of a service. -/
structure Response where
  status : Nat
  body : ResponseBody
  deriving DecidableEq, Repr

/-- Whether the service says that it did what it was asked for. -/
def Response.isSuccess (response : Response) : Bool :=
  200 ≤ response.status && response.status < 300

namespace Request

/-- The most bytes that an address may have on its way. -/
def urlLimit : Nat := 65534

/-- Whether a character may stand in the value of a header. -/
def headerChar (c : Char) : Bool := c == '\t' || (0x20 ≤ c.toNat && c.toNat != 0x7F)

/-- Whether a host can be named in a request. -/
def hostAllowed : Host → Bool
  | .domain name => !name.any (['"', '\x60', '\x7b', '\x7d'].contains ·)
  | _ => true

/-- Headers with defaults for those that are not given. -/
def withDefaults (headers defaults : Headers) : Headers :=
  headers ++ defaults.filter fun header => !headers.any fun given => given.1 == header.1

/-- The request for an address in text form, with the headers of its own and the shared ones. The
first of these is refused: an address that is none, one without a host, a header that is none, a
scheme other than `http` and `https`, a host or a length that no request can have. A name and a
password in the address are left out, and no credentials are made of them. -/
def prepare (transport : Transport) (method : Method) (address : String) (headers : Headers)
    (body : Option String) : Except TransportError Request :=
  match Url.parse address with
  | .error e => .error { stage := .building, causes := [e.message] }
  | .ok url =>
    let refused (shown : Url) (cause : String) : Except TransportError Request :=
      .error { stage := .building, url := some shown.text, causes := [cause] }
    if !url.hasHost then refused url "URL scheme is not allowed"
    else if !headers.all fun header => header.2.toList.all headerChar then
      .error { stage := .building, causes := ["failed to parse header value"] }
    else
      let sent := url.withoutUser
      if sent.scheme ≠ "http".toList ∧ sent.scheme ≠ "https".toList then
        refused sent "URL scheme is not allowed"
      else if !(sent.host.all hostAllowed) ∨ urlLimit < sent.text.utf8ByteSize then
        refused sent "Parsed Url is not a valid Uri"
      else
        .ok { method, url := sent, headers := withDefaults headers transport.defaultHeaders, body,
              timeout := transport.timeout }

/-- The address to which the request goes; fragments stay behind. -/
def address (request : Request) : String := { request.url with fragment := none : Url }.text

/-- The error that the request cannot be sent, or gets no answer. -/
def notSent (request : Request) (causes : List String) : TransportError :=
  { stage := .sending, url := some request.url.text, causes }

end Request

end ConversationMemory
