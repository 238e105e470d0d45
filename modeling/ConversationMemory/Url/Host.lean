import ConversationMemory.Url.Address
import ConversationMemory.Url.Domain
import ConversationMemory.Url.Percent

/-!
# Hosts

* `UrlError`: why a text is no address.
* `Host`: a domain name or a network address; `Host.chars` writes it.
* `Host.parse`: the host of an address of a special scheme, as it will be looked up.
* `Host.parseRaw`: the host of any other address, taken as it is.
-/

namespace ConversationMemory

/-- Why a text is no address. -/
inductive UrlError
  | emptyHost
  | domainRefused
  | invalidPort
  | invalidIpv4
  | invalidIpv6
  | invalidDomainCharacter
  | noScheme
  deriving DecidableEq, Repr

/-- The error in words. -/
def UrlError.message : UrlError → String
  | emptyHost => "empty host"
  | domainRefused => "invalid international domain name"
  | invalidPort => "invalid port number"
  | invalidIpv4 => "invalid IPv4 address"
  | invalidIpv6 => "invalid IPv6 address"
  | invalidDomainCharacter => "invalid domain character"
  | noScheme => "relative URL without a base"

/-- Who is addressed. -/
inductive Host
  | domain (name : List Char)
  | ipv4 (address : Nat)
  | ipv6 (pieces : List Nat)
  deriving DecidableEq, Repr

namespace Host

/-- The host as it stands in an address. -/
def chars : Host → List Char
  | domain name => name
  | ipv4 address => Ipv4.chars address
  | ipv6 pieces => '[' :: Ipv6.chars pieces ++ [']']

/-- Whether there is no name at all. -/
def isEmpty : Host → Bool
  | domain [] => true
  | _ => false

/-- The address in brackets, when the host starts with one. -/
def parseBrackets? : List Char → Option (Except UrlError Host)
  | '[' :: rest =>
    if rest.getLast? = some ']' then
      match Ipv6.parse? rest.dropLast with
      | some pieces => some (.ok (.ipv6 pieces))
      | none => some (.error .invalidIpv6)
    else some (.error .invalidIpv6)
  | _ => none

/-- A host whose name is decoded and mapped, and which counts as a number when it ends in one. -/
def parse (text : List Char) : Except UrlError Host :=
  match parseBrackets? text with
  | some result => result
  | none =>
    match (Utf8.decode? (Percent.decode text)).bind Domain.ascii? with
    | none => .error .domainRefused
    | some [] => .error .emptyHost
    | some name =>
      if Ipv4.looksNumeric name then
        match Ipv4.parse? name with
        | some address => .ok (.ipv4 address)
        | none => .error .invalidIpv4
      else .ok (.domain name)

/-- The characters that no host has. -/
def forbidden : List Char :=
  ['\x00', '\t', '\n', '\r', ' ', '#', '/', ':', '<', '>', '?', '@', '[', '\\', ']', '^', '|']

/-- A host that is taken as it is. -/
def parseRaw (text : List Char) : Except UrlError Host :=
  match parseBrackets? text with
  | some result => result
  | none =>
    if text.any forbidden.contains then .error .invalidDomainCharacter
    else .ok (.domain (Percent.encode Percent.printable text))

end Host

end ConversationMemory
