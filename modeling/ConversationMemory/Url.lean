import ConversationMemory.Text.Character
import ConversationMemory.Url.Host

/-!
# Addresses

* `Url`: the parts of an address; `Url.text` writes it in its one normal form.
* `Url.parse`: reads an address, in any of the forms that are taken for it.
* `Url.target`: what a server gets to see of it, the path and the query.
-/

namespace ConversationMemory

/-- The path: segments below the root, or a text without any structure. -/
inductive UrlPath
  | segments (parts : List (List Char))
  | rigid (text : List Char)
  deriving DecidableEq, Repr

/-- An address in parts. -/
structure Url where
  scheme : List Char
  username : List Char := []
  password : List Char := []
  host : Option Host := none
  /-- The port, when it is not the usual one of the scheme. -/
  port : Option Nat := none
  path : UrlPath := .segments []
  query : Option (List Char) := none
  fragment : Option (List Char) := none
  deriving DecidableEq, Repr

namespace Url

/-! ## Schemes -/

/-- The schemes whose addresses always have a host, with their usual ports. -/
def specialPorts : List (List Char × Nat) :=
  [("http".toList, 80), ("https".toList, 443), ("ws".toList, 80), ("wss".toList, 443),
    ("ftp".toList, 21)]

/-- The scheme of files. -/
def fileScheme : List Char := "file".toList

/-- Whether a backslash counts as a slash under the scheme. -/
def isSpecial (scheme : List Char) : Bool :=
  scheme == fileScheme || (specialPorts.lookup scheme).isSome

/-- The characters of a scheme after the first. -/
def schemeChar (c : Char) : Bool := c.isAlphanum || c == '+' || c == '-' || c == '.'

/-- The scheme in lower case, with what follows its colon. -/
def splitScheme? (text : List Char) : Option (List Char × List Char) :=
  let scheme := text.takeWhile schemeChar
  match scheme, text.dropWhile schemeChar with
  | first :: _, ':' :: rest => if first.isAlpha then some (scheme.map Char.toLower, rest) else none
  | _, _ => none

/-! ## Path, query and fragment -/

/-- A slash, or what counts as one. -/
def isSlash (special : Bool) (c : Char) : Bool := c == '/' || (special && c == '\\')

/-- Where a path ends. -/
def endsPath (c : Char) : Bool := c == '?' || c == '#'

/-- Where a host with its user and port ends. -/
def endsAuthority (special : Bool) (c : Char) : Bool := endsPath c || isSlash special c

/-- The forms of a point, plain and encoded. -/
def point : List (List Char) := [['.'], "%2e".toList, "%2E".toList]

/-- The segment that stands for the place reached. -/
def isHere (segment : List Char) : Bool := point.contains segment

/-- The segment that stands for the level above. -/
def isAbove (segment : List Char) : Bool := point.any fun a => point.any fun b => segment == a ++ b

/-- A letter and a colon or bar, as disks are named. -/
def isDrive : List Char → Bool
  | [letter, mark] => letter.isAlpha && (mark == ':' || mark == '|')
  | _ => false

/-- Whether a segment is a disk, or a disk with a backslash after it. No step to the level above
leaves such a segment. -/
def keepsPlace (segment : List Char) : Bool :=
  isDrive (segment.take 2) && (segment.drop 2).head?.all (· == '\\')

/-- The path without its last segment, unless that keeps its place. -/
def shorten (path : List (List Char)) : List (List Char) :=
  if path.getLast?.any keepsPlace then path else path.dropLast

/-- The path after one more segment, which may be the last one. The first segment below a file's
root names a disk with a colon. -/
def push (file : Bool) (path : List (List Char)) (segment : List Char) (last : Bool) :
    List (List Char) :=
  if isAbove segment then shorten path ++ if last then [[]] else []
  else if isHere segment then path ++ if last then [[]] else []
  else if file && path.isEmpty && isDrive segment then path ++ [segment.take 1 ++ [':']]
  else path ++ [Percent.encode Percent.path segment]

/-- The path of raw segments in order. -/
def pushAll (file : Bool) (path : List (List Char)) : List (List Char) → List (List Char)
  | [] => path
  | [segment] => push file path segment true
  | segment :: rest => pushAll file (push file path segment false) rest

/-- The segments of a path text after its first slash. -/
def segmentsOf (scheme text : List Char) : List (List Char) :=
  pushAll (scheme == fileScheme) [] (Text.splitAt (isSlash (isSpecial scheme)) text)

/-- The path at the front of a text: it begins with a slash, whether that is given or not. -/
def pathOf (scheme text : List Char) : List (List Char) :=
  match text with
  | c :: rest =>
    if isSlash (isSpecial scheme) c then segmentsOf scheme rest
    else segmentsOf scheme text
  | [] => if isSpecial scheme then [[]] else []

/-- The path of a file: it does not begin with empty segments, unless there are no others. -/
def withoutGaps (path : List (List Char)) : List (List Char) :=
  match path.dropWhile List.isEmpty with
  | [] => [[]]
  | path => path

/-- The address with the query and fragment at the front of a text. -/
def withQuery (url : Url) (text : List Char) : Url :=
  let keep := if isSpecial url.scheme then Percent.specialQuery else Percent.query
  match text with
  | '?' :: rest =>
    { url with
      query := some (Percent.encode keep (rest.takeWhile (· != '#')))
      fragment := fragmentOf (rest.dropWhile (· != '#')) }
  | _ => { url with fragment := fragmentOf text }
where
  /-- The fragment after its mark. -/
  fragmentOf : List Char → Option (List Char)
    | '#' :: rest => some (Percent.encode Percent.fragment rest)
    | _ => none

/-- The address with the path, query and fragment that a text holds. -/
def withPath (url : Url) (text : List Char) : Url :=
  let path := text.takeWhile fun c => !endsPath c
  withQuery { url with path := .segments (pathOf url.scheme path) }
    (text.dropWhile fun c => !endsPath c)

/-! ## User, host and port -/

/-- User name and password before the last `@`, and what follows it. -/
def splitUser (special : Bool) (text : List Char) : Option (List Char × List Char) :=
  let front := text.takeWhile fun c => !endsAuthority special c
  if front.contains '@' then
    let user := (front.reverse.dropWhile (· != '@')).drop 1
    some (user.reverse, text.drop (user.length + 1))
  else none

/-- The text of the host at the front, up to a colon outside of brackets. -/
def hostLength (special : Bool) (bracket : Bool) : List Char → Nat
  | [] => 0
  | c :: rest =>
    if (c == ':' && !bracket) || endsAuthority special c then 0
    else
      let bracket := if c == '[' then true else if c == ']' then false else bracket
      hostLength special bracket rest + 1

/-- The number that digits at the front make up, with what follows them. -/
def readPort (text : List Char) : Except UrlError (Option Nat × List Char) :=
  let digits := text.takeWhile Char.isDigit
  let rest := text.dropWhile Char.isDigit
  let port := Text.valueIn 10 digits
  if 65535 < port then .error .invalidPort
  else
    match rest with
    | [] => .ok (if digits.isEmpty then none else some port, rest)
    | c :: _ =>
      if endsPath c || isSlash true c then .ok (if digits.isEmpty then none else some port, rest)
      else .error .invalidPort

/-- The address with host and port from the front of a text, and what follows them. -/
def withHost (url : Url) (text : List Char) : Except UrlError (Url × List Char) := do
  let special := isSpecial url.scheme
  let length := hostLength special false text
  let name := text.take length
  let rest := text.drop length
  if special && name.isEmpty then throw .emptyHost
  let host ← if special then Host.parse name else Host.parseRaw name
  match rest with
  | ':' :: rest =>
    if host.isEmpty then throw .emptyHost
    let (port, rest) ← readPort rest
    let port := if port == specialPorts.lookup url.scheme then none else port
    return ({ url with host := some host, port }, rest)
  | _ => return ({ url with host := some host }, rest)

/-- The address with all that follows two slashes. -/
def withAuthority (url : Url) (text : List Char) : Except UrlError Url := do
  let special := isSpecial url.scheme
  match splitUser special text with
  | none =>
    let (url, rest) ← withHost url text
    return url.withPath rest
  | some (user, text) =>
    if user.isEmpty && (text.head?.any (endsAuthority special)) then throw .emptyHost
    let username := user.takeWhile (· != ':')
    let password := (user.dropWhile (· != ':')).drop 1
    let (found, rest) ← withHost url text
    let url := { found with
      username := Percent.encode Percent.userinfo username
      password := Percent.encode Percent.userinfo password }
    if found.host.any Host.isEmpty && !(username.isEmpty && password.isEmpty) then throw .emptyHost
    return url.withPath rest

/-- The address of a file with its path, and with the query and fragment that a text holds. A disk
is on no host. -/
def withFilePath (url : Url) (path : List (List Char)) (text : List Char) : Url :=
  let host := if path.head?.any isDrive then none else url.host
  withQuery { url with host, path := .segments (withoutGaps path) } text

/-- The address of a file with all that follows the scheme. After two slashes comes a host, which
may be left out; the slash after a missing host begins another segment. -/
def withFile (url : Url) (text : List Char) : Except UrlError Url :=
  let front := text.takeWhile fun c => !endsPath c
  let rest := text.dropWhile fun c => !endsPath c
  match front with
  | a :: b :: named =>
    if isSlash true a && isSlash true b then
      let name := named.takeWhile fun c => !isSlash true c
      let path := named.dropWhile fun c => !isSlash true c
      if isDrive name then .ok (url.withFilePath (segmentsOf url.scheme named) rest)
      else if name.isEmpty then .ok (url.withFilePath (segmentsOf url.scheme path) rest)
      else do
        let host ← Host.parse name
        if host == .domain "localhost".toList then
          return url.withFilePath (segmentsOf url.scheme path) rest
        else
          return { url with host := some host : Url }.withFilePath (pathOf url.scheme path) rest
    else .ok (url.withFilePath (pathOf url.scheme front) rest)
  | _ => .ok (url.withFilePath (pathOf url.scheme front) rest)

/-! ## Reading and writing -/

/-- Reads an address. Blanks and controls around it, and tabs and line ends in it, do not count. -/
def parse (text : String) : Except UrlError Url :=
  let stripped := Text.strip (fun c => c.toNat ≤ 0x20) text.toList
  let cs := stripped.filter fun c => c != '\t' && c != '\n' && c != '\r'
  match splitScheme? cs with
  | none => .error .noScheme
  | some (scheme, rest) =>
    let url : Url := { scheme }
    if scheme == fileScheme then url.withFile rest
    else if isSpecial scheme then url.withAuthority (rest.dropWhile (isSlash true))
    else
      match rest with
      | '/' :: '/' :: rest => url.withAuthority rest
      | '/' :: _ => .ok (url.withPath rest)
      | _ =>
        let path := rest.takeWhile fun c => !endsPath c
        .ok (withQuery { url with path := .rigid (Percent.encode Percent.printable path) }
          (rest.dropWhile fun c => !endsPath c))

/-- The path as it is written. -/
def pathChars (url : Url) : List Char :=
  match url.path with
  | .rigid text => text
  | .segments parts =>
    let slashed := parts.flatMap ('/' :: ·)
    if url.host.isNone && url.scheme != fileScheme && 1 < parts.length &&
        parts.head? == some [] then
      '/' :: '.' :: slashed
    else slashed

/-- User name and password as they are written. -/
def userChars (url : Url) : List Char :=
  if url.username.isEmpty && url.password.isEmpty then []
  else
    url.username ++ (if url.password.isEmpty then [] else ':' :: url.password) ++ ['@']

/-- Path and query, as a server gets to see them. -/
def target (url : Url) : List Char :=
  url.pathChars ++ match url.query with
    | some query => '?' :: query
    | none => []

/-- The address in its normal form. -/
def chars (url : Url) : List Char :=
  let authority :=
    match url.host with
    | some host =>
      '/' :: '/' :: url.userChars ++ host.chars ++ match url.port with
        | some port => ':' :: Nat.toDigits 10 port
        | none => []
    | none => if url.scheme == fileScheme then ['/', '/'] else []
  let fragment :=
    match url.fragment with
    | some fragment => '#' :: fragment
    | none => []
  url.scheme ++ ':' :: authority ++ url.target ++ fragment

/-- The address in its normal form. -/
def text (url : Url) : String := String.ofList url.chars

/-- Whether somebody is addressed. -/
def hasHost (url : Url) : Bool := url.host.any fun host => !host.isEmpty

/-- The address without user name and password. -/
def withoutUser (url : Url) : Url := { url with username := [], password := [] }

end Url

end ConversationMemory
