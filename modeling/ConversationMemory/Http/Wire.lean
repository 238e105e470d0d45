import ConversationMemory.Http
import ConversationMemory.Text.Character
import ConversationMemory.Text.Utf8

/-!
# Requests and answers as bytes

* `Request.bytes`: a request as it is sent, over a connection that ends with the answer.
* `Response.ofBytes?`: the answer that a connection has brought until it ended.
* `Wire.chunks?`: the body that is sent in chunks.
-/

namespace ConversationMemory

namespace Wire

/-- The end of a line. -/
def lineEnd : List UInt8 := [13, 10]

/-- A text of single bytes. -/
def bytesOf (text : String) : List UInt8 := Utf8.encode text.toList

/-- The first line, and what follows its end. -/
def splitLine? : List UInt8 → Option (List UInt8 × List UInt8)
  | 13 :: 10 :: rest => some ([], rest)
  | b :: rest => (splitLine? rest).map fun (line, rest) => (b :: line, rest)
  | [] => none

/-- A line as characters, each byte one of them. -/
def charsOf (line : List UInt8) : List Char := line.map fun b => Char.ofNat b.toNat

/-- A header of a line: the name in lower case, and the value without blanks around it. -/
def headerOf (line : List Char) : String × String :=
  (String.ofList ((line.takeWhile (· != ':')).map Char.toLower),
    Text.trim (String.ofList ((line.dropWhile (· != ':')).drop 1)))

/-- Headers up to an empty line; the number bounds how many. -/
def headers? : Nat → List UInt8 → Option (Headers × List UInt8)
  | 0, _ => none
  | fuel + 1, bytes => do
    match ← splitLine? bytes with
    | ([], rest) => return ([], rest)
    | (line, rest) =>
      let (headers, rest) ← headers? fuel rest
      return (headerOf (charsOf line) :: headers, rest)

/-- The number that the digits of a base at the front make up. -/
def numberOf (base : Nat) (cs : List Char) : Nat :=
  Text.valueIn base (cs.takeWhile (Text.isDigitIn base))

/-- The body that is sent in chunks; the number bounds how many. -/
def chunks? : Nat → List UInt8 → Option (List UInt8)
  | 0, _ => none
  | fuel + 1, bytes => do
    let (line, rest) ← splitLine? bytes
    match numberOf 16 (charsOf line) with
    | 0 => return []
    | size =>
      if rest.length < size + 2 then none
      else return rest.take size ++ (← chunks? fuel (rest.drop (size + 2)))

/-- The body of an answer with these headers, of which the rest of the connection is left. -/
def bodyOf (status : Nat) (headers : Headers) (rest : List UInt8) : ResponseBody :=
  let cut : ResponseBody :=
    .lost ["error reading a body from connection", "end of file before message length reached"]
  if status = 204 ∨ status = 304 then .whole []
  else
    match headers.lookup "transfer-encoding", headers.lookup "content-length" with
    | some _, _ => ((chunks? (rest.length + 1) rest).map .whole).getD cut
    | none, some length =>
      let length := numberOf 10 length.toList
      if rest.length < length then cut else .whole (rest.take length)
    | none, none => .whole rest

end Wire

open Wire

/-- What a request accepts that does not say it. -/
def usualHeaders : Headers := [("accept", "*/*")]

/-- The request as it is sent. A name and a password in its address are not turned into credentials:
`Request.prepare` leaves them out. -/
def Request.bytes (request : Request) : List UInt8 :=
  let port := request.url.port.elim "" fun port => s!":{port}"
  let host := String.ofList (request.url.host.elim [] Host.chars) ++ port
  let length := request.body.toList.map fun body => ("content-length", toString body.utf8ByteSize)
  let headers := Request.withDefaults request.headers usualHeaders ++ length ++
    [("host", host), ("connection", "close")]
  let lines :=
    (request.method.name ++ " " ++ String.ofList request.url.target ++ " HTTP/1.1") ::
      headers.map fun (name, value) => name ++ ": " ++ value
  lines.flatMap (fun line => bytesOf line ++ lineEnd) ++ lineEnd ++ bytesOf (request.body.getD "")

/-- The answer that a connection has brought until it ended. Answers that only announce others are
passed over; the number bounds how many. -/
def Response.ofBytes? : Nat → List UInt8 → Option Response
  | 0, _ => none
  | fuel + 1, bytes => do
    let (line, rest) ← splitLine? bytes
    let status := numberOf 10 (((charsOf line).dropWhile (· != ' ')).drop 1)
    let (headers, rest) ← headers? (rest.length + 1) rest
    if status < 100 then none
    else if status < 200 then Response.ofBytes? fuel rest
    else return ⟨status, bodyOf status headers rest⟩

end ConversationMemory
