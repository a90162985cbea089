import CriteriaSearch.Http.Exchange
import CriteriaSearch.Json.Printer

/-!
# Requests and responses as bytes

A request is written with its headers on lines of their own and with the length of its body, and
it asks the node to close the connection after the response.  It never offers to take a compressed
response, since nothing here could unpack one.  A response is read up to the end of the
connection; a body may come in chunks.
-/

namespace CriteriaSearch

namespace HttpRequest

/-- The path and the query of the request. -/
def target (request : HttpRequest) : List Char :=
  request.url.pathText ++ (request.url.query.map ('?' :: ·)).getD []

/-- The host and the port that the request goes to. -/
def destination (request : HttpRequest) : List Char :=
  (request.url.host.map Host.text).getD [] ++
    (request.url.port.map fun port => ':' :: Nat.toDigits 10 port).getD []

/-- The request as bytes. -/
def bytes (request : HttpRequest) : ByteArray :=
  let body := ((request.body.map Json.compact).getD "").toUTF8
  let header (name value : String) : String := s!"{name}: {value}\x0d\x0a"
  let optional (name : String) (value : Option String) : String :=
    (value.map (header name)).getD ""
  let head :=
    s!"{request.method.name} {String.ofList request.target} HTTP/1.1\x0d\x0a" ++
    header "host" (String.ofList request.destination) ++
    header "accept" "*/*" ++
    optional "content-type" request.contentType ++
    optional "authorization" request.authorization ++
    header "content-length" (toString body.size) ++
    header "connection" "close" ++ "\x0d\x0a"
  head.toUTF8 ++ body

end HttpRequest

namespace HttpResponse

/-- The lines in front of the first empty line, and what follows it. -/
def splitHead : List Char → Option (List Char × List Char)
  | [] => none
  | '\x0d' :: '\x0a' :: '\x0d' :: '\x0a' :: rest => some ([], rest)
  | c :: rest => (splitHead rest).map fun (head, body) => (c :: head, body)

/-- A body that comes in chunks, each behind a line with its length; a chunk of length zero is the
last one. -/
def joinChunks : (fuel : Nat) → List Char → Option (List Char)
  | 0, _ => none
  | fuel + 1, cs => do
    let length ← Text.numeral? 16 (cs.takeWhile fun c => (Text.hexDigit? c).isSome)
    if length = 0 then some []
    else
      let chunk := (cs.dropWhile (· ≠ '\x0a')).drop 1
      let rest ← joinChunks fuel (chunk.drop (length + 2))
      some (chunk.take length ++ rest)

/-- The response that bytes hold.  Every byte is first taken for a character of its own. -/
def ofBytes? (bytes : ByteArray) : Option HttpResponse := do
  let cs := bytes.toList.map fun b => Char.ofNat b.toNat
  let (head, rest) ← splitHead cs
  let lines := (Text.pieces '\n' head).map Text.trim
  let first ← lines.head?
  let code ← (Text.pieces ' ' first)[1]?
  let status ← Text.numeral? 10 code
  let inChunks := lines.any fun line =>
    line.map Char.toLower = "transfer-encoding: chunked".toList
  let body ← if inChunks then joinChunks (rest.length + 1) rest else some rest
  let text ← String.fromUTF8? ⟨(body.map fun c => UInt8.ofNat c.toNat).toArray⟩
  return { status, body := text }

end HttpResponse

end CriteriaSearch
