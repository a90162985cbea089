import CriteriaSearch.Json.Basic
import CriteriaSearch.Search.Error
import CriteriaSearch.Text.Base64
import CriteriaSearch.Url.Reading

/-!
# Exchanges over a network

A request goes out to a network and a reply comes back: a response, or word that the request did
not get through.  A network is the list of the replies that it has for the next requests, and the
reply that it has for every request after those.  Since that last reply never is a success, a
network answers only so many requests.
-/

namespace CriteriaSearch

/-- The methods of requests. -/
inductive HttpMethod where
  | get
  | post
  deriving DecidableEq

/-- The name of a method. -/
def HttpMethod.name : HttpMethod → String
  | .get => "GET"
  | .post => "POST"

/-- A request. -/
structure HttpRequest where
  method : HttpMethod
  url : Url
  /-- Who asks, in the form of the basic scheme. -/
  authorization : Option String := none
  /-- Whether a compressed response is welcome. -/
  acceptsGzip : Bool := false
  body : Option Json := none
  deriving DecidableEq

namespace HttpRequest

/-- The name and the password of the basic scheme. -/
def basic (username : List Char) (password : Option (List Char)) : String :=
  let pair := username ++ ':' :: password.getD []
  "Basic " ++ String.ofList (Text.base64 (pair.flatMap String.utf8EncodeChar))

/-- The kind of the body, if there is one. -/
def contentType (request : HttpRequest) : Option String :=
  request.body.map fun _ => "application/json"

/-- The encodings of responses that are welcome. -/
def acceptEncoding (request : HttpRequest) : Option String :=
  if request.acceptsGzip then some "gzip" else none

end HttpRequest

/-- The name and the password in a URL, if they are texts. -/
def Url.credentials? (url : Url) : Option (List Char × Option (List Char)) := do
  let username ← Text.percentDecode? url.username
  let password := if url.password.isEmpty then none else Text.percentDecode? url.password
  if username.isEmpty && password.isNone then none else some (username, password)

/-- A response. -/
structure HttpResponse where
  status : Nat := 200
  body : String := ""
  deriving DecidableEq, Inhabited

/-- Whether a request was successful. -/
def HttpResponse.isSuccess (response : HttpResponse) : Bool :=
  200 ≤ response.status && response.status < 300

/-- What comes back for a request. -/
abbrev Reply := Except Failure HttpResponse

/-- The replies that are to come. -/
structure Network where
  /-- The replies to the next requests. -/
  replies : List Reply := []
  /-- The reply to every later request. -/
  afterwards : Reply
  afterwards_fails : ∀ response, afterwards = .ok response → response.isSuccess = false

namespace Network

/-- A network through which no request gets. -/
def failing (cause : Failure) : Network where
  afterwards := .error cause
  afterwards_fails := by simp

/-- A network in which no node can be reached. -/
def unreachable : Network :=
  failing ⟨"error trying to connect: tcp connect error: Network is unreachable (os error 101)"⟩

/-- A network that has just these responses. -/
def ofResponses (responses : List HttpResponse) : Network where
  replies := responses.map .ok
  afterwards := .ok { status := 599, body := "no response left" }
  afterwards_fails := by
    intro response given
    cases given
    decide

/-- The next reply, and the network that is left. -/
def next (network : Network) : Reply × Network :=
  match network.replies with
  | [] => (network.afterwards, network)
  | reply :: rest => (reply, { network with replies := rest })

/-- A success uses up a reply. -/
theorem length_replies_lt_of_next {network after : Network} {response : HttpResponse}
    (taken : network.next = (.ok response, after)) (successful : response.isSuccess = true) :
    after.replies.length < network.replies.length := by
  unfold next at taken
  split at taken
  · have last : network.afterwards = .ok response := congrArg Prod.fst taken
    have failed := network.afterwards_fails response last
    cases successful.symm.trans failed
  · next reply rest replies =>
    cases taken
    rw [replies]
    exact Nat.lt_succ_self _

end Network

/-- A request and what came back for it. -/
structure Exchange where
  request : HttpRequest
  reply : Reply

/-- Whether a request got through to a node. -/
def Exchange.isDelivered (exchange : Exchange) : Bool :=
  match exchange.reply with
  | .ok _ => true
  | .error _ => false

end CriteriaSearch
