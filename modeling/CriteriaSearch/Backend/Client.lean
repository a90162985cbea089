import CriteriaSearch.Backend.Cursor
import CriteriaSearch.Http.Exchange
import CriteriaSearch.Settings.Basic

/-!
# A client of a search engine

A client sends the requests of searches to the nodes of a search engine.  The nodes take turns:
every call takes the next turn of one counter, which is a word and starts over after the last one.
All requests are about one index, whose name becomes part of their paths as it is.

The client is a backend over the state of its connection: the counter, the network and the
exchanges so far.  A cursor brings a batch only with a successful response, and a network has only
so many of those, hence every cursor comes to an end.
-/

namespace CriteriaSearch

/-- A number of seconds as whole nanoseconds, the nearest even ones at a half, if a clock can wait
for that long. -/
def Binary64.Extended.nanoseconds? : Binary64.Extended → Option Nat
  | .finite x =>
    if x.negative && x.position.val ≠ 0 then none
    else if (UInt64.size : Rat) ≤ x.magnitude then none
    else
      let exact := x.magnitude * 1000000000
      some (Binary64.roundDiv exact.num.natAbs exact.den)
  | .infinite _ | .notANumber => none

/-- A client of the nodes that hold an index. -/
structure Client where
  nodes : List Url
  nodes_ne_nil : nodes ≠ []
  index : String
  username : Option String := none
  password : Option String := none
  acceptsGzip : Bool := true

namespace Client

/-- The URL of a node, as the directory that all endpoints are in. -/
def node (given : String) : Except ConfigError Url :=
  match Url.parse given with
  | .error problem => .error (.badUrl given problem.message)
  | .ok url => if url.isHypertext then .ok url.asDirectory else .error (.badScheme given)

/-- Every URL that is read gives one node. -/
theorem length_of_mapM_node {given : List String} {nodes : List Url}
    (read : given.mapM node = .ok nodes) : nodes.length = given.length := by
  induction given generalizing nodes with
  | nil =>
      cases read
      rfl
  | cons text rest ih =>
      rw [List.mapM_cons] at read
      cases first : node text with
      | error problem =>
          rw [first] at read
          cases read
      | ok url =>
          cases later : rest.mapM node with
          | error problem =>
              rw [first, later] at read
              cases read
          | ok urls =>
              rw [first, later] at read
              cases read
              rw [List.length_cons, List.length_cons, ih later]

private theorem nodes_ne_nil_of_mapM_node {given : List String} {nodes : List Url}
    (inhabited : given ≠ []) (read : given.mapM node = .ok nodes) : nodes ≠ [] := by
  rw [← List.length_pos_iff] at inhabited ⊢
  rwa [length_of_mapM_node read]

/-- The client for backend settings, or the first reason why there is none. -/
def ofSettings (settings : BackendSettings) : Except ConfigError Client :=
  if missing : settings.urls = [] then .error .nodeNeeded
  else if Text.blank settings.index then .error .indexNeeded
  else match settings.requestTimeout.nanoseconds? with
    | none | some 0 => .error (.badTimeout settings.requestTimeout)
    | some _ =>
      match read : settings.urls.mapM node with
      | .error problem => .error problem
      | .ok nodes => .ok {
          nodes
          nodes_ne_nil := nodes_ne_nil_of_mapM_node missing read
          index := settings.index
          username := settings.username.filter (!·.isEmpty)
          password := settings.password
          acceptsGzip := settings.gzip }

/-- What changes while a client makes calls. -/
structure State where
  /-- The turn of the next call. -/
  turn : UInt64 := 0
  network : Network
  exchanges : List Exchange := []

/-- The requests that got through to a node. -/
def State.delivered (state : State) : List HttpRequest :=
  (state.exchanges.filter (·.isDelivered)).map Exchange.request

/-- The place in the list of nodes whose turn it is. -/
def place (client : Client) (turn : UInt64) : Fin client.nodes.length :=
  ⟨turn.toNat % client.nodes.length, Nat.mod_lt _ (List.length_pos_iff.2 client.nodes_ne_nil)⟩

/-- The node whose turn it is. -/
def nodeAt (client : Client) (turn : UInt64) : Url :=
  client.nodes.get (client.place turn)

/-- A request with everything that the client puts into all its requests.  A name and a password
that stand in the URL of the node go before those of the settings. -/
def request (client : Client) (method : HttpMethod) (url : Url) (body : Option Json) :
    HttpRequest :=
  match url.credentials? with
  | some (username, password) => {
      method, url := url.withoutCredentials, body
      authorization := some (HttpRequest.basic username password)
      acceptsGzip := client.acceptsGzip }
  | none => {
      method, url, body
      authorization := client.username.map fun username =>
        HttpRequest.basic username.toList (client.password.map String.toList)
      acceptsGzip := client.acceptsGzip }

/-- Why a request cannot be sent, if it cannot. -/
def obstacle? (url : Url) : Option String :=
  if !url.isHypertext then some "URL scheme is not allowed"
  else if !url.isTarget then some "Parsed Url is not a valid Uri"
  else none

/-- Sends a request and waits for the reply. -/
def send (request : HttpRequest) (state : State) : Reply × State :=
  match obstacle? request.url with
  | some obstacle => (.error ⟨s!"builder error for url ({request.url.text}): {obstacle}"⟩, state)
  | none =>
    let (reply, network) := state.network.next
    let state :=
      { state with network, exchanges := state.exchanges ++ [{ request, reply }] }
    match reply with
    | .ok response => (.ok response, state)
    | .error cause =>
      (.error ⟨s!"error sending request for url ({request.url.text}): {cause.text}"⟩, state)

/-- One call: it takes a turn, builds a request to the node whose turn it is, sends it and makes
sense of the response. -/
def call {α : Type} (client : Client) (build : Url → Answer HttpRequest)
    (read : HttpResponse → Answer α) (state : State) : Answer α × State :=
  let waiting := { state with turn := state.turn + 1 }
  match build (client.nodeAt state.turn) with
  | .error cause => (.error cause, waiting)
  | .ok request =>
    match send request waiting with
    | (.error cause, after) => (.error cause, after)
    | (.ok response, after) => (read response, after)

/-- The URL of an endpoint at a node. -/
def endpoint (node : Url) (path : String) : Answer Url :=
  match node.join path with
  | .ok url => .ok url
  | .error _ => .error ⟨s!"invalid endpoint path {path}"⟩

/-- A request that brings a document to an endpoint. -/
def post (client : Client) (path : String) (body : Json) (finish : Url → Url) (node : Url) :
    Answer HttpRequest := do
  let url ← endpoint node path
  return client.request .post (finish url) (some body)

/-- A request for a document of the index. -/
def fetch (client : Client) (id : String) (node : Url) : Answer HttpRequest := do
  let url ← endpoint node s!"{client.index}/_doc/"
  match url.entry? id with
  | some url => return client.request .get url none
  | none => .error ⟨"backend url cannot be a base"⟩

/-- The document in the body of a response. -/
def document {α : Type} (decode : Decoder Empty α) (response : HttpResponse) : Answer α :=
  match Decode.fromText decode response.body with
  | .ok value => .ok value
  | .error _ => .error ⟨"cannot decode backend response"⟩

/-- What a response without success says. -/
def refusal (response : HttpResponse) : Failure :=
  ⟨s!"HTTP error {response.status}: {response.body}"⟩

/-- The document in the body of a successful response. -/
def success {α : Type} (decode : Decoder Empty α) (response : HttpResponse) : Answer α :=
  if response.isSuccess then document decode response else .error (refusal response)

section Documents

variable {ε : Type}

/-- How many documents match: a number, or a record with the number. -/
def decodeTotal : Decoder ε Nat := fun o r => do
  let _ ← Decode.json o r
  match (Decode.unsigned .value r : Except (DecodeError ε) Nat) with
  | .ok n => return n
  | .error _ =>
    Decode.record
      [(RecordField.of "value" Decode.unsigned (fun (n : Nat) _ => n) []).needed] 0 .value r

/-- The answer to a search. -/
structure Found where
  scrollId : Option String := none
  total : Nat := 0
  hits : List Hit := []

/-- The part of the answer to a search that holds the hits. -/
def decodeHits : Decoder ε (Found → Found) :=
  Decode.record [
    RecordField.of "total" (Decode.nullable decodeTotal)
      (fun total put found => { put found with total := total.getD 0 }) [],
    RecordField.of "hits" (Decode.list Hit.decode)
      (fun hits put found => { put found with hits }) []] id

/-- The answer to a search. -/
def decodeFound : Decoder ε Found :=
  Decode.record [
    RecordField.of "_scroll_id" (Decode.nullable Decode.string)
      (fun scrollId found => { found with scrollId }) [],
    (RecordField.of "hits" decodeHits (fun put found => put found) []).needed] {}

/-- The answer to a count. -/
def decodeCount : Decoder ε Nat :=
  Decode.record
    [(RecordField.of "count" Decode.unsigned (fun (n : Nat) _ => n) []).needed] 0

/-- The answer to a request for a document, if the document is there. -/
def decodeDocument : Decoder ε (Option Hit) := fun o r => do
  let (hit, found) ← Decode.record [
    (RecordField.of "_id" Decode.string
      (fun id (answer : Hit × Bool) => ({ answer.1 with id }, answer.2)) []).needed,
    RecordField.of "found" Decode.bool (fun found answer => (answer.1, found)) [],
    RecordField.of "_source" Decode.json
      (fun source answer => ({ answer.1 with source }, answer.2)) []] ({ id := "" }, false) o r
  return if found then some hit else none

end Documents

/-- The batch in the answer to a search. -/
def batch (response : HttpResponse) : Answer ScrollPage := do
  let found ← success decodeFound response
  return { scrollId := found.scrollId, hits := found.hits }

/-- Asks for the next batch of a cursor. -/
def scrollNext (client : Client) (scrollId keepAlive : String) (state : State) :
    Answer ScrollPage × State :=
  client.call
    (client.post "_search/scroll"
      (Json.object [("scroll", .str keepAlive), ("scroll_id", .str scrollId)]) id)
    batch state

/-- The client as a backend. -/
def backend (client : Client) : Backend State where
  search request :=
    client.call (client.post s!"{client.index}/_search" request.body id) fun response => do
      let found ← success decodeFound response
      return { total := UInt64.ofNat found.total, hits := found.hits }
  scrollStart request :=
    client.call
      (client.post s!"{client.index}/_search" request.body (·.addPair "scroll" request.keepAlive))
      batch
  scrollNext := client.scrollNext
  count query :=
    client.call
      (client.post s!"{client.index}/_count" (Json.object [("query", query.source)]) id)
      fun response => (success decodeCount response).map UInt64.ofNat
  get id :=
    client.call (client.fetch id) fun response =>
      if response.status = 404 then .ok none else success decodeDocument response

/-! ## Every cursor comes to an end -/

/-- Only a successful response holds a batch. -/
theorem isSuccess_of_batch {response : HttpResponse} {page : ScrollPage}
    (held : batch response = .ok page) : response.isSuccess = true := by
  cases success? : response.isSuccess with
  | true => rfl
  | false =>
      have refused : batch response = .error (refusal response) := by
        simp only [batch, success, success?, Bool.false_eq_true, if_false]
        rfl
      rw [refused] at held
      cases held

/-- A successful response uses up a reply of the network. -/
theorem length_replies_lt_of_send {request : HttpRequest} {before after : State}
    {response : HttpResponse} (sent : send request before = (.ok response, after))
    (successful : response.isSuccess = true) :
    after.network.replies.length < before.network.replies.length := by
  unfold send at sent
  split at sent
  · cases sent
  · cases taken : before.network.next with
    | mk reply network =>
        rw [taken] at sent
        cases reply with
        | error cause => cases sent
        | ok received =>
            cases sent
            exact Network.length_replies_lt_of_next taken successful

/-- A batch uses up a reply of the network. -/
theorem isMeasure_length_replies {client : Client} :
    client.backend.IsMeasure fun state _ => state.network.replies.length := by
  intro scrollId keepAlive before after page next answered _ _
  simp only [backend, scrollNext, call] at answered
  split at answered
  · cases answered
  split at answered
  · cases answered
  · next response later sent =>
    rcases Prod.mk.inj answered with ⟨held, rfl⟩
    have used := length_replies_lt_of_send sent (isSuccess_of_batch held)
    exact used

instance {client : Client} : client.backend.Finite :=
  .of_measure isMeasure_length_replies

end Client

end CriteriaSearch
