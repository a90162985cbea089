import CriteriaSearch.Search.Page
import CriteriaSearch.Search.Stream
import CriteriaSearch.Settings.Basic

/-!
# Searching

A search runs requests for pages against a backend.  A request with a bounded window becomes one
bounded search, whose hits are shaped in their order.  Any other request opens a cursor and
streams every match through the workers; its documents come in no particular order.

Every operation compiles the request first, and a request whose time zone is not known never
reaches the backend.  An operation that may stream needs a backend whose cursors come to an end.
-/

namespace CriteriaSearch

/-- Everything that searches against a backend depend on. -/
structure Search (σ : Type) where
  backend : Backend σ
  settings : QuerySettings := {}
  /-- The name of the local time zone. -/
  localZone : String
  /-- Which of the possible actions a stream takes, for documents of any type. -/
  schedule : (α : Type) → Stream.Schedule α := fun _ _ => []

namespace Search

variable {σ α : Type}

/-- The answer of a search together with the state of the backend afterwards. -/
abbrev Result (σ α : Type) := Except SearchError α × σ

/-- The query of a request under the settings of the search. -/
def compile (search : Search σ) (paging : Paging) : Except SearchError BoolQuery :=
  (paging.compile search.settings.compiler search.settings.defaultTimeZone
    search.localZone).mapError .unknownTimeZone

/-- The search with another number of workers. -/
def withWorkers (search : Search σ) (workers : Nat) : Search σ :=
  { search with settings := { search.settings with streamWorkers := workers } }

/-- An answer of the backend, with the stage of a failure. -/
def atStage (stage : Stage) (answer : Answer α) : Except SearchError α :=
  answer.mapError (.backend stage)

/-- One bounded search: how many documents match, and the hits in their order, shaped. -/
def fetchPage (search : Search σ) (transform : Transform α) (request : SearchRequest)
    (before : σ) : Result σ (UInt64 × List α) :=
  let (answer, after) := search.backend.search request before
  (do
    let found ← atStage .search answer
    let docs ← transform.all found.hits
    return (found.total, docs), after)

/-- Every hit of a cursor, shaped by the workers. -/
def fetchAll (search : Search σ) [search.backend.Finite] (transform : Transform α)
    (request : ScrollRequest) (before : σ) : Result σ (List α) :=
  Stream.fetchAll search.backend transform search.settings.streamWorkers (search.schedule α)
    request before

/-- The bounded search that a request asks for. -/
def searchRequest (paging : Paging) (query : BoolQuery) : SearchRequest where
  query := .bool query
  filter := paging.filter
  sort := paging.sortBy
  start := paging.offset
  size := paging.limit.toNat

/-- The cursor that a request asks for. -/
def scrollRequest (settings : QuerySettings) (paging : Paging) (query : BoolQuery) :
    ScrollRequest where
  query := .bool query
  filter := paging.filter
  size := paging.effectiveBatchSize settings.streamBatchSize
  keepAlive := settings.keepAlive

/-- One page of documents with their identifiers.  A request without a bounded window gives a
single page with every match. -/
def page (search : Search σ) [search.backend.Finite] (paging : Paging) (before : σ) :
    Result σ (Page Json) :=
  match search.compile paging with
  | .error problem => (.error problem, before)
  | .ok query =>
    if paging.isUnbounded search.settings.maxPageWindow then
      let (docs, after) := search.fetchAll Transform.sourceWithId
        (scrollRequest search.settings paging query) before
      (docs.map Page.streamed, after)
    else
      let request := searchRequest paging query
      let (found, after) := search.fetchPage Transform.sourceWithId request before
      (found.map fun (total, docs) =>
        Page.ofWindow (UInt64.ofNat request.start) (UInt64.ofNat request.size) total docs, after)

/-- The documents that a request asks for, shaped by a transform. -/
def listWith (search : Search σ) [search.backend.Finite] (transform : Transform α)
    (paging : Paging) (before : σ) : Result σ (List α) :=
  match search.compile paging with
  | .error problem => (.error problem, before)
  | .ok query =>
    if paging.isUnbounded search.settings.maxPageWindow then
      search.fetchAll transform (scrollRequest search.settings paging query) before
    else
      let (found, after) := search.fetchPage transform (searchRequest paging query) before
      (found.map Prod.snd, after)

/-- The documents that a request asks for, with their identifiers. -/
def list (search : Search σ) [search.backend.Finite] (paging : Paging) (before : σ) :
    Result σ (List Json) :=
  search.listWith Transform.sourceWithId paging before

/-- How many documents match a request. -/
def count (search : Search σ) (paging : Paging) (before : σ) : Result σ UInt64 :=
  match search.compile paging with
  | .error problem => (.error problem, before)
  | .ok query =>
    let (answer, after) := search.backend.count (.bool query) before
    (atStage .count answer, after)

/-- How many random documents are fetched where the request sets no positive limit. -/
def defaultRandomSize : Nat := 10

/-- The search for matches in random order that a request asks for. -/
def randomRequest (paging : Paging) (query : BoolQuery) : SearchRequest where
  query := (Query.bool query).random
  filter := paging.filter
  start := paging.offset
  size := if 0 < paging.limit then paging.limit.toNat else defaultRandomSize

/-- Sources of matching documents in random order. -/
def random (search : Search σ) (paging : Paging) (before : σ) : Result σ (List Json) :=
  match search.compile paging with
  | .error problem => (.error problem, before)
  | .ok query =>
    let (found, after) := search.fetchPage Transform.raw (randomRequest paging query) before
    (found.map Prod.snd, after)

/-- The document with an identifier, if there is one. -/
def getById (search : Search σ) (id : String) (before : σ) : Result σ (Option Json) :=
  let (answer, after) := search.backend.get id before
  (do
    match ← atStage .get answer with
    | none => return none
    | some hit => return some (← Transform.sourceWithId.one hit), after)

end Search

end CriteriaSearch
