import CriteriaSearch.Paging.Decoding

/-!
# Requests to a search engine

A bounded search asks for one window of hits.  A scroll opens a cursor that is read in batches.
Both carry a query and say which parts of the documents are wanted; their bodies are JSON
documents in the language of the engine.
-/

namespace CriteriaSearch

/-- Which parts of the documents are wanted. -/
structure SourceFilter where
  includes : List String := []
  excludes : List String := []
  deriving DecidableEq, Inhabited

/-- The filter in the language of the engine; without any field it asks for whole documents. -/
def SourceFilter.toJson (filter : SourceFilter) : Json :=
  let excludes := if filter.excludes.isEmpty then [] else
    [("excludes", Json.strings filter.excludes)]
  let includes := if filter.includes.isEmpty then [] else
    [("includes", Json.strings filter.includes)]
  match excludes ++ includes with
  | [] => .bool true
  | members => .obj members

/-- A sort key in the language of the engine. -/
def SortKey.toJson (key : SortKey) : Json :=
  .obj [(key.field, .obj [("order", .str (if key.ascending then "asc" else "desc"))])]

/-- A search for one window of hits. -/
structure SearchRequest where
  query : Query
  filter : SourceFilter := {}
  sort : List SortKey := []
  start : Nat := 0
  size : Nat := 10
  deriving Inhabited

/-- The body of a bounded search. -/
def SearchRequest.body (request : SearchRequest) : Json :=
  .obj <|
    [("_source", request.filter.toJson),
     ("from", Json.ofNat request.start),
     ("query", request.query.source),
     ("size", Json.ofNat request.size)] ++
    (if request.sort.isEmpty then [] else [("sort", .arr (request.sort.map SortKey.toJson))]) ++
    [("track_total_hits", .bool true)]

/-- The opening of a cursor. -/
structure ScrollRequest where
  query : Query
  filter : SourceFilter := {}
  /-- How many hits each batch holds. -/
  size : Nat
  /-- How long the engine keeps the cursor between two batches. -/
  keepAlive : String := "1m"
  deriving Inhabited

/-- The body of the opening of a cursor. -/
def ScrollRequest.body (request : ScrollRequest) : Json :=
  .obj [
    ("_source", request.filter.toJson),
    ("query", request.query.source),
    ("size", Json.ofNat request.size)]

/-- The part of a request for a page that says which parts of the documents are wanted. -/
def Paging.filter (paging : Paging) : SourceFilter where
  includes := paging.includes
  excludes := paging.excludes

end CriteriaSearch
