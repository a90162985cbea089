import CriteriaSearch.Json.Decoding

/-!
# Hits

A hit is a document that a search has found: its identifier and the part of it that was asked for.
Answers of the engine hold hits together with much else that is passed over.
-/

namespace CriteriaSearch

/-- A document that was found. -/
structure Hit where
  id : String
  source : Json := .null
  deriving DecidableEq, Inhabited

/-- The fields of a hit document. -/
def Hit.recordFields {ε : Type} : List (RecordField ε Hit) := [
  (RecordField.of "_id" Decode.string (fun v h => { h with id := v }) []).needed,
  RecordField.of "_source" Decode.json (fun v h => { h with source := v }) []]

/-- A hit; it needs an identifier. -/
def Hit.decode {ε : Type} : Decoder ε Hit :=
  Decode.record Hit.recordFields { id := "" }

/-- The hit as a document. -/
def Hit.toJson (hit : Hit) : Json :=
  .obj [("_id", .str hit.id), ("_source", hit.source)]

/-- The answer to a bounded search. -/
structure SearchHits where
  /-- How many documents match, returned or not. -/
  total : UInt64
  hits : List Hit
  deriving DecidableEq, Inhabited

/-- One batch of a cursor. -/
structure ScrollPage where
  /-- The handle for the next batch, if the engine gave one. -/
  scrollId : Option String
  hits : List Hit
  deriving DecidableEq, Inhabited

/-- A batch without hits marks the end of the cursor. -/
def ScrollPage.isExhausted (page : ScrollPage) : Bool :=
  page.hits.isEmpty

end CriteriaSearch
