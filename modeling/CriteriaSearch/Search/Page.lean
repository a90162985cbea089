import CriteriaSearch.Json.Decoding

/-!
# Pages of results

A page holds transformed documents and its place among all matches.  Pages are counted from one;
a page of size zero has no number and nothing follows it.  All counts are words of 64 bits.
-/

namespace CriteriaSearch

/-- One page of results. -/
structure Page (α : Type) where
  page : UInt64
  pageSize : UInt64
  /-- How many documents match, on this page or not. -/
  total : UInt64
  docs : List α
  hasNextPage : Bool
  deriving DecidableEq, Inhabited

namespace Page

variable {α : Type}

/-- How many pages of a size hold a number of documents; none, if the size is zero. -/
def pagesFor (pageSize total : UInt64) : UInt64 :=
  if pageSize = 0 then 0
  else if total % pageSize = 0 then total / pageSize
  else total / pageSize + 1

/-- The page of a window that starts at the position `skip`. -/
def ofWindow (skip pageSize total : UInt64) (docs : List α) : Page α :=
  let page := if pageSize = 0 then 0 else skip / pageSize + 1
  { page, pageSize, total, docs, hasNextPage := page < pagesFor pageSize total }

/-- A single page with every match. -/
def streamed (docs : List α) : Page α where
  page := 0
  pageSize := 0
  total := UInt64.ofNat docs.length
  docs := docs
  hasNextPage := false

/-- How many pages there are. -/
def totalPages (page : Page α) : UInt64 :=
  pagesFor page.pageSize page.total

/-- The page in the order of its fields, with documents written by `write`. -/
def toJson (write : α → Json) (page : Page α) : Json :=
  .obj [
    ("page", Json.ofNat page.page.toNat),
    ("page_size", Json.ofNat page.pageSize.toNat),
    ("total", Json.ofNat page.total.toNat),
    ("docs", .arr (page.docs.map write)),
    ("has_next_page", .bool page.hasNextPage)]

/-- The fields of a page document. -/
def recordFields {ε : Type} : List (RecordField ε (Page Json)) := [
  (RecordField.of "page" Decode.word (fun v p => { p with page := v }) []).needed,
  (RecordField.of "page_size" Decode.word (fun v p => { p with pageSize := v }) []).needed,
  (RecordField.of "total" Decode.word (fun v p => { p with total := v }) []).needed,
  (RecordField.of "docs" (Decode.list Decode.json) (fun v p => { p with docs := v }) []).needed,
  (RecordField.of "has_next_page" Decode.bool
    (fun v p => { p with hasNextPage := v }) []).needed]

/-- A page of JSON documents; every field is needed. -/
def decode {ε : Type} : Decoder ε (Page Json) :=
  Decode.record recordFields (streamed [])

end Page

end CriteriaSearch
