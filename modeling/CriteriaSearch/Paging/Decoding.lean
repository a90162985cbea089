import CriteriaSearch.Condition.Decoding
import CriteriaSearch.Paging.Basic

/-!
# Decoding requests for pages

Every field of a request document may be left out and keeps its default then.  Most fields have a
second name.  A request may also be given as the list of its fields.
-/

namespace CriteriaSearch

/-- The fields of a sort key. -/
def SortKey.recordFields {ε : Type} : List (RecordField ε SortKey) := [
  (RecordField.of "field" Decode.string (fun v k => { k with field := v }) []).needed,
  RecordField.of "ascending" Decode.bool (fun v k => { k with ascending := v }) []]

/-- A sort key; it needs a field and is descending by default. -/
def SortKey.decode {ε : Type} : Decoder ε SortKey :=
  Decode.record SortKey.recordFields { field := "" }

namespace Paging

/-- The fields of a request, in the order of their positions. -/
def recordFields : List (RecordField ConditionRefusal Paging) := [
  RecordField.of "startDate" Decode.string
    (fun v p => { p with dates := { p.dates with start := v } }) [],
  RecordField.of "endDate" Decode.string
    (fun v p => { p with dates := { p.dates with stop := v } }) [],
  RecordField.of "dateField" Decode.string
    (fun v p => { p with dates := { p.dates with field := v } }) [],
  RecordField.of "conditions" (Decode.list Condition.decode)
    (fun v p => { p with conditions := v }) ["queryConds"],
  RecordField.of "skip" Decode.signed (fun v p => { p with skip := v }) [],
  RecordField.of "limit" Decode.signed (fun v p => { p with limit := v }) [],
  RecordField.of "sortBy" (Decode.list SortKey.decode)
    (fun v p => { p with sortBy := v }) ["sortby"],
  RecordField.of "includes" (Decode.list Decode.string)
    (fun v p => { p with includes := v }) ["includeFields"],
  RecordField.of "excludes" (Decode.list Decode.string)
    (fun v p => { p with excludes := v }) ["excludeFields"],
  RecordField.of "streamBatchSize" Decode.signed
    (fun v p => { p with batchSize := v }) ["scrollSize"],
  RecordField.of "timeZone" (Decode.nullable Decode.string)
    (fun v p => { p with timeZone := v }) ["zone"]]

/-- A request for a page. -/
def decode : ConditionDecoder Paging :=
  Decode.record recordFields {}

end Paging

end CriteriaSearch
