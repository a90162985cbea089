import CriteriaSearch.Condition.Basic
import CriteriaSearch.Paging.Calendar
import CriteriaSearch.Query.Compilation
import CriteriaSearch.TimeZone.Basic

/-!
# Requests for pages

A paging request says what to fetch and how much of it: conditions, a window of dates, a window of
positions, an order, and which parts of the documents are wanted.  A limit that is negative or
beyond the largest window asks for every match, which is then streamed in batches.

A request is compiled in the time zone that it names.  A blank name counts as none; without a name
a default zone applies, and without that the local zone.  The zone is checked whether or not there
is a window of dates.
-/

namespace CriteriaSearch

/-- A key to sort by. -/
structure SortKey where
  field : String
  ascending : Bool := false
  deriving DecidableEq, Inhabited

/-- What to fetch and how. -/
structure Paging where
  dates : DateWindow := {}
  conditions : List Condition := []
  skip : Int := 0
  limit : Int := -1
  sortBy : List SortKey := []
  includes : List String := []
  excludes : List String := []
  batchSize : Int := 0
  timeZone : Option String := none
  deriving Inhabited

namespace Paging

/-- The largest window that is served by one bounded search. -/
def defaultMaxWindow : Int := 10000

/-- The batch size of a stream where none is asked for. -/
def defaultBatchSize : Nat := 1000

/-- The request with one more condition. -/
def addCondition (paging : Paging) (condition : Condition) : Paging :=
  { paging with conditions := paging.conditions ++ [condition] }

/-- The request within a window of dates. -/
def withDates (paging : Paging) (field start stop : String) : Paging :=
  { paging with dates := { field, start, stop } }

/-- The request within a window of days. -/
def withDays (paging : Paging) (field : String) (start stop : Day) : Paging :=
  paging.withDates field start.text stop.text

/-- The request between two instants. -/
def withInstants (paging : Paging) (field : String) (start stop : Instant) : Paging :=
  paging.withDates field start.text stop.text

/-- The request for a window of positions. -/
def withWindow (paging : Paging) (skip limit : Int) : Paging :=
  { paging with skip, limit }

/-- The request with one more sort key, after those that it has. -/
def addSort (paging : Paging) (key : SortKey) : Paging :=
  { paging with sortBy := paging.sortBy ++ [key] }

/-- The request for one more part of the documents. -/
def addInclude (paging : Paging) (field : String) : Paging :=
  { paging with includes := paging.includes ++ [field] }

/-- The request without one more part of the documents. -/
def addExclude (paging : Paging) (field : String) : Paging :=
  { paging with excludes := paging.excludes ++ [field] }

/-- Whether every match is asked for. -/
def isUnbounded (paging : Paging) (maxWindow : Int) : Bool :=
  paging.limit < 0 || maxWindow < paging.limit

/-- The batch size to stream with: the one that is asked for, if it is positive. -/
def effectiveBatchSize (paging : Paging) (default : Nat) : Nat :=
  if 0 < paging.batchSize then paging.batchSize.toNat else default

/-- The position of the first document; nothing precedes position zero. -/
def offset (paging : Paging) : Nat :=
  paging.skip.toNat

/-- The zone that a request is compiled in, or the unknown name that it asks for. -/
def resolveZone (paging : Paging) (defaultZone : Option String) (localZone : String) :
    Except String String :=
  let requested := paging.timeZone.filter fun name => !Text.blank name
  TimeZone.resolve localZone (requested.or defaultZone)

/-- The query of a request, or the name of a time zone that is not known. -/
def compile (paging : Paging) (compiler : Compiler) (defaultZone : Option String)
    (localZone : String) : Except String BoolQuery := do
  let zone ← paging.resolveZone defaultZone localZone
  return compiler.compile paging.conditions paging.dates (some zone) localZone

/-- The query of a request as indented text. -/
def explain (paging : Paging) (compiler : Compiler) (defaultZone : Option String)
    (localZone : String) : Except String String :=
  (paging.compile compiler defaultZone localZone).map fun query => query.source.indented

end Paging

end CriteriaSearch
