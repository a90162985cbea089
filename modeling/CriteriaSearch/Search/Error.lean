/-!
# What can go wrong in a search

A search calls on two parties outside this library, the backend that answers requests and the
transform that shapes documents.  Their failures are texts of their own making.  A search error
says which party failed, and in the case of the backend at which stage of the search.
-/

namespace CriteriaSearch

/-- The failure of a party outside this library, in its own words. -/
structure Failure where
  text : String
  deriving DecidableEq, Inhabited

/-- The stages of a search at which the backend is called. -/
inductive Stage where
  | search
  | scroll
  | count
  | get
  deriving DecidableEq

/-- The name of a stage. -/
def Stage.name : Stage → String
  | .search => "search"
  | .scroll => "scroll"
  | .count => "count"
  | .get => "get"

/-- Why a search has no answer. -/
inductive SearchError where
  /-- The time zone that the request is meant in is not known. -/
  | unknownTimeZone (name : String)
  | backend (stage : Stage) (cause : Failure)
  | transform (cause : Failure)
  /-- A task of the search came to an end without an answer of its own. -/
  | crashed
  deriving DecidableEq, Inhabited

/-- The wording of a search error. -/
def SearchError.message : SearchError → String
  | .unknownTimeZone name => s!"invalid time zone: {name}"
  | .backend stage cause => s!"call {stage.name}() error: {cause.text}"
  | .transform cause => s!"call transform() error: {cause.text}"
  | .crashed => "stream task failed"

end CriteriaSearch
