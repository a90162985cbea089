import CriteriaSearch.Paging.Basic
import CriteriaSearch.Text.Blank

/-!
# Settings

Settings say which nodes to talk to and how queries are run.  Every field has a default, and the
defaults alone are not usable: they name no node and no index.  `Settings.validate` reports the
first thing that makes settings unusable.
-/

namespace CriteriaSearch

/-- Why a configuration cannot be used. -/
inductive ConfigError where
  | urlsMissing
  | indexMissing
  | timeoutNotPositive
  | workersMissing
  /-- A settings file is there and cannot be read. -/
  | unreadable (path reason : String)
  /-- A settings document is malformed or has the wrong shape. -/
  | malformedSettings
  /-- A client is asked for without a node. -/
  | nodeNeeded
  /-- A client is asked for without an index. -/
  | indexNeeded
  /-- A client cannot wait for this number of seconds. -/
  | badTimeout (seconds : Binary64.Extended)
  | badUrl (url reason : String)
  | badScheme (url : String)
  deriving DecidableEq

/-- The wording of a configuration error. -/
def ConfigError.message : ConfigError → String
  | .urlsMissing => "backend.urls must not be empty"
  | .indexMissing => "backend.index must not be empty"
  | .timeoutNotPositive => "backend.request_timeout must be positive"
  | .workersMissing => "query.stream_workers must be at least 1"
  | .unreadable path reason => s!"cannot read {path}: {reason}"
  | .malformedSettings => "invalid settings"
  | .nodeNeeded => "at least one backend url is required"
  | .indexNeeded => "backend index is required"
  | .badTimeout seconds => s!"invalid backend request_timeout {String.ofList seconds.text}"
  | .badUrl url reason => s!"invalid backend url {url}: {reason}"
  | .badScheme url => s!"backend url {url} must use http or https"

/-- How to reach the search engine. -/
structure BackendSettings where
  /-- The nodes, which take turns. -/
  urls : List String := []
  username : Option String := none
  password : Option String := none
  /-- The index that every request is about. -/
  index : String := ""
  /-- How many seconds to wait for an answer. -/
  requestTimeout : Binary64.Extended := .finite (Binary64.ofInt 30)
  /-- Whether compressed answers are welcome. -/
  gzip : Bool := true
  deriving DecidableEq, Inhabited

/-- How queries are run. -/
structure QuerySettings where
  /-- The largest limit that one bounded search serves. -/
  maxPageWindow : Int := Paging.defaultMaxWindow
  /-- The batch size of a stream where the request sets none. -/
  streamBatchSize : Nat := Paging.defaultBatchSize
  /-- How many workers a stream has. -/
  streamWorkers : Nat := 10
  /-- How long the engine keeps a cursor between two batches. -/
  keepAlive : String := "1m"
  dateFormats : List String := defaultDateFormats
  /-- The zone where the request names none. -/
  defaultTimeZone : Option String := none
  deriving DecidableEq, Inhabited

/-- All settings. -/
structure Settings where
  backend : BackendSettings := {}
  query : QuerySettings := {}
  deriving DecidableEq, Inhabited

/-- The compiler for the configured date formats. -/
def QuerySettings.compiler (settings : QuerySettings) : Compiler :=
  Compiler.withDateFormats {} settings.dateFormats

/-- Whether a number of seconds is finite and above zero. -/
def Binary64.Extended.isPositive : Binary64.Extended → Bool
  | .finite x => !x.negative && x.position.val ≠ 0
  | .infinite _ | .notANumber => false

/-- The first thing that makes settings unusable, if there is one. -/
def Settings.validate (settings : Settings) : Except ConfigError Unit :=
  if settings.backend.urls.isEmpty then .error .urlsMissing
  else if Text.blank settings.backend.index then .error .indexMissing
  else if !settings.backend.requestTimeout.isPositive then .error .timeoutNotPositive
  else if settings.query.streamWorkers = 0 then .error .workersMissing
  else .ok ()

end CriteriaSearch
