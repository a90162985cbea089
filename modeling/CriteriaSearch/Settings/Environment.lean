import CriteriaSearch.Settings.Basic
import CriteriaSearch.Text.Digits
import CriteriaSearch.Text.Pieces

/-!
# Settings from the environment

A variable that is set decides its setting, whatever else says about it.  Only a number of workers
that is no number is passed over.
-/

namespace CriteriaSearch

/-- The variables that are set to a text.  One that is set to anything else counts as not set. -/
abbrev Environment := List (String × String)

/-- The URLs that a text lists between commas; blank pieces do not count. -/
def urlList (text : String) : List String :=
  (((Text.pieces ',' text.toList).map Text.trim).filter (· ≠ [])).map String.ofList

/-- An unsigned 64-bit integer in decimal digits, perhaps after a plus sign. -/
def workerCount? (text : String) : Option Nat := do
  let digits := match text.toList with
    | '+' :: rest => rest
    | rest => rest
  let n ← Text.numeral? 10 digits
  if n < UInt64.size then some n else none

/-- The backend settings where the environment has its say. -/
def BackendSettings.override (environment : Environment) (settings : BackendSettings) :
    BackendSettings :=
  { settings with
    urls := ((environment.lookup "ESQUERY_URLS").map urlList).getD settings.urls
    username := (environment.lookup "ESQUERY_USERNAME").or settings.username
    password := (environment.lookup "ESQUERY_PASSWORD").or settings.password
    index := (environment.lookup "ESQUERY_INDEX").getD settings.index }

/-- The query settings where the environment has its say. -/
def QuerySettings.override (environment : Environment) (settings : QuerySettings) :
    QuerySettings :=
  { settings with
    streamWorkers :=
      ((environment.lookup "ESQUERY_STREAM_WORKERS").bind workerCount?).getD
        settings.streamWorkers
    defaultTimeZone := (environment.lookup "ESQUERY_TIME_ZONE").or settings.defaultTimeZone }

/-- The settings where the environment has its say. -/
def Settings.override (environment : Environment) (settings : Settings) : Settings where
  backend := settings.backend.override environment
  query := settings.query.override environment

end CriteriaSearch
