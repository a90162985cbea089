import CriteriaSearch.FileTree
import CriteriaSearch.Settings.Environment
import CriteriaSearch.Settings.Yaml

/-!
# Loading settings

Settings come from the first settings file that exists, and from the defaults where none does; the
environment has the last word.  A file that exists and cannot be used is an error, even if there
is a usable one after it.
-/

namespace CriteriaSearch

/-- Where a settings file may be, the first place first.  `userDirectory` is the place for
configuration of the user, if there is one. -/
def settingsPaths (environment : Environment) (userDirectory : Option String) : List String :=
  (environment.lookup "ESQUERY_SETTINGS_PATH").toList ++
    ["settings.yml", "config/settings.yml"] ++
    (userDirectory.map (pathBelow · "esquery-rs/settings.yml")).toList

/-- The settings of a file. -/
def Settings.ofFound (path : String) : Found → Except ConfigError Settings
  | .text content => Settings.ofText content
  | .unreadable reason => .error (.unreadable path reason)

/-- The settings of the first file that exists. -/
def Settings.ofFirst (files : Files) : List String → Except ConfigError Settings
  | [] => .ok {}
  | path :: rest =>
    match files path with
    | some found => Settings.ofFound path found
    | none => Settings.ofFirst files rest

/-- The settings that files and environment make up together. -/
def Settings.load (files : Files) (environment : Environment) (userDirectory : Option String) :
    Except ConfigError Settings := do
  let settings ← Settings.ofFirst files (settingsPaths environment userDirectory)
  return settings.override environment

end CriteriaSearch
