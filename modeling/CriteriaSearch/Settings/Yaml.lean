import CriteriaSearch.Settings.Basic
import CriteriaSearch.Yaml.Document

/-!
# Settings as YAML documents

A settings file is a YAML document.  It is accepted or refused as a whole: whatever is wrong with
it, the settings are malformed.
-/

namespace CriteriaSearch

open Yaml (Document)

/-- Backend settings as part of a document. -/
def BackendSettings.ofYaml? (document : Document) : Yaml → Option BackendSettings :=
  document.record? [
    ("urls", fun v s => (document.list? document.text? v).map fun urls => { s with urls }),
    ("username", fun v s => (document.nullableText? v).map fun username => { s with username }),
    ("password", fun v s => (document.nullableText? v).map fun password => { s with password }),
    ("index", fun v s => (document.text? v).map fun index => { s with index }),
    ("request_timeout", fun v s =>
      (document.real? v).map fun requestTimeout => { s with requestTimeout }),
    ("gzip", fun v s => (document.bool? v).map fun gzip => { s with gzip })] {}

/-- Query settings as part of a document. -/
def QuerySettings.ofYaml? (document : Document) : Yaml → Option QuerySettings :=
  document.record? [
    ("max_page_window", fun v s =>
      (document.signed? v).map fun maxPageWindow => { s with maxPageWindow }),
    ("stream_batch_size", fun v s =>
      (document.unsigned? v).map fun streamBatchSize => { s with streamBatchSize }),
    ("stream_workers", fun v s =>
      (document.unsigned? v).map fun streamWorkers => { s with streamWorkers }),
    ("keep_alive", fun v s => (document.text? v).map fun keepAlive => { s with keepAlive }),
    ("date_formats", fun v s =>
      (document.list? document.text? v).map fun dateFormats => { s with dateFormats }),
    ("default_time_zone", fun v s =>
      (document.nullableText? v).map fun defaultTimeZone => { s with defaultTimeZone })] {}

/-- Settings as a document. -/
def Settings.ofDocument? (document : Document) : Option Settings :=
  document.record? [
    ("backend", fun v s =>
      (BackendSettings.ofYaml? document v).map fun backend => { s with backend }),
    ("query", fun v s => (QuerySettings.ofYaml? document v).map fun query => { s with query })] {}
    document.root

/-- The settings that the text of a settings file holds. -/
def Settings.ofText (text : String) : Except ConfigError Settings :=
  match (Document.ofText? text).bind Settings.ofDocument? with
  | some settings => .ok settings
  | none => .error .malformedSettings

end CriteriaSearch
