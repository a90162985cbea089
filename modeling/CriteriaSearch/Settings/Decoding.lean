import CriteriaSearch.Json.Decoding
import CriteriaSearch.Settings.Basic

/-!
# Settings as JSON documents

Fields that a document leaves out keep their defaults.  `Settings.toJson` writes settings in full;
a number of seconds that is no number is written as null.
-/

namespace CriteriaSearch

variable {ε : Type}

namespace BackendSettings

/-- The fields that describe the backend. -/
def recordFields : List (RecordField ε BackendSettings) := [
  RecordField.of "urls" (Decode.list Decode.string) (fun v s => { s with urls := v }) [],
  RecordField.of "username" (Decode.nullable Decode.string)
    (fun v s => { s with username := v }) [],
  RecordField.of "password" (Decode.nullable Decode.string)
    (fun v s => { s with password := v }) [],
  RecordField.of "index" Decode.string (fun v s => { s with index := v }) [],
  RecordField.of "request_timeout" Decode.real
    (fun v s => { s with requestTimeout := .finite v }) [],
  RecordField.of "gzip" Decode.bool (fun v s => { s with gzip := v }) []]

/-- Backend settings as a JSON document. -/
def decode : Decoder ε BackendSettings :=
  Decode.record recordFields {}

/-- The settings in full. -/
def toJson (settings : BackendSettings) : Json :=
  Json.object [
    ("urls", Json.strings settings.urls),
    ("username", Json.ofText? settings.username),
    ("password", Json.ofText? settings.password),
    ("index", .str settings.index),
    ("request_timeout", match settings.requestTimeout with
      | .finite x => .num (.real x)
      | .infinite _ | .notANumber => .null),
    ("gzip", .bool settings.gzip)]

end BackendSettings

namespace QuerySettings

/-- The fields that describe how queries are run. -/
def recordFields : List (RecordField ε QuerySettings) := [
  RecordField.of "max_page_window" Decode.signed (fun v s => { s with maxPageWindow := v }) [],
  RecordField.of "stream_batch_size" Decode.unsigned
    (fun v s => { s with streamBatchSize := v }) [],
  RecordField.of "stream_workers" Decode.unsigned (fun v s => { s with streamWorkers := v }) [],
  RecordField.of "keep_alive" Decode.string (fun v s => { s with keepAlive := v }) [],
  RecordField.of "date_formats" (Decode.list Decode.string)
    (fun v s => { s with dateFormats := v }) [],
  RecordField.of "default_time_zone" (Decode.nullable Decode.string)
    (fun v s => { s with defaultTimeZone := v }) []]

/-- Query settings as a JSON document. -/
def decode : Decoder ε QuerySettings :=
  Decode.record recordFields {}

/-- The settings in full. -/
def toJson (settings : QuerySettings) : Json :=
  Json.object [
    ("max_page_window", Json.ofInt settings.maxPageWindow),
    ("stream_batch_size", Json.ofNat settings.streamBatchSize),
    ("stream_workers", Json.ofNat settings.streamWorkers),
    ("keep_alive", .str settings.keepAlive),
    ("date_formats", Json.strings settings.dateFormats),
    ("default_time_zone", Json.ofText? settings.defaultTimeZone)]

end QuerySettings

namespace Settings

/-- The two parts of the settings. -/
def recordFields : List (RecordField ε Settings) := [
  RecordField.of "backend" BackendSettings.decode (fun v s => { s with backend := v }) [],
  RecordField.of "query" QuerySettings.decode (fun v s => { s with query := v }) []]

/-- Settings as a JSON document. -/
def decode : Decoder ε Settings :=
  Decode.record recordFields {}

/-- The settings in full. -/
def toJson (settings : Settings) : Json :=
  Json.object [("backend", settings.backend.toJson), ("query", settings.query.toJson)]

end Settings

end CriteriaSearch
