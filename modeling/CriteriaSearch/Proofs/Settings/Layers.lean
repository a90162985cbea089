import CriteriaSearch.Proofs.Yaml.Records
import CriteriaSearch.Settings.Environment
import CriteriaSearch.Settings.Yaml

namespace CriteriaSearch

open Yaml (Document)

/-!
# Layers of settings

A source of settings is a layer: it says something about some settings and
nothing about the others.  A setting is what the first layer says that says
anything about it, and its default if no layer does, so no setting depends on
what is said about another one.

The environment is the layer in front of everything that has been decided before.
A settings document is a layer as well, because its records are read field by
field.  The nullable settings have two ways to be without a text: a document can
say so, and then no layer behind it has a say.
-/

/-! ## Layers -/

/-- What one source says about each of the settings, if anything. -/
structure Settings.Layer where
  urls : Option (List String) := none
  username : Option (Option String) := none
  password : Option (Option String) := none
  index : Option String := none
  requestTimeout : Option Binary64.Extended := none
  gzip : Option Bool := none
  maxPageWindow : Option Int := none
  streamBatchSize : Option Nat := none
  streamWorkers : Option Nat := none
  keepAlive : Option String := none
  dateFormats : Option (List String) := none
  defaultTimeZone : Option (Option String) := none

namespace Settings.Layer

variable {α : Type}

/-- What the variables say. -/
def ofEnvironment (environment : Environment) : Layer where
  urls := (environment.lookup "ESQUERY_URLS").map urlList
  username := (environment.lookup "ESQUERY_USERNAME").map some
  password := (environment.lookup "ESQUERY_PASSWORD").map some
  index := environment.lookup "ESQUERY_INDEX"
  streamWorkers := (environment.lookup "ESQUERY_STREAM_WORKERS").bind workerCount?
  defaultTimeZone := (environment.lookup "ESQUERY_TIME_ZONE").map some

/-- What a document has under a name in one of its parts. -/
def stated? (document : Document) (part name : String) (read? : Yaml → Option α) : Option α :=
  ((document.member? part document.root).bind (document.member? name)).bind read?

/-- What a settings document says. -/
def ofDocument (document : Document) : Layer where
  urls := stated? document "backend" "urls" (document.list? document.text?)
  username := stated? document "backend" "username" document.nullableText?
  password := stated? document "backend" "password" document.nullableText?
  index := stated? document "backend" "index" document.text?
  requestTimeout := stated? document "backend" "request_timeout" document.real?
  gzip := stated? document "backend" "gzip" document.bool?
  maxPageWindow := stated? document "query" "max_page_window" document.signed?
  streamBatchSize := stated? document "query" "stream_batch_size" document.unsigned?
  streamWorkers := stated? document "query" "stream_workers" document.unsigned?
  keepAlive := stated? document "query" "keep_alive" document.text?
  dateFormats := stated? document "query" "date_formats" (document.list? document.text?)
  defaultTimeZone := stated? document "query" "default_time_zone" document.nullableText?

/-- What the first layer says that says anything, and the default if none does. -/
def decided (layers : List Layer) (said : Layer → Option α) (default : α) : α :=
  (layers.findSome? said).getD default

end Settings.Layer

/-- The settings that layers decide, the first one before all others. -/
def Settings.ofLayers (layers : List Layer) : Settings :=
  let defaults : Settings := {}
  { backend := {
      urls := Layer.decided layers Layer.urls defaults.backend.urls
      username := Layer.decided layers Layer.username defaults.backend.username
      password := Layer.decided layers Layer.password defaults.backend.password
      index := Layer.decided layers Layer.index defaults.backend.index
      requestTimeout := Layer.decided layers Layer.requestTimeout defaults.backend.requestTimeout
      gzip := Layer.decided layers Layer.gzip defaults.backend.gzip }
    query := {
      maxPageWindow := Layer.decided layers Layer.maxPageWindow defaults.query.maxPageWindow
      streamBatchSize :=
        Layer.decided layers Layer.streamBatchSize defaults.query.streamBatchSize
      streamWorkers := Layer.decided layers Layer.streamWorkers defaults.query.streamWorkers
      keepAlive := Layer.decided layers Layer.keepAlive defaults.query.keepAlive
      dateFormats := Layer.decided layers Layer.dateFormats defaults.query.dateFormats
      defaultTimeZone :=
        Layer.decided layers Layer.defaultTimeZone defaults.query.defaultTimeZone } }

namespace Settings.Layer

variable {α : Type}

theorem decided_cons (layer : Layer) (layers : List Layer) (said : Layer → Option α)
    (default : α) :
    decided (layer :: layers) said default = (said layer).getD (decided layers said default) := by
  rw [decided, List.findSome?_cons]
  cases said layer <;> rfl

theorem decided_single (layer : Layer) (said : Layer → Option α) (default : α) :
    decided [layer] said default = (said layer).getD default :=
  decided_cons layer [] said default

end Settings.Layer

/-! ## The environment -/

/-- The environment decides before everything that has decided so far. -/
theorem Settings.override_ofLayers (environment : Environment) (layers : List Layer) :
    (ofLayers layers).override environment =
      ofLayers (Layer.ofEnvironment environment :: layers) := by
  have stated (said : Option String) (other : Option String) :
      said.or other = (said.map some).getD other := by
    cases said <;> rfl
  simp only [override, BackendSettings.override, QuerySettings.override, ofLayers, stated,
    Layer.decided_cons]
  rfl

theorem Settings.override_override (environment : Environment) (settings : Settings) :
    (settings.override environment).override environment = settings.override environment := by
  have again {α : Type} (said : Option α) (other : α) :
      said.getD (said.getD other) = said.getD other := by
    cases said <;> rfl
  simp only [override, BackendSettings.override, QuerySettings.override, again, ← Option.or_assoc,
    Option.or_self]

/-! ## Documents -/

namespace BackendSettings

/-- The fields that describe the backend, each with its place. -/
def slots (document : Document) : List (Slot BackendSettings) := [
  { name := "urls", Kind := List String, read? := document.list? document.text?
    put := fun urls settings => { settings with urls }, get := urls },
  { name := "username", Kind := Option String, read? := document.nullableText?
    put := fun username settings => { settings with username }, get := username },
  { name := "password", Kind := Option String, read? := document.nullableText?
    put := fun password settings => { settings with password }, get := password },
  { name := "index", Kind := String, read? := document.text?
    put := fun index settings => { settings with index }, get := index },
  { name := "request_timeout", Kind := Binary64.Extended, read? := document.real?
    put := fun requestTimeout settings => { settings with requestTimeout }
    get := requestTimeout },
  { name := "gzip", Kind := Bool, read? := document.bool?
    put := fun gzip settings => { settings with gzip }, get := gzip }]

theorem ofYaml?_eq (document : Document) :
    ofYaml? document = document.record? ((slots document).map Slot.setter) {} :=
  rfl

theorem layout_slots (document : Document) : Slot.Layout (slots document) where
  distinct := by simp [slots]
  apart := by simp [slots, Slot.Apart]

/-- A part of a document that describes the backend. -/
def IsDescribed (document : Document) : Yaml → Prop :=
  document.IsRecord ((slots document).map Slot.demand)

end BackendSettings

namespace QuerySettings

/-- The fields that describe how queries are run, each with its place. -/
def slots (document : Document) : List (Slot QuerySettings) := [
  { name := "max_page_window", Kind := Int, read? := document.signed?
    put := fun maxPageWindow settings => { settings with maxPageWindow }
    get := maxPageWindow },
  { name := "stream_batch_size", Kind := Nat, read? := document.unsigned?
    put := fun streamBatchSize settings => { settings with streamBatchSize }
    get := streamBatchSize },
  { name := "stream_workers", Kind := Nat, read? := document.unsigned?
    put := fun streamWorkers settings => { settings with streamWorkers }
    get := streamWorkers },
  { name := "keep_alive", Kind := String, read? := document.text?
    put := fun keepAlive settings => { settings with keepAlive }, get := keepAlive },
  { name := "date_formats", Kind := List String, read? := document.list? document.text?
    put := fun dateFormats settings => { settings with dateFormats }, get := dateFormats },
  { name := "default_time_zone", Kind := Option String, read? := document.nullableText?
    put := fun defaultTimeZone settings => { settings with defaultTimeZone }
    get := defaultTimeZone }]

theorem ofYaml?_eq (document : Document) :
    ofYaml? document = document.record? ((slots document).map Slot.setter) {} :=
  rfl

theorem layout_slots (document : Document) : Slot.Layout (slots document) where
  distinct := by simp [slots]
  apart := by simp [slots, Slot.Apart]

/-- A part of a document that describes how queries are run. -/
def IsDescribed (document : Document) : Yaml → Prop :=
  document.IsRecord ((slots document).map Slot.demand)

end QuerySettings

namespace Settings

/-- The two parts of the settings, each with its place. -/
def slots (document : Document) : List (Slot Settings) := [
  { name := "backend", Kind := BackendSettings, read? := BackendSettings.ofYaml? document
    put := fun backend settings => { settings with backend }, get := backend },
  { name := "query", Kind := QuerySettings, read? := QuerySettings.ofYaml? document
    put := fun query settings => { settings with query }, get := query }]

theorem layout_slots (document : Document) : Slot.Layout (slots document) where
  distinct := by simp [slots]
  apart := by simp [slots, Slot.Apart]

/-- A document that describes settings. -/
def IsDescribed (document : Document) : Prop :=
  document.IsRecord [("backend", BackendSettings.IsDescribed document),
    ("query", QuerySettings.IsDescribed document)] document.root

theorem demand_slots (document : Document) :
    (slots document).map Slot.demand = [("backend", BackendSettings.IsDescribed document),
      ("query", QuerySettings.IsDescribed document)] := by
  have backend : (fun value => (BackendSettings.ofYaml? document value).isSome = true) =
      BackendSettings.IsDescribed document :=
    funext fun _ => propext (Document.isSome_record?_iff (BackendSettings.layout_slots document))
  have query : (fun value => (QuerySettings.ofYaml? document value).isSome = true) =
      QuerySettings.IsDescribed document :=
    funext fun _ => propext (Document.isSome_record?_iff (QuerySettings.layout_slots document))
  rw [← backend, ← query]
  rfl

theorem isSome_ofDocument?_iff {document : Document} :
    (ofDocument? document).isSome = true ↔ IsDescribed document := by
  rw [IsDescribed, ← demand_slots]
  exact Document.isSome_record?_iff (layout_slots document)

/-- A document decides each setting by what it says about it. -/
theorem eq_of_ofDocument? {document : Document} {settings : Settings}
    (read : ofDocument? document = some settings) :
    settings = ofLayers [Layer.ofDocument document] := by
  have described := isSome_ofDocument?_iff.mp (Option.isSome_of_eq_some read)
  have parts : ∀ slot ∈ slots document, slot.get settings =
      ((document.member? slot.name document.root).bind slot.read?).getD (slot.get {}) :=
    fun _ => Document.get_of_record? (layout_slots document) read
  have own : ∀ value ∈ document.member? "backend" document.root,
      BackendSettings.IsDescribed document value :=
    fun _ => described.fits List.mem_cons_self
  have ownQuery : ∀ value ∈ document.member? "query" document.root,
      QuerySettings.IsDescribed document value :=
    fun _ => described.fits (List.mem_cons_of_mem _ List.mem_cons_self)
  have backend (slot) (listed : slot ∈ BackendSettings.slots document) :=
    Document.get_getD_record? (BackendSettings.layout_slots document) {} own listed
  have query (slot) (listed : slot ∈ QuerySettings.slots document) :=
    Document.get_getD_record? (QuerySettings.layout_slots document) {} ownQuery listed
  simp only [slots, List.forall_mem_cons] at parts
  rw [← BackendSettings.ofYaml?_eq, ← parts.1] at backend
  rw [← QuerySettings.ofYaml?_eq, ← parts.2.1] at query
  simp only [BackendSettings.slots, List.forall_mem_cons] at backend
  simp only [QuerySettings.slots, List.forall_mem_cons] at query
  rcases backend with ⟨urls, username, password, index, requestTimeout, gzip, -⟩
  rcases query with ⟨maxPageWindow, streamBatchSize, streamWorkers, keepAlive, dateFormats,
    defaultTimeZone, -⟩
  obtain ⟨⟨_, _, _, _, _, _⟩, ⟨_, _, _, _, _, _⟩⟩ := settings
  simp only [ofLayers, Layer.decided_single, mk.injEq, BackendSettings.mk.injEq,
    QuerySettings.mk.injEq]
  exact ⟨⟨urls, username, password, index, requestTimeout, gzip⟩, maxPageWindow, streamBatchSize,
    streamWorkers, keepAlive, dateFormats, defaultTimeZone⟩

end Settings

end CriteriaSearch
