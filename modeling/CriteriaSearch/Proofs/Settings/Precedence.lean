import CriteriaSearch.Proofs.Settings.Layers
import CriteriaSearch.Proofs.Settings.Variables
import CriteriaSearch.Settings.Loading

namespace CriteriaSearch

open Yaml (Document)

/-!
# Which source decides a setting

Settings are loaded from the environment and from one settings file.  This is the
first file that is there, and it is not passed over if it is of no use: then
loading fails, whatever the files after it hold.  Otherwise the environment and
the file are two layers of settings, in this order, with the defaults behind them.
-/

/-! ## Files -/

/-- The first of the paths where anything stands, and what stands there. -/
def Files.First (files : Files) (paths : List String) (path : String) (found : Found) : Prop :=
  ∃ before after, paths = before ++ path :: after ∧ (∀ earlier ∈ before, files earlier = none) ∧
    files path = some found

namespace Settings

variable {files : Files} {environment : Environment} {userDirectory : Option String}
  {paths : List String} {path : String} {found : Found} {problem : ConfigError}

/-- What stands at a path is no settings file, and this is the problem with it. -/
inductive Unusable (path : String) : Found → ConfigError → Prop where
  | unreadable (reason : String) : Unusable path (.unreadable reason) (.unreadable path reason)
  | malformed {content : String} (undescribed : ∀ document,
      Document.ofText? content = some document → ¬ IsDescribed document) :
      Unusable path (.text content) .malformedSettings

theorem ofFirst_of_first (first : files.First paths path found) :
    ofFirst files paths = ofFound path found := by
  rcases first with ⟨before, after, rfl, nothing, there⟩
  induction before with
  | nil => rw [List.nil_append, ofFirst, there]
  | cons earlier rest ih =>
      rcases List.forall_mem_cons.mp nothing with ⟨missing, later⟩
      rw [List.cons_append, ofFirst, missing]
      exact ih later

theorem ofFirst_of_nothing (nothing : ∀ path ∈ paths, files path = none) :
    ofFirst files paths = .ok {} := by
  induction paths with
  | nil => rfl
  | cons path rest ih =>
      rcases List.forall_mem_cons.mp nothing with ⟨missing, later⟩
      rw [ofFirst, missing]
      exact ih later

theorem exists_first_or_nothing (files : Files) (paths : List String) :
    (∃ path found, files.First paths path found) ∨ ∀ path ∈ paths, files path = none := by
  induction paths with
  | nil => exact Or.inr nofun
  | cons path rest ih =>
      cases there : files path with
      | some found => exact Or.inl ⟨path, found, [], rest, rfl, nofun, there⟩
      | none =>
          rcases ih with ⟨later, found, before, after, rfl, nothing, there'⟩ | nothing
          · exact Or.inl ⟨later, found, path :: before, after, rfl,
              List.forall_mem_cons.mpr ⟨there, nothing⟩, there'⟩
          · exact Or.inr (List.forall_mem_cons.mpr ⟨there, nothing⟩)

theorem ofText_of_isDescribed {content : String} {document : Document}
    (parsed : Document.ofText? content = some document) (described : IsDescribed document) :
    ofText content = .ok (ofLayers [Layer.ofDocument document]) := by
  rcases Option.isSome_iff_exists.mp (isSome_ofDocument?_iff.mpr described) with ⟨settings, read⟩
  rw [ofText, parsed, Option.bind_some, read, eq_of_ofDocument? read]

theorem ofText_of_not_isDescribed {content : String}
    (undescribed : ∀ document, Document.ofText? content = some document → ¬ IsDescribed document) :
    ofText content = .error .malformedSettings := by
  unfold ofText
  cases parsed : Document.ofText? content with
  | none => rfl
  | some document =>
      have refused : ofDocument? document = none := by
        rw [← Option.not_isSome_iff_eq_none, isSome_ofDocument?_iff]
        exact undescribed document parsed
      rw [Option.bind_some, refused]

theorem ofFound_of_unusable (unusable : Unusable path found problem) :
    ofFound path found = .error problem := by
  cases unusable with
  | unreadable reason => rfl
  | malformed undescribed => exact ofText_of_not_isDescribed undescribed

theorem unusable_or_described (path : String) (found : Found) :
    (∃ problem, Unusable path found problem) ∨
      ∃ content document, found = .text content ∧ Document.ofText? content = some document ∧
        IsDescribed document := by
  cases found with
  | unreadable reason => exact Or.inl ⟨_, .unreadable reason⟩
  | text content =>
      by_cases described : ∃ document, Document.ofText? content = some document ∧
          IsDescribed document
      · rcases described with ⟨document, parsed, described⟩
        exact Or.inr ⟨content, document, rfl, parsed, described⟩
      · exact Or.inl ⟨_, .malformed fun document parsed own => described ⟨document, parsed, own⟩⟩

/-! ## Loading -/

/-- Loading looks for a file at the paths, one after the other, and then into the
environment. -/
structure LoadsInOrder (files : Files) (paths : List String) (environment : Environment)
    (loaded : Except ConfigError Settings) : Prop where
  /-- It fails exactly if the first file that is there is of no use. -/
  fails : ∀ problem, loaded = .error problem ↔
    ∃ path found, files.First paths path found ∧ Unusable path found problem
  /-- Otherwise each setting is what the environment says, or else what the first
  file says, or else its default. -/
  settles : ∀ settings, loaded = .ok settings ↔
    (∃ path content document, files.First paths path (.text content) ∧
      Document.ofText? content = some document ∧ IsDescribed document ∧
      settings = ofLayers [Layer.ofEnvironment environment, Layer.ofDocument document]) ∨
    (∀ path ∈ paths, files path = none) ∧
      settings = ofLayers [Layer.ofEnvironment environment]

theorem load_eq : load files environment userDirectory =
    (ofFirst files (settingsPaths environment userDirectory)).map (·.override environment) :=
  rfl

theorem load_of_unusable
    (first : files.First (settingsPaths environment userDirectory) path found)
    (unusable : Unusable path found problem) :
    load files environment userDirectory = .error problem := by
  rw [load_eq, ofFirst_of_first first, ofFound_of_unusable unusable]
  rfl

theorem load_of_described {content : String} {document : Document}
    (first : files.First (settingsPaths environment userDirectory) path (.text content))
    (parsed : Document.ofText? content = some document) (described : IsDescribed document) :
    load files environment userDirectory =
      .ok (ofLayers [Layer.ofEnvironment environment, Layer.ofDocument document]) := by
  rw [load_eq, ofFirst_of_first first, ofFound, ofText_of_isDescribed parsed described,
    ← override_ofLayers]
  rfl

theorem load_of_nothing
    (nothing : ∀ path ∈ settingsPaths environment userDirectory, files path = none) :
    load files environment userDirectory = .ok (ofLayers [Layer.ofEnvironment environment]) := by
  rw [load_eq, ofFirst_of_nothing nothing, ← override_ofLayers]
  rfl

theorem load_cases (files : Files) (environment : Environment) (userDirectory : Option String) :
    let paths := settingsPaths environment userDirectory
    let loaded := load files environment userDirectory
    (∃ path found problem, files.First paths path found ∧ Unusable path found problem ∧
      loaded = .error problem) ∨
    (∃ path content document, files.First paths path (.text content) ∧
      Document.ofText? content = some document ∧ IsDescribed document ∧
      loaded = .ok (ofLayers [Layer.ofEnvironment environment, Layer.ofDocument document])) ∨
    (∀ path ∈ paths, files path = none) ∧
      loaded = .ok (ofLayers [Layer.ofEnvironment environment]) := by
  intro paths loaded
  rcases exists_first_or_nothing files paths with ⟨path, found, first⟩ | nothing
  · rcases unusable_or_described path found with ⟨problem, unusable⟩ |
      ⟨content, document, rfl, parsed, described⟩
    · exact Or.inl ⟨path, found, problem, first, unusable, load_of_unusable first unusable⟩
    · exact Or.inr (Or.inl ⟨path, content, document, first, parsed, described,
        load_of_described first parsed described⟩)
  · exact Or.inr (Or.inr ⟨nothing, load_of_nothing nothing⟩)

theorem loadsInOrder_load (files : Files) (environment : Environment)
    (userDirectory : Option String) :
    LoadsInOrder files (settingsPaths environment userDirectory) environment
      (load files environment userDirectory) := by
  have cases := load_cases files environment userDirectory
  constructor
  · intro problem
    constructor
    · intro failed
      rcases cases with ⟨path, found, other, first, unusable, loaded⟩ |
        ⟨path, content, document, first, parsed, described, loaded⟩ | ⟨nothing, loaded⟩
      · cases loaded.symm.trans failed
        exact ⟨path, found, first, unusable⟩
      · cases loaded.symm.trans failed
      · cases loaded.symm.trans failed
    · rintro ⟨path, found, first, unusable⟩
      exact load_of_unusable first unusable
  · intro settings
    constructor
    · intro succeeded
      rcases cases with ⟨path, found, problem, first, unusable, loaded⟩ |
        ⟨path, content, document, first, parsed, described, loaded⟩ | ⟨nothing, loaded⟩
      · cases loaded.symm.trans succeeded
      · cases loaded.symm.trans succeeded
        exact Or.inl ⟨path, content, document, first, parsed, described, rfl⟩
      · cases loaded.symm.trans succeeded
        exact Or.inr ⟨nothing, rfl⟩
    · rintro (⟨path, content, document, first, parsed, described, rfl⟩ | ⟨nothing, rfl⟩)
      · exact load_of_described first parsed described
      · exact load_of_nothing nothing

/-- Settings have one precedence.  Of the places for a settings file the first
that holds anything counts: loading fails exactly if this is of no use, and
otherwise each setting is decided by its variable, by that file or by its
default, in this order and apart from all other settings.  The list of nodes
holds the URLs between its commas, so URLs are read back from any list that is
made of them, and what the environment has decided it decides again in the same
way. -/
theorem first_source_decides (files : Files) (environment : Environment)
    (userDirectory : Option String) :
    let paths := (environment.lookup "ESQUERY_SETTINGS_PATH").toList ++
      "settings.yml" :: "config/settings.yml" ::
        (userDirectory.map (pathBelow · "esquery-rs/settings.yml")).toList
    LoadsInOrder files paths environment (load files environment userDirectory) ∧
      (∀ (text : String) (urls : List String), urlList text = urls ↔
        ∃ parts, Text.FallsInto ',' text.toList parts ∧
          Text.Lists parts (urls.map String.toList)) ∧
      (∀ urls written : List String,
        List.Forall₂ (fun url part => Text.Pads url.toList part.toList) urls written →
        (∀ url ∈ urls, Text.IsWord url.toList ∧ ',' ∉ url.toList) →
        urlList (",".intercalate written) = urls) ∧
      (∀ (text : String) (n : Nat), workerCount? text = some n ↔ IsWorkerCount text n) ∧
      ∀ settings : Settings,
        (settings.override environment).override environment = settings.override environment := by
  intro paths
  have inOrder : settingsPaths environment userDirectory = paths := by
    rw [settingsPaths, List.append_assoc]
    rfl
  have loads := loadsInOrder_load files environment userDirectory
  rw [inOrder] at loads
  exact ⟨loads, fun _ _ => urlList_eq_iff, fun _ _ => urlList_intercalate,
    fun _ _ => workerCount?_eq_some_iff, override_override environment⟩

/-- A file that is missing is passed over and one that comes too late is not
looked at, unless it is asked for first.  A number of workers that is no number
leaves the setting to the file. -/
theorem first_source_decides_workers :
    let files : Files := fun path =>
      if path = "settings.yml" then some (.text "query:\n  stream_workers: 4\n")
      else if path = "config/settings.yml" then some .directory
      else none
    let environment : Environment := [("ESQUERY_SETTINGS_PATH", "missing.yml"),
      ("ESQUERY_URLS", " http://a , http://b"), ("ESQUERY_STREAM_WORKERS", "many")]
    let urls := ["http://a", "http://b"]
    let written := [" http://a ", " http://b"]
    List.Forall₂ (fun url part => Text.Pads url.toList part.toList) urls written ∧
      (∀ url ∈ urls, Text.IsWord url.toList ∧ ',' ∉ url.toList) ∧
      urlList (",".intercalate written) = urls ∧
      load files environment none = .ok { backend := { urls }, query := { streamWorkers := 4 } } ∧
      load files [("ESQUERY_SETTINGS_PATH", "config/settings.yml")] none =
        .error (.unreadable "config/settings.yml" "Is a directory (os error 21)") := by
  intro files environment urls written
  have first : files.First ["missing.yml", "settings.yml", "config/settings.yml"]
      "settings.yml" (.text "query:\n  stream_workers: 4\n") :=
    ⟨["missing.yml"], ["config/settings.yml"], rfl, List.forall_mem_singleton.mpr rfl, rfl⟩
  have read : ((Document.ofText? "query:\n  stream_workers: 4\n").bind ofDocument?).isSome =
      true := by
    decide +kernel
  have made : (Document.ofText? "query:\n  stream_workers: 4\n").map (fun document =>
      ofLayers [Layer.ofEnvironment environment, Layer.ofDocument document]) =
        some { backend := { urls }, query := { streamWorkers := 4 } } := by
    decide +kernel
  have decides := first_source_decides files environment none
  have padded : List.Forall₂ (fun url part => Text.Pads url.toList part.toList) urls written :=
    .cons ⟨[' '], [' '], by decide, by decide, by decide⟩
      (.cons ⟨[' '], [], by decide, by decide, by decide⟩ .nil)
  have own : ∀ url ∈ urls, Text.IsWord url.toList ∧ ',' ∉ url.toList :=
    List.forall_mem_cons.mpr ⟨⟨⟨by decide, by decide⟩, by decide⟩,
      List.forall_mem_singleton.mpr ⟨⟨by decide, by decide⟩, by decide⟩⟩
  refine ⟨padded, own, decides.2.2.1 urls written padded own, (decides.1.settles _).mpr ?_, ?_⟩
  · rcases Option.map_eq_some_iff.mp made with ⟨document, parsed, same⟩
    rw [parsed, Option.bind_some, isSome_ofDocument?_iff] at read
    exact Or.inl ⟨"settings.yml", _, document, first, parsed, read, same.symm⟩
  · have askedFirst : files.First
        ["config/settings.yml", "settings.yml", "config/settings.yml"]
        "config/settings.yml" .directory :=
      ⟨[], _, rfl, nofun, rfl⟩
    exact ((first_source_decides files _ none).1.fails _).mpr ⟨_, _, askedFirst, .unreadable _⟩

end Settings

end CriteriaSearch
