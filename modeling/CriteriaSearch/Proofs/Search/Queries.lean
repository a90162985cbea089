import CriteriaSearch.CommandLine
import CriteriaSearch.Proofs.Paging.Zones
import CriteriaSearch.Proofs.Streaming.Calls

namespace CriteriaSearch

/-!
# The query that is run is the query that is explained

Five ways lead from a request to its query: the page, the list, the count and
the sample that a search gives, and the explanation on the command line.  They
take the compiler and the default zone from the same settings, so they agree
on the query, or else on the name of the zone that is not known.

What a search sends is read off a watched backend.  Watching does not change
what an operation returns, and it shows every call.  A request is compiled
before the first call, so a request that cannot be compiled makes none.
-/

namespace Search

variable {σ α : Type}

/-- The same search against a watched backend. -/
def watched (search : Search σ) : Search (σ × List Backend.Call) where
  backend := search.backend.watched
  settings := search.settings
  localZone := search.localZone
  schedule := search.schedule

instance (search : Search σ) [search.backend.Finite] : search.watched.backend.Finite :=
  inferInstanceAs search.backend.watched.Finite

variable (search : Search σ) (paging : Paging) (before : σ) (calls : List Backend.Call)

theorem fetchPage_watched (transform : Transform α) (request : SearchRequest) :
    search.watched.fetchPage transform request (before, calls) =
      ((search.fetchPage transform request before).1,
        (search.fetchPage transform request before).2, calls ++ [.search request]) := by
  rw [fetchPage, fetchPage]
  rfl

/-- The batches of a stream fit the channels that it is made of. -/
def Streams : Prop :=
  paging.effectiveBatchSize search.settings.streamBatchSize ≤ Stream.channelLimit

/-- The calls that answer a request: one search, or a cursor that is opened and
then read on. -/
def Fetches (query : BoolQuery) (made : List Backend.Call) : Prop :=
  if paging.isUnbounded search.settings.maxPageWindow then
    ∃ scrollIds : List String,
      made = .scrollStart (scrollRequest search.settings paging query) ::
        scrollIds.map (Backend.Call.scrollNext · search.settings.keepAlive)
  else made = [.search (searchRequest paging query)]

variable {search paging} {query : BoolQuery}

theorem count_watched (compiled : search.compile paging = .ok query) :
    search.watched.count paging (before, calls) =
      ((search.count paging before).1, (search.count paging before).2,
        calls ++ [.count (.bool query)]) := by
  have compiled' : search.watched.compile paging = .ok query := compiled
  rw [count, count, compiled, compiled']
  rfl

theorem random_watched (compiled : search.compile paging = .ok query) :
    search.watched.random paging (before, calls) =
      ((search.random paging before).1, (search.random paging before).2,
        calls ++ [.search (randomRequest paging query)]) := by
  have compiled' : search.watched.compile paging = .ok query := compiled
  rw [random, random, compiled, compiled']
  rfl

section Cursors

variable [search.backend.Finite]

private theorem fetchAll_watched (streams : search.Streams paging) (transform : Transform α) :
    ∃ scrollIds : List String,
      search.watched.fetchAll transform (scrollRequest search.settings paging query)
          (before, calls) =
        ((search.fetchAll transform (scrollRequest search.settings paging query) before).1,
          (search.fetchAll transform (scrollRequest search.settings paging query) before).2,
          calls ++ .scrollStart (scrollRequest search.settings paging query) ::
            scrollIds.map (Backend.Call.scrollNext · search.settings.keepAlive)) :=
  Stream.fetchAll_watched search.backend (scrollRequest search.settings paging query) before
    search.settings.streamWorkers (Nat.max_le.mpr ⟨by decide, streams⟩) (search.schedule α) calls

theorem page_watched (compiled : search.compile paging = .ok query)
    (streams : search.Streams paging) :
    ∃ made, search.Fetches paging query made ∧
      search.watched.page paging (before, calls) =
        ((search.page paging before).1, (search.page paging before).2, calls ++ made) := by
  have compiled' : search.watched.compile paging = .ok query := compiled
  have settings : search.watched.settings = search.settings := rfl
  unfold Fetches
  simp only [page, compiled, compiled', settings]
  split
  · rcases fetchAll_watched before calls streams Transform.sourceWithId with ⟨scrollIds, fetched⟩
    exact ⟨_, ⟨scrollIds, rfl⟩, by rw [fetched]⟩
  · exact ⟨_, rfl, by rw [fetchPage_watched]⟩

theorem listWith_watched (compiled : search.compile paging = .ok query)
    (streams : search.Streams paging) (transform : Transform α) :
    ∃ made, search.Fetches paging query made ∧
      search.watched.listWith transform paging (before, calls) =
        ((search.listWith transform paging before).1,
          (search.listWith transform paging before).2, calls ++ made) := by
  have compiled' : search.watched.compile paging = .ok query := compiled
  have settings : search.watched.settings = search.settings := rfl
  unfold Fetches
  simp only [listWith, compiled, compiled', settings]
  split
  · rcases fetchAll_watched before calls streams transform with ⟨scrollIds, fetched⟩
    exact ⟨_, ⟨scrollIds, rfl⟩, by rw [fetched]⟩
  · exact ⟨_, rfl, by rw [fetchPage_watched]⟩

end Cursors

/-! ## What is sent -/

/-- The queries that an operation sent, as they are written. -/
def queriesSent (result : Result (σ × List Backend.Call) α) : List Json :=
  result.2.2.filterMap Backend.Call.query?

/-- The query inside one that is scored by a script. -/
def scoredQuery? (written : Json) : Option Json :=
  (written.member? "function_score").bind (·.member? "query")

private theorem query?_scrollStart (request : ScrollRequest) :
    (Backend.Call.scrollStart request).query? = some request.query.source := rfl

private theorem filterMap_query?_of_fetches {made : List Backend.Call}
    (fetches : search.Fetches paging query made) :
    made.filterMap Backend.Call.query? = [query.source] := by
  unfold Fetches at fetches
  split at fetches
  · rcases fetches with ⟨scrollIds, rfl⟩
    have further : (scrollIds.map (Backend.Call.scrollNext · search.settings.keepAlive)).filterMap
        Backend.Call.query? = [] := by
      rw [List.filterMap_map, List.filterMap_eq_nil_iff]
      exact fun _ _ => rfl
    rw [List.filterMap_cons_some (query?_scrollStart _), further]
    rfl
  · rw [fetches]
    rfl

/-- Every operation on the request sends this query and no other.  The sample
sends it inside a query that is scored. -/
structure Sends (search : Search σ) [search.backend.Finite] (paging : Paging) (before : σ)
    (query : Json) : Prop where
  page : queriesSent (search.watched.page paging (before, [])) = [query]
  list : queriesSent (search.watched.list paging (before, [])) = [query]
  count : queriesSent (search.watched.count paging (before, [])) = [query]
  random : (queriesSent (search.watched.random paging (before, []))).map scoredQuery? =
    [some query]

/-- Every operation on the request fails in the same way before any call. -/
structure Refuses (search : Search σ) [search.backend.Finite] (paging : Paging) (before : σ)
    (problem : SearchError) : Prop where
  page : search.watched.page paging (before, []) = (.error problem, before, [])
  list : search.watched.list paging (before, []) = (.error problem, before, [])
  count : search.watched.count paging (before, []) = (.error problem, before, [])
  random : search.watched.random paging (before, []) = (.error problem, before, [])

variable [search.backend.Finite]

theorem sends_of_compile_eq_ok (compiled : search.compile paging = .ok query)
    (streams : search.Streams paging) : search.Sends paging before query.source where
  page := by
    rcases page_watched before [] compiled streams with ⟨made, fetches, watched⟩
    rw [queriesSent, watched]
    exact filterMap_query?_of_fetches fetches
  list := by
    rcases listWith_watched before [] compiled streams Transform.sourceWithId with
      ⟨made, fetches, watched⟩
    rw [queriesSent, list, watched]
    exact filterMap_query?_of_fetches fetches
  count := by
    rw [queriesSent, count_watched before [] compiled]
    rfl
  random := by
    rw [queriesSent, random_watched before [] compiled]
    rfl

theorem refuses_of_compile_eq_error {problem : SearchError}
    (refused : search.compile paging = .error problem) :
    search.Refuses paging before problem := by
  have refused' : search.watched.compile paging = .error problem := refused
  constructor
  · rw [page, refused']
  · rw [list, listWith, refused']
  · rw [count, refused']
  · rw [random, refused']

end Search

/-! ## What is explained -/

namespace CommandLine

/-- What the command line gives where it is asked to explain a request under
given settings.  It has no exchange with any node then. -/
def Explains (settings : QuerySettings) (localZone : String) (paging : Paging)
    (result : Except Problem String) : Prop :=
  ∀ (surroundings : Surroundings) (all : Settings), all.query = settings →
    surroundings.localZone = localZone →
    explained surroundings all paging = result ∧
      ∀ arguments file, Invocation.ofArguments false none arguments = .answer true file →
        request surroundings file = .ok paging →
        CommandLine.settings surroundings = .ok all →
        run surroundings arguments = { result }

theorem explains_of_explained {settings : QuerySettings} {localZone : String} {paging : Paging}
    {result : Except Problem String}
    (shown : ∀ (surroundings : Surroundings) (all : Settings), all.query = settings →
      surroundings.localZone = localZone → explained surroundings all paging = result) :
    Explains settings localZone paging result := by
  intro surroundings all query zone
  refine ⟨shown surroundings all query zone, ?_⟩
  intro arguments file asked read configured
  rw [run, asked]
  simp only [answer, read, configured]
  rw [← shown surroundings all query zone]
  rfl

variable {settings : QuerySettings} {localZone : String} {paging : Paging}

theorem explains_of_compile_eq_ok {query : BoolQuery}
    (compiled : paging.compile settings.compiler settings.defaultTimeZone localZone = .ok query) :
    Explains settings localZone paging (.ok (query.source.indented ++ "\n")) := by
  apply explains_of_explained
  rintro surroundings all rfl rfl
  rw [explained, Paging.explain, compiled]
  rfl

theorem explains_of_compile_eq_error {zone : String}
    (refused : paging.compile settings.compiler settings.defaultTimeZone localZone = .error zone) :
    Explains settings localZone paging (.error (.search (.unknownTimeZone zone))) := by
  apply explains_of_explained
  rintro surroundings all rfl rfl
  rw [explained, Paging.explain, refused]
  rfl

end CommandLine

namespace Search

variable {σ : Type}

private theorem compile_eq_of_paging {search : Search σ} {paging : Paging}
    {result : Except String BoolQuery}
    (compiled : paging.compile search.settings.compiler search.settings.defaultTimeZone
      search.localZone = result) :
    search.compile paging = result.mapError .unknownTimeZone := by
  rw [compile, compiled]

private theorem compiler_of_default {settings : QuerySettings}
    (formats : settings.dateFormats = defaultDateFormats) : settings.compiler = {} := by
  rw [QuerySettings.compiler, formats]
  rfl

/-- What is run is what is explained.  If the zone of a request is known or
left open, all operations send one and the same query, and the command line
prints it.  If not, all of them and the command line refuse the request for
its zone, and nothing is sent.  Under default formats and without a default
zone the request explains itself in the same way. -/
theorem sends_what_is_explained (search : Search σ) [search.backend.Finite] (paging : Paging)
    (before : σ) (streams : search.Streams paging) :
    ((∀ zone, paging.zoneName? search.settings.defaultTimeZone = some zone →
        zone ∈ TimeZone.names) →
      ∃ query : Json, search.Sends paging before query ∧
        CommandLine.Explains search.settings search.localZone paging
          (.ok (query.indented ++ "\n")) ∧
        (search.settings.dateFormats = defaultDateFormats →
          search.settings.defaultTimeZone = none →
          paging.explain {} none search.localZone = .ok query.indented)) ∧
    ∀ zone, paging.zoneName? search.settings.defaultTimeZone = some zone →
      zone ∉ TimeZone.names →
      search.Refuses paging before (.unknownTimeZone zone) ∧
        CommandLine.Explains search.settings search.localZone paging
          (.error (.search (.unknownTimeZone zone))) ∧
        (search.settings.dateFormats = defaultDateFormats →
          search.settings.defaultTimeZone = none →
          paging.explain {} none search.localZone = .error zone) := by
  constructor
  · intro known
    have resolved : ∃ query, paging.compile search.settings.compiler
        search.settings.defaultTimeZone search.localZone = .ok query := by
      rw [Paging.compile, Paging.resolveZone_eq]
      cases named : paging.zoneName? search.settings.defaultTimeZone with
      | none => exact ⟨_, rfl⟩
      | some zone =>
          have listed : TimeZone.isKnown zone = true :=
            List.contains_iff_mem.mpr (known zone named)
          simp only [if_pos listed]
          exact ⟨_, rfl⟩
    rcases resolved with ⟨query, compiled⟩
    refine ⟨query.source, sends_of_compile_eq_ok before (compile_eq_of_paging compiled) streams,
      CommandLine.explains_of_compile_eq_ok compiled, ?_⟩
    intro formats default
    rw [compiler_of_default formats, default] at compiled
    rw [Paging.explain, compiled]
    rfl
  · intro zone named unknown
    have refused : paging.compile search.settings.compiler search.settings.defaultTimeZone
        search.localZone = .error zone := by
      have unlisted : ¬ TimeZone.isKnown zone = true := mt List.contains_iff_mem.mp unknown
      rw [Paging.compile, Paging.resolveZone_eq, named]
      simp only [if_neg unlisted]
      rfl
    refine ⟨refuses_of_compile_eq_error before (compile_eq_of_paging refused),
      CommandLine.explains_of_compile_eq_error refused, ?_⟩
    intro formats default
    rw [compiler_of_default formats, default] at refused
    rw [Paging.explain, refused]
    rfl

/-- Two pages are streamed, unless they are asked for in a zone that is not known. -/
theorem sends_what_is_explained_twoPages :
    let search : Search (List (Answer ScrollPage)) :=
      { backend := Backend.scripted, localZone := "UTC" }
    let before := Backend.script Backend.twoPages none
    (∃ query, search.Sends {} before query) ∧
      search.Refuses { timeZone := some " Mars/Olympus_Mons" } before
        (.unknownTimeZone "Mars/Olympus_Mons") := by
  intro search before
  have streams (timeZone : Option String) : search.Streams { timeZone } :=
    (by decide : 1000 ≤ Stream.channelLimit)
  constructor
  · rcases (sends_what_is_explained search {} before (streams none)).1 nofun with ⟨query, sends, -⟩
    exact ⟨query, sends⟩
  · have named : ({ timeZone := some " Mars/Olympus_Mons" } : Paging).zoneName? none =
        some "Mars/Olympus_Mons" := by decide +kernel
    have unknown : "Mars/Olympus_Mons" ∉ TimeZone.names := by decide +kernel
    exact ((sends_what_is_explained search _ before (streams _)).2 _ named unknown).1

end Search

end CriteriaSearch
