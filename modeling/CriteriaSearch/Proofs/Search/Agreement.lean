import CriteriaSearch.Backend.Memory
import CriteriaSearch.Proofs.Json.Values
import CriteriaSearch.Proofs.Search.Queries
import CriteriaSearch.Proofs.Streaming.Outcome
import Mathlib.Data.List.Perm.Basic

namespace CriteriaSearch

/-!
# The page and the list of a request

A page and a list of the same request are fetched in the same way.  Within the
window of a bounded search both make that search, and the list is what the page
holds.  Outside of it both open the same cursor and stream it.  A stream brings
its documents in an order that depends on the schedule, so there the two agree
on whether they succeed and on the documents up to their order.

The page and the list are two runs, each from a state of the backend of its
own.  All that is asked of the two states is that the backend answers alike
from them; the schedules of the two runs have nothing to do with one another.
-/

namespace Backend

variable {σ : Type} (backend : Backend σ)

/-- Two answers are the same and lead to related states. -/
def Matches {α : Type} (alike : σ → σ → Prop) (first second : Answer α × σ) : Prop :=
  first.1 = second.1 ∧ alike first.2 second.2

/-- From related states equal calls get equal answers and lead to related
states again. -/
structure AnswersBy (alike : σ → σ → Prop) : Prop where
  search : ∀ first second, alike first second → ∀ request,
    Matches alike (backend.search request first) (backend.search request second)
  scrollStart : ∀ first second, alike first second → ∀ request,
    Matches alike (backend.scrollStart request first) (backend.scrollStart request second)
  scrollNext : ∀ first second, alike first second → ∀ scrollId keepAlive,
    Matches alike (backend.scrollNext scrollId keepAlive first)
      (backend.scrollNext scrollId keepAlive second)

/-- Searches and cursors are answered alike from both states, however far the
cursors are read. -/
def AnswersAlike (first second : σ) : Prop :=
  ∃ alike : σ → σ → Prop, backend.AnswersBy alike ∧ alike first second

variable {backend} {first second : σ}

theorem AnswersAlike.search_eq (alike : backend.AnswersAlike first second)
    (request : SearchRequest) :
    (backend.search request first).1 = (backend.search request second).1 := by
  rcases alike with ⟨_, answers, related⟩
  exact (answers.search first second related request).1

private theorem servesFrom_of_matches {alike : σ → σ → Prop} (answers : backend.AnswersBy alike)
    {keepAlive : String} {answer : Answer ScrollPage × σ} {pages : List ScrollPage}
    {failure : Option Failure} (served : backend.ServesFrom keepAlive answer pages failure)
    {other : Answer ScrollPage × σ} (same : Matches alike answer other) :
    backend.ServesFrom keepAlive other pages failure := by
  induction served generalizing other with
  | failed cause after =>
      rcases other with ⟨_, state⟩
      cases same.1
      exact .failed cause state
  | last after final =>
      rcases other with ⟨_, state⟩
      cases same.1
      exact .last state final
  | @more page after scrollId pages failure filled handle further ih =>
      rcases other with ⟨_, state⟩
      cases same.1
      have next := answers.scrollNext after state same.2 scrollId keepAlive
      exact .more filled handle (ih next)

/-- The cursor of a request brings the same pages from both states. -/
theorem AnswersAlike.serves (alike : backend.AnswersAlike first second) {request : ScrollRequest}
    {pages : List ScrollPage} {failure : Option Failure}
    (served : backend.Serves request first pages failure) :
    backend.Serves request second pages failure := by
  rcases alike with ⟨_, answers, related⟩
  exact servesFrom_of_matches answers served (answers.scrollStart first second related request)

end Backend

namespace MemoryIndex

variable (index : MemoryIndex)

private theorem matches_answer {α : Type} (kind : CallKind) (call : SeenCall)
    {first second : State} (same : first.position = second.position)
    {respond : State → Answer α × State}
    (responds : ∀ s t : State, s.position = t.position →
      Backend.Matches (fun s t : State => s.position = t.position) (respond s) (respond t)) :
    Backend.Matches (fun s t : State => s.position = t.position)
      (index.answer kind call first respond) (index.answer kind call second respond) := by
  unfold answer
  split
  · exact ⟨rfl, same⟩
  · exact responds _ _ same

private theorem matches_batch (offset size : Nat) {first second : State}
    (same : first.position = second.position) :
    Backend.Matches (fun s t : State => s.position = t.position)
      (index.batch offset size first) (index.batch offset size second) := by
  have lost : index.isLost first = index.isLost second := by rw [isLost, isLost, same]
  unfold batch
  rw [lost, same]
  split
  · exact ⟨rfl, same⟩
  · exact ⟨rfl, rfl⟩

/-- An index answers by the place of its cursor; the calls that it has seen do
not matter. -/
theorem answersAlike {first second : State} (same : first.position = second.position) :
    index.backend.AnswersAlike first second := by
  refine ⟨fun s t => s.position = t.position, ⟨?_, ?_, ?_⟩, same⟩
  · intro s t same request
    exact index.matches_answer _ _ same fun _ _ same => ⟨rfl, same⟩
  · intro s t same request
    exact index.matches_answer _ _ same fun _ _ _ => index.matches_batch _ _ rfl
  · intro s t same scrollId keepAlive
    refine index.matches_answer _ _ same fun s t same => ?_
    cases index.resume scrollId with
    | error problem => exact ⟨rfl, same⟩
    | ok handle => exact index.matches_batch _ _ same

end MemoryIndex

namespace Stream

variable {σ α : Type} {backend : Backend σ} {transform : Transform α} {request : ScrollRequest}
  {first second : σ} [backend.Ends request first] [backend.Ends request second]
  {workers others : Nat}

/-- Streams of the same pages succeed alike. -/
theorem exists_ok_iff_of_alike (alike : backend.AnswersAlike first second)
    {result other : Except SearchError (List α)}
    (returned : Returns backend transform request first workers result)
    (returned' : Returns backend transform request second others other) :
    (∃ docs, result = .ok docs) ↔ ∃ docs, other = .ok docs := by
  rcases backend.exists_serves request first with ⟨pages, failure, served⟩
  have truthful := truthful_of_returns served returned
  have truthful' := truthful_of_returns (alike.serves served) returned'
  rw [truthful.ok_iff, truthful'.ok_iff]

/-- Streams of the same pages that succeed return the same documents. -/
theorem perm_of_alike (alike : backend.AnswersAlike first second) {docs other : List α}
    (returned : Returns backend transform request first workers (.ok docs))
    (returned' : Returns backend transform request second others (.ok other)) :
    docs.Perm other := by
  rcases backend.exists_serves request first with ⟨pages, failure, served⟩
  have delivered := delivers_of_returns served returned
  have delivered' := delivers_of_returns (alike.serves served) returned'
  have shaped : (docs.map Shaped.doc).Perm (other.map Shaped.doc) :=
    delivered.exactly_once.trans delivered'.exactly_once.symm
  exact (List.map_perm_map_iff fun _ _ same => Shaped.doc.inj same).mp shaped

end Stream

theorem Paging.isUnbounded_eq_false_iff {paging : Paging} {window : Int} :
    paging.isUnbounded window = false ↔ 0 ≤ paging.limit ∧ paging.limit ≤ window := by
  simp [isUnbounded]

namespace Search

variable {σ : Type} {search : Search σ} {paging : Paging} {query : BoolQuery}

/-- The same search under another schedule. -/
def withSchedule (search : Search σ) (schedule : (α : Type) → Stream.Schedule α) : Search σ :=
  { search with schedule }

instance (search : Search σ) (schedule : (α : Type) → Stream.Schedule α)
    [search.backend.Finite] : (search.withSchedule schedule).backend.Finite :=
  inferInstanceAs search.backend.Finite

/-- The page and the list of a request with a bounded window make one and the
same search, and they return the same documents or the same failure. -/
structure SearchAlike (paging : Paging) (paged listed : Search σ) [paged.backend.Finite]
    [listed.backend.Finite] (first second : σ) : Prop where
  request : ∃ request : SearchRequest,
    (request.start : Int) = max paging.skip 0 ∧ (request.size : Int) = paging.limit ∧
      request.sort = paging.sortBy ∧ request.filter = ⟨paging.includes, paging.excludes⟩ ∧
      (paged.watched.page paging (first, [])).2.2 = [.search request] ∧
      (listed.watched.list paging (second, [])).2.2 = [.search request]
  docs : (listed.list paging second).1 = (paged.page paging first).1.map Page.docs

/-- The page and the list of a request without a bounded window open one and
the same cursor, and all other calls read a cursor on.  They succeed alike and
then return the same documents, and the page is a single one. -/
structure StreamAlike (paging : Paging) (paged listed : Search σ) [paged.backend.Finite]
    [listed.backend.Finite] (first second : σ) : Prop where
  request : ∃ (request : ScrollRequest) (pageIds listIds : List String),
    request.filter = ⟨paging.includes, paging.excludes⟩ ∧
      (paged.watched.page paging (first, [])).2.2 =
        .scrollStart request :: pageIds.map (Backend.Call.scrollNext · request.keepAlive) ∧
      (listed.watched.list paging (second, [])).2.2 =
        .scrollStart request :: listIds.map (Backend.Call.scrollNext · request.keepAlive)
  alike : (∃ page, (paged.page paging first).1 = .ok page) ↔
    ∃ docs, (listed.list paging second).1 = .ok docs
  docs : ∀ page docs, (paged.page paging first).1 = .ok page →
    (listed.list paging second).1 = .ok docs → page.docs.Perm docs
  single : ∀ page, (paged.page paging first).1 = .ok page →
    page.page = 0 ∧ page.pageSize = 0 ∧ page.total = UInt64.ofNat page.docs.length ∧
      page.hasNextPage = false

/-! ## Within the window -/

variable [search.backend.Finite]

theorem page_of_bounded (compiled : search.compile paging = .ok query)
    (bounded : paging.isUnbounded search.settings.maxPageWindow = false) (before : σ) :
    search.page paging before =
      let (found, after) := search.fetchPage Transform.sourceWithId (searchRequest paging query)
        before
      (found.map fun (total, docs) => Page.ofWindow (UInt64.ofNat paging.offset)
        (UInt64.ofNat paging.limit.toNat) total docs, after) := by
  rw [page, compiled]
  simp only [bounded, Bool.false_eq_true, if_false]
  rfl

theorem listWith_of_bounded {α : Type} (compiled : search.compile paging = .ok query)
    (bounded : paging.isUnbounded search.settings.maxPageWindow = false) (transform : Transform α)
    (before : σ) :
    search.listWith transform paging before =
      let (found, after) := search.fetchPage transform (searchRequest paging query) before
      (found.map Prod.snd, after) := by
  rw [listWith, compiled]
  simp only [bounded, Bool.false_eq_true, if_false]

omit [search.backend.Finite] in
private theorem fetchPage_eq_of_alike {α : Type} {listed : Search σ}
    (same : listed.backend = search.backend) {first second : σ}
    (alike : search.backend.AnswersAlike first second) (transform : Transform α)
    (request : SearchRequest) :
    (listed.fetchPage transform request second).1 =
      (search.fetchPage transform request first).1 := by
  rw [fetchPage, fetchPage, same]
  simp only [alike.search_eq request]

theorem searchAlike (schedule : (α : Type) → Stream.Schedule α) {first second : σ}
    (compiled : search.compile paging = .ok query)
    (alike : search.backend.AnswersAlike first second)
    (bounded : paging.isUnbounded search.settings.maxPageWindow = false) :
    SearchAlike paging search (search.withSchedule schedule) first second where
  request := by
    have within := Paging.isUnbounded_eq_false_iff.mp bounded
    refine ⟨searchRequest paging query, ?_, ?_, rfl, rfl, ?_, ?_⟩
    · exact Int.toNat_eq_max paging.skip
    · exact Int.toNat_of_nonneg within.1
    · have watched : search.watched.compile paging = .ok query := compiled
      rw [page_of_bounded watched bounded, fetchPage_watched]
      rfl
    · have watched : (search.withSchedule schedule).watched.compile paging = .ok query := compiled
      rw [list, listWith_of_bounded watched bounded, fetchPage_watched]
      rfl
  docs := by
    have compiled' : (search.withSchedule schedule).compile paging = .ok query := compiled
    have found :
        ((search.withSchedule schedule).fetchPage Transform.sourceWithId
          (searchRequest paging query) second).1 =
        (search.fetchPage Transform.sourceWithId (searchRequest paging query) first).1 :=
      fetchPage_eq_of_alike rfl alike Transform.sourceWithId (searchRequest paging query)
    rw [page_of_bounded compiled bounded, list, listWith_of_bounded compiled' bounded]
    simp only [found]
    cases (search.fetchPage Transform.sourceWithId (searchRequest paging query) first).1 with
    | error problem => rfl
    | ok answer => rfl

/-! ## Outside of the window -/

private theorem page_of_unbounded (compiled : search.compile paging = .ok query)
    (unbounded : paging.isUnbounded search.settings.maxPageWindow = true) (before : σ) :
    (search.page paging before).1 =
      (search.fetchAll Transform.sourceWithId (scrollRequest search.settings paging query)
        before).1.map Page.streamed := by
  rw [page, compiled]
  simp only [unbounded, if_true]

private theorem list_of_unbounded (compiled : search.compile paging = .ok query)
    (unbounded : paging.isUnbounded search.settings.maxPageWindow = true) (before : σ) :
    (search.list paging before).1 =
      (search.fetchAll Transform.sourceWithId (scrollRequest search.settings paging query)
        before).1 := by
  rw [list, listWith, compiled]
  simp only [unbounded, if_true]

omit [search.backend.Finite] in
private theorem calls_of_unbounded {made : List Backend.Call}
    (unbounded : paging.isUnbounded search.settings.maxPageWindow = true)
    (fetches : search.Fetches paging query made) :
    ∃ scrollIds : List String,
      made = .scrollStart (scrollRequest search.settings paging query) ::
        scrollIds.map (Backend.Call.scrollNext · search.settings.keepAlive) := by
  rw [Fetches, if_pos unbounded] at fetches
  exact fetches

private theorem returns_of_streams (streams : search.Streams paging) (before : σ) :
    Stream.Returns search.backend Transform.sourceWithId
      (scrollRequest search.settings paging query) before search.settings.streamWorkers
      (search.fetchAll Transform.sourceWithId (scrollRequest search.settings paging query)
        before).1 := by
  have fits : max 1 (scrollRequest search.settings paging query).size ≤ Stream.channelLimit :=
    Nat.max_le.mpr ⟨by decide, streams⟩
  exact Stream.returns_fetchAll search.backend Transform.sourceWithId _ before _ fits
    (search.schedule Json)

theorem streamAlike (schedule : (α : Type) → Stream.Schedule α) {first second : σ}
    (compiled : search.compile paging = .ok query)
    (alike : search.backend.AnswersAlike first second) (streams : search.Streams paging)
    (unbounded : paging.isUnbounded search.settings.maxPageWindow = true) :
    StreamAlike paging search (search.withSchedule schedule) first second := by
  have compiled' : (search.withSchedule schedule).compile paging = .ok query := compiled
  have streams' : (search.withSchedule schedule).Streams paging := streams
  have returned : Stream.Returns search.backend Transform.sourceWithId
      (scrollRequest search.settings paging query) first search.settings.streamWorkers _ :=
    returns_of_streams streams first
  have returned' : Stream.Returns search.backend Transform.sourceWithId
      (scrollRequest search.settings paging query) second search.settings.streamWorkers _ :=
    returns_of_streams streams' second
  have paged := page_of_unbounded compiled unbounded first
  have listed := list_of_unbounded compiled' unbounded second
  constructor
  · rcases page_watched first [] compiled streams with ⟨made, fetches, watched⟩
    rcases listWith_watched second [] compiled' streams' Transform.sourceWithId with
      ⟨made', fetches', watched'⟩
    rcases calls_of_unbounded unbounded fetches with ⟨pageIds, rfl⟩
    rcases calls_of_unbounded unbounded fetches' with ⟨listIds, rfl⟩
    exact ⟨scrollRequest search.settings paging query, pageIds, listIds, rfl,
      by rw [watched]; rfl, by rw [list, watched']; rfl⟩
  · rw [listed, ← Stream.exists_ok_iff_of_alike alike returned returned', paged]
    cases (search.fetchAll Transform.sourceWithId (scrollRequest search.settings paging query)
      first).1 with
    | error problem =>
        constructor
        · rintro ⟨docs, given⟩
          cases given
        · rintro ⟨page, given⟩
          cases given
    | ok docs => exact ⟨fun _ => ⟨docs, rfl⟩, fun _ => ⟨Page.streamed docs, rfl⟩⟩
  · intro page docs pageGiven listGiven
    rw [paged] at pageGiven
    rw [listed] at listGiven
    rcases Decode.map_eq_ok.mp pageGiven with ⟨streamed, fetched, rfl⟩
    rw [fetched] at returned
    rw [listGiven] at returned'
    exact Stream.perm_of_alike alike returned returned'
  · intro page pageGiven
    rw [paged] at pageGiven
    rcases Decode.map_eq_ok.mp pageGiven with ⟨streamed, _, rfl⟩
    exact ⟨rfl, rfl, rfl, rfl⟩

/-- A page and a list of one request are fetched alike, from any two states
from which the backend answers alike and under any two schedules: by the same
search if the limit lies within the window, and by the same cursor if not. -/
theorem page_and_list_agree (search : Search σ) [search.backend.Finite]
    (schedule : (α : Type) → Stream.Schedule α) (paging : Paging) {first second : σ}
    (alike : search.backend.AnswersAlike first second)
    (known : ∀ zone, paging.zoneName? search.settings.defaultTimeZone = some zone →
      zone ∈ TimeZone.names)
    (streams : search.Streams paging) :
    (0 ≤ paging.limit ∧ paging.limit ≤ search.settings.maxPageWindow →
        SearchAlike paging search (search.withSchedule schedule) first second) ∧
      (¬ (0 ≤ paging.limit ∧ paging.limit ≤ search.settings.maxPageWindow) →
        StreamAlike paging search (search.withSchedule schedule) first second) := by
  rcases paging.exists_compile_eq_ok search.settings.defaultTimeZone search.localZone
    search.settings.compiler known with ⟨query, compiled⟩
  have compiled' : search.compile paging = .ok query := by rw [compile, compiled]; rfl
  rw [← Paging.isUnbounded_eq_false_iff, Bool.not_eq_false]
  exact ⟨searchAlike schedule compiled' alike, streamAlike schedule compiled' alike streams⟩

/-- An index that has answered before is asked for a window that starts ahead
of all documents, and for everything. -/
theorem page_and_list_agree_index :
    let index : MemoryIndex :=
      { docs := [{ id := "a" }, { id := "b", source := .bool true }], total := 2 }
    let search : Search MemoryIndex.State := { backend := index.backend, localZone := "UTC" }
    let before : MemoryIndex.State := { seen := [.get "a"] }
    SearchAlike { skip := -3, limit := 1 } search (search.withSchedule fun _ _ => [.join 0])
        {} before ∧
      StreamAlike { batchSize := 1 } search (search.withSchedule fun _ _ => [.join 0])
        {} before := by
  intro index search before
  have alike : search.backend.AnswersAlike {} before := index.answersAlike rfl
  have fits : Paging.defaultBatchSize ≤ Stream.channelLimit ∧ 1 ≤ Stream.channelLimit := by
    decide
  constructor
  · exact (page_and_list_agree search _ { skip := -3, limit := 1 } alike nofun fits.1).1
      (by decide)
  · exact (page_and_list_agree search _ { batchSize := 1 } alike nofun fits.2).2 (by decide)

end Search

end CriteriaSearch
