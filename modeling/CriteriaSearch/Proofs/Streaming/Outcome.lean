import CriteriaSearch.Proofs.Backend.Pages
import CriteriaSearch.Proofs.Streaming.Progress

namespace CriteriaSearch
namespace Stream

/-!
# What a stream returns

A stream that succeeds has nothing left in it, so everything on its ledger was
collected: its documents are what the transform makes of the hits of the walk,
each hit once.  A stream that fails has its failure on record, and what is on
record happened.  Together they say that success is a matter of the pages and
the transform alone, whatever the schedule.
-/

variable {α : Type} {transform : Transform α} {s : State α} {walk : Walk}

namespace State

/-! ## Success -/

private theorem Sound.drained_of_ok (sound : s.Sound transform walk) {docs : List α}
    (succeeded : s.outcome = some (.ok docs)) : s.Drained := by
  have settled := sound.settled docs succeeded
  rcases List.exists_mem_of_ne_nil _ sound.staffed with ⟨worker, member⟩
  rcases sound.explained (settled.gone worker member ▸ member) with drained | ⟨problem, recorded⟩
  · exact drained
  · rw [record, succeeded, settled.joined] at recorded
    cases recorded

/-- When a stream succeeds every result of the transform was collected. -/
theorem Sound.results_of_ok (sound : s.Sound transform walk) {docs : List α}
    (succeeded : s.outcome = some (.ok docs)) :
    s.results transform = docs.reverse.map .doc := by
  have settled := sound.settled docs succeeded
  rcases sound.drained_of_ok succeeded with ⟨finished, empty⟩
  have idle : s.workers.filterMap (Worker.result? transform) = [] := by
    rw [List.filterMap_eq_nil_iff]
    intro worker member
    rw [settled.gone worker member]
    rfl
  have unrecorded : s.record = [] := by rw [record, succeeded, settled.joined]
  rw [results, finished, empty, idle, unrecorded, settled.delivered, settled.collected,
    List.reverse_reverse]
  simp only [Producer.unsent, List.append_nil, List.nil_append, List.map_nil, List.filterMap_nil]

/-- A stream that succeeds returns what the transform makes of the hits. -/
theorem Sound.map_doc_perm (sound : s.Sound transform walk) {docs : List α}
    (succeeded : s.outcome = some (.ok docs)) :
    (docs.map Shaped.doc).Perm (walk.hits.map transform) := by
  have collected := sound.results_perm
  rw [sound.results_of_ok succeeded] at collected
  exact ((List.reverse_perm docs).symm.map Shaped.doc).trans collected

/-- A stream succeeds only if its walk does not break. -/
theorem Sound.failure?_eq_none (sound : s.Sound transform walk) {docs : List α}
    (succeeded : s.outcome = some (.ok docs)) : walk.failure? = none := by
  have settled := sound.settled docs succeeded
  have kept := sound.failures_perm
  have nothing : s.failures = [] := by
    rw [failures, record, succeeded, settled.joined, settled.finished]
    rfl
  rw [nothing] at kept
  exact Option.toList_eq_nil_iff.mp kept.nil_eq.symm

/-! ## Failure -/

/-- A result of the transform that is on record is its result on a hit of the walk. -/
theorem Sound.exists_lost (sound : s.Sound transform walk) {ending : Except SearchError Unit}
    {result : Shaped α} (recorded : ending ∈ s.record) (noted : lost? ending = some result) :
    ∃ hit ∈ walk.hits, transform hit = result := by
  have listed : result ∈ s.results transform := mem_results_of_mem_record recorded noted
  exact List.mem_map.mp (sound.results_perm.mem_iff.mp listed)

/-- A failure of the backend on record is the one at which the walk breaks. -/
theorem Sound.failure?_eq_some (sound : s.Sound transform walk) {stage : Stage} {cause : Failure}
    (recorded : .error (.backend stage cause) ∈ s.record) : walk.failure? = some cause := by
  have listed : cause ∈ s.failures :=
    List.mem_append_right _ (List.mem_filterMap.mpr ⟨_, recorded, rfl⟩)
  exact Option.mem_toList.mp (sound.failures_perm.mem_iff.mp listed)

end State

/-! ## What is returned -/

section Request

variable {σ : Type} {backend : Backend σ} {request : ScrollRequest} {before : σ}
  [backend.Ends request before] {workers : Nat}
  {pages : List ScrollPage} {failure : Option Failure}

/-- What a stream returns was reached in a state in which everything holds
that holds throughout a stream. -/
private theorem exists_sound_of_returns {result : Except SearchError (List α)}
    (returned : Returns backend transform request before workers result) :
    ∃ s : State α, s.Sound transform (backend.walk request before).walk ∧
      s.outcome = some result := by
  rcases returned with ⟨actions, s, ran, given⟩
  exact ⟨s, State.sound_of_acts? ran, given⟩

private theorem returns_of_fetchAll_ok {schedule : Schedule α} {docs : List α}
    (fetched : (fetchAll backend transform workers schedule request before).1 = .ok docs) :
    Returns backend transform request before workers (.ok docs) := by
  by_cases fits : max 1 request.size ≤ channelLimit
  · rw [← fetched]
    exact returns_fetchAll backend transform request before workers fits schedule
  · have crashes : channelLimit < (initial backend request before workers : State α).capacity :=
      Nat.lt_of_not_le fits
    simp only [fetchAll, if_pos crashes] at fetched
    cases fetched

/-- The documents are what the transform makes of every hit of the pages, each
hit once, and no page is missing. -/
structure Delivers (transform : Transform α) (pages : List ScrollPage) (failure : Option Failure)
    (docs : List α) : Prop where
  unbroken : failure = none
  exactly_once : (docs.map Shaped.doc).Perm ((pages.flatMap ScrollPage.hits).map transform)

theorem delivers_of_returns (served : backend.Serves request before pages failure)
    {docs : List α} (returned : Returns backend transform request before workers (.ok docs)) :
    Delivers transform pages failure docs := by
  rcases exists_sound_of_returns returned with ⟨s, sound, succeeded⟩
  constructor
  · rw [← backend.failure?_walk_of_serves served]
    exact sound.failure?_eq_none succeeded
  · rw [← backend.hits_walk_of_serves served]
    exact sound.map_doc_perm succeeded

/-- A stream that returns documents returns every hit of every page once,
shaped by the transform, whatever the schedule. -/
theorem delivers_of_serves (served : backend.Serves request before pages failure)
    (docs : List α) :
    (Returns backend transform request before workers (.ok docs) →
        Delivers transform pages failure docs) ∧
      ∀ schedule, (fetchAll backend transform workers schedule request before).1 = .ok docs →
        Delivers transform pages failure docs := by
  constructor
  · intro returned
    exact delivers_of_returns served returned
  · intro schedule fetched
    exact delivers_of_returns served (returns_of_fetchAll_ok fetched)

/-- Two workers return the hits of two pages in the other order. -/
theorem delivers_twoPages :
    Delivers (fun hit => .doc hit.id) Backend.twoPages none ["b", "a"] := by
  have runs : ((initial Backend.scripted default (Backend.script Backend.twoPages none) 2).acts?
      (fun hit => .doc hit.id)
      [.call, .send, .listen 0, .receive 0, .call, .listen 1, .send, .receive 1, .finish,
        .shape 1, .deliver 1, .collect, .shape 0, .deliver 0, .listen 1, .leave 1, .join 0,
        .listen 0, .leave 0, .collect, .join 1, .join 0, .conclude]).map
        State.outcome = some (some (.ok ["b", "a"])) := by
    rw [initial, Backend.walk_twoPages]
    rfl
  rcases Option.map_eq_some_iff.mp runs with ⟨s, ran, returned⟩
  exact (delivers_of_serves (Backend.serves_script default Backend.isCursor_twoPages) _).1
    ⟨_, s, ran, returned⟩

/-! ## What happened -/

/-- The failures that can happen to a stream: that of the cursor at the end of
its pages, and those of the transform on the hits of the pages. -/
inductive Happens (transform : Transform α) (pages : List ScrollPage) (failure : Option Failure) :
    SearchError → Prop where
  | cursor {cause : Failure} (broken : failure = some cause) :
      Happens transform pages failure (.backend .scroll cause)
  | transform {page : ScrollPage} {hit : Hit} {cause : Failure} (served : page ∈ pages)
      (held : hit ∈ page.hits) (fails : transform hit = .failed cause) :
      Happens transform pages failure (.transform cause)
  | crash {page : ScrollPage} {hit : Hit} (served : page ∈ pages) (held : hit ∈ page.hits)
      (crashes : transform hit = .crashed) : Happens transform pages failure .crashed

/-- The result neither hides a failure nor makes one up. -/
structure Truthful (transform : Transform α) (pages : List ScrollPage) (failure : Option Failure)
    (result : Except SearchError (List α)) : Prop where
  ok_iff : (∃ docs, result = .ok docs) ↔
    failure = none ∧ ∀ page ∈ pages, ∀ hit ∈ page.hits, ∃ doc, transform hit = .doc doc
  happens : ∀ problem, result = .error problem → Happens transform pages failure problem

private theorem happens_of_returns (served : backend.Serves request before pages failure)
    {problem : SearchError}
    (returned : Returns backend transform request before workers (.error problem)) :
    Happens transform pages failure problem := by
  rcases exists_sound_of_returns returned with ⟨s, sound, failed⟩
  have recorded : .error problem ∈ s.record := by
    rw [State.record, failed]
    exact List.mem_cons_self
  have onPage (hit : Hit) (walked : hit ∈ (backend.walk request before).walk.hits) :
      ∃ page ∈ pages, hit ∈ page.hits := by
    rw [backend.hits_walk_of_serves served] at walked
    exact List.mem_flatMap.mp walked
  cases sound.known problem recorded with
  | backend cause =>
      apply Happens.cursor
      rw [← backend.failure?_walk_of_serves served]
      exact sound.failure?_eq_some recorded
  | transform cause =>
      rcases sound.exists_lost recorded rfl with ⟨hit, walked, fails⟩
      rcases onPage hit walked with ⟨page, listed, held⟩
      exact .transform listed held fails
  | crashed =>
      rcases sound.exists_lost recorded rfl with ⟨hit, walked, crashes⟩
      rcases onPage hit walked with ⟨page, listed, held⟩
      exact .crash listed held crashes

private theorem exists_doc_of_delivers {docs : List α}
    (delivered : Delivers transform pages failure docs) :
    ∀ page ∈ pages, ∀ hit ∈ page.hits, ∃ doc, transform hit = .doc doc := by
  intro page listed hit held
  have shaped : transform hit ∈ (pages.flatMap ScrollPage.hits).map transform :=
    List.mem_map_of_mem (List.mem_flatMap.mpr ⟨page, listed, held⟩)
  rcases List.mem_map.mp (delivered.exactly_once.mem_iff.mpr shaped) with ⟨doc, -, made⟩
  exact ⟨doc, made.symm⟩

private theorem not_happens {problem : SearchError} (unbroken : failure = none)
    (shapes : ∀ page ∈ pages, ∀ hit ∈ page.hits, ∃ doc, transform hit = .doc doc) :
    ¬ Happens transform pages failure problem := by
  intro happens
  cases happens with
  | cursor broken => cases unbroken.symm.trans broken
  | transform listed held fails =>
      rcases shapes _ listed _ held with ⟨doc, made⟩
      cases made.symm.trans fails
  | crash listed held crashes =>
      rcases shapes _ listed _ held with ⟨doc, made⟩
      cases made.symm.trans crashes

theorem truthful_of_returns (served : backend.Serves request before pages failure)
    {result : Except SearchError (List α)}
    (returned : Returns backend transform request before workers result) :
    Truthful transform pages failure result where
  ok_iff := by
    constructor
    · rintro ⟨docs, rfl⟩
      have delivered := delivers_of_returns served returned
      exact ⟨delivered.unbroken, exists_doc_of_delivers delivered⟩
    · rintro ⟨unbroken, shapes⟩
      cases result with
      | ok docs => exact ⟨docs, rfl⟩
      | error problem =>
          have happens := happens_of_returns served returned
          exact absurd happens (not_happens unbroken shapes)
  happens problem failed := by
    rw [failed] at returned
    exact happens_of_returns served returned

/-- A stream that can take no further step has returned, and no schedule hides
a failure or makes one up. -/
theorem truthful_of_serves (served : backend.Serves request before pages failure) :
    (∀ actions s, (initial backend request before workers).acts? transform actions = some s →
        (∀ action, ¬ s.Enabled transform action) →
        ∃ result, s.outcome = some result ∧ Truthful transform pages failure result) ∧
      (max 1 request.size ≤ channelLimit → ∀ schedule, Truthful transform pages failure
        (fetchAll backend transform workers schedule request before).1) := by
  constructor
  · intro actions s ran stuck
    cases returned : s.outcome with
    | some result => exact ⟨result, rfl, truthful_of_returns served ⟨actions, s, ran, returned⟩⟩
    | none =>
        rcases (State.sound_of_acts? ran).exists_enabled returned with ⟨action, -, enabled⟩
        exact absurd enabled (stuck action)
  · intro fits schedule
    exact truthful_of_returns served
      (returns_fetchAll backend transform request before workers fits schedule)

/-- The transform crashes on the hit of the second page. -/
theorem truthful_twoPages :
    Truthful (Transform.crashingOn "b") Backend.twoPages none (.error .crashed) := by
  have runs : ((initial Backend.scripted default (Backend.script Backend.twoPages none) 2).acts?
      (Transform.crashingOn "b")
      [.call, .send, .call, .listen 1, .receive 1, .listen 0, .send, .receive 0, .shape 0,
        .shape 1, .join 0]).map
        State.outcome = some (some (.error .crashed)) := by
    rw [initial, Backend.walk_twoPages]
    rfl
  rcases Option.map_eq_some_iff.mp runs with ⟨s, ran, returned⟩
  have served := Backend.serves_script default Backend.isCursor_twoPages
  have stuck (action : Action) : ¬ s.Enabled (Transform.crashingOn "b") action :=
    State.not_enabled_of_outcome returned action
  rcases (truthful_of_serves served).1 _ s ran stuck with ⟨result, given, truthful⟩
  cases given.symm.trans returned
  exact truthful

end Request

end Stream
end CriteriaSearch
