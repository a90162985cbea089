import CriteriaSearch.Proofs.Search.Agreement

namespace CriteriaSearch

/-!
# Batches that can be streamed

A request without a bounded window opens a cursor and says how many hits a batch
holds.  The number is the one that the request asks for if that is positive, and
the one of the settings if not.  Nothing else is done about it: settings are
accepted whatever their number is, and a request may ask for any number.

A cursor needs batches of one hit at least, and the channels of a stream are
made for as many hits as a batch holds, which must not be too many.  Outside of
these bounds the stream cannot do its work.  It crashes before its first call if
the batches are too large.  If they are empty, it succeeds without a document,
however many documents there are.
-/

namespace Paging

variable {paging : Paging} {default limit : Nat}

/-- The size of the batches lies within bounds if the number that counts does. -/
theorem effectiveBatchSize_within_iff :
    0 < paging.effectiveBatchSize default ∧ paging.effectiveBatchSize default ≤ limit ↔
      0 < paging.batchSize ∧ paging.batchSize ≤ limit ∨
        paging.batchSize ≤ 0 ∧ 0 < default ∧ default ≤ limit := by
  unfold effectiveBatchSize
  split <;> omega

end Paging

/-- Settings are accepted or refused without a look at the size of the batches. -/
theorem Settings.validate_streamBatchSize (settings : Settings) (size : Nat) :
    { settings with query.streamBatchSize := size }.validate = settings.validate := rfl

/-! ## Empty batches -/

/-- A cursor never starts with more hits than its batches hold. -/
def Backend.KeepsSize {σ : Type} (backend : Backend σ) : Prop :=
  ∀ request before page after, backend.scrollStart request before = (.ok page, after) →
    page.hits.length ≤ request.size

/-- An index over documents does so. -/
theorem MemoryIndex.keepsSize (index : MemoryIndex) (free : index.batches = none) :
    index.backend.KeepsSize := by
  intro request before page after opened
  simp only [backend, answer, batch, batchAt, free, batchFrom, window] at opened
  split at opened
  · cases opened
  · split at opened
    · cases opened
    · cases opened
      simp only [List.drop_zero, List.length_take, Nat.zero_add]
      omega

namespace Stream

variable {σ α : Type} {backend : Backend σ} {transform : Transform α} {request : ScrollRequest}
  {before : σ} [backend.Ends request before] {workers : Nat}
  {result : Except SearchError (List α)}

/-- A stream whose cursor cannot be opened fails with the backend. -/
theorem eq_error_of_refused {cause : Failure} {after : σ}
    (refused : backend.scrollStart request before = (.error cause, after))
    (returned : Returns backend transform request before workers result) :
    result = .error (.backend .scroll cause) := by
  have served : backend.Serves request before [] (some cause) := by
    rw [Backend.Serves, refused]
    exact .failed cause after
  have truthful := truthful_of_returns served returned
  cases result with
  | ok docs => cases (truthful.ok_iff.mp ⟨docs, rfl⟩).1
  | error problem =>
      cases truthful.happens problem rfl with
      | cursor broken => rw [Option.some.inj broken]
      | transform listed | crash listed => cases listed

/-- A stream of empty batches ends with the first one and returns no document. -/
theorem eq_nil_of_opened (keeps : backend.KeepsSize) (empty : request.size = 0)
    {page : ScrollPage} {after : σ}
    (opened : backend.scrollStart request before = (.ok page, after))
    (returned : Returns backend transform request before workers result) :
    result = .ok [] := by
  have hitless : page.hits = [] := by
    have few := keeps request before page after opened
    rw [empty] at few
    exact List.length_eq_zero_iff.mp (Nat.le_zero.mp few)
  have served : backend.Serves request before [page] none := by
    rw [Backend.Serves, opened]
    exact .last after (Or.inl hitless)
  have succeeds : ∃ docs, result = .ok docs := by
    refine (truthful_of_returns served returned).ok_iff.mpr ⟨rfl, ?_⟩
    intro other listed hit held
    rw [List.mem_singleton.mp listed, hitless] at held
    cases held
  rcases succeeds with ⟨docs, rfl⟩
  have delivered := (delivers_of_returns served returned).exactly_once
  rw [List.flatMap_singleton, hitless, List.map_nil, List.perm_nil,
    List.map_eq_nil_iff] at delivered
  rw [delivered]

theorem eq_error_or_eq_nil_of_empty (keeps : backend.KeepsSize) (empty : request.size = 0)
    (returned : Returns backend transform request before workers result) :
    (∃ cause, result = .error (.backend .scroll cause)) ∨ result = .ok [] := by
  cases opened : backend.scrollStart request before with
  | mk answer after =>
      cases answer with
      | error cause => exact Or.inl ⟨cause, eq_error_of_refused opened returned⟩
      | ok page => exact Or.inr (eq_nil_of_opened keeps empty opened returned)

end Stream

namespace Search

variable {σ : Type} {search : Search σ} {paging : Paging} {query : BoolQuery}

private theorem exists_compile (known : ∀ zone,
      paging.zoneName? search.settings.defaultTimeZone = some zone → zone ∈ TimeZone.names) :
    ∃ query, search.compile paging = .ok query := by
  rcases paging.exists_compile_eq_ok search.settings.defaultTimeZone search.localZone
    search.settings.compiler known with ⟨query, zoned⟩
  exact ⟨query, by rw [compile, zoned]; rfl⟩

private theorem exists_compile_of_unnamed
    (unnamed : paging.zoneName? search.settings.defaultTimeZone = none) :
    ∃ query, search.compile paging = .ok query := by
  refine exists_compile fun zone named => ?_
  rw [unnamed] at named
  cases named

/-! ## What a stream does with the size of its batches -/

/-- The first call opens a cursor with batches of one hit at least, and the
channels of the stream have room for a batch. -/
def OpensCursor (made : List Backend.Call) : Prop :=
  ∃ request further, made = .scrollStart request :: further ∧
    1 ≤ request.size ∧ max 1 request.size ≤ Stream.channelLimit

/-- The calls of a stream open a cursor that works if a batch is not empty. -/
private theorem opensCursor_iff_of_fetches {made : List Backend.Call}
    (unbounded : paging.isUnbounded search.settings.maxPageWindow = true)
    (streams : search.Streams paging) (fetches : search.Fetches paging query made) :
    OpensCursor made ↔ 0 < paging.effectiveBatchSize search.settings.streamBatchSize := by
  rw [Fetches, if_pos unbounded] at fetches
  rcases fetches with ⟨scrollIds, rfl⟩
  constructor
  · rintro ⟨request, further, first, filled, -⟩
    cases first
    exact filled
  · intro filled
    have single : 1 ≤ Stream.channelLimit := by decide
    exact ⟨_, _, rfl, filled, Nat.max_le.mpr ⟨single, streams⟩⟩

variable (search) [search.backend.Finite] (paging) (before : σ)

/-- Pages and lists of the request open a cursor that works. -/
structure Opens : Prop where
  page : OpensCursor (search.watched.page paging (before, [])).2.2
  list : ∀ {α : Type} (transform : Transform α),
    OpensCursor (search.watched.listWith transform paging (before, [])).2.2

/-- Pages and lists of the request crash, and there has been no call. -/
structure Crashes : Prop where
  page : search.watched.page paging (before, []) = (.error .crashed, before, [])
  list : ∀ {α : Type} (transform : Transform α),
    search.watched.listWith transform paging (before, []) = (.error .crashed, before, [])

/-- Pages and lists of the request hold nothing, unless the backend fails. -/
structure FindsNothing : Prop where
  page : (∃ cause, (search.page paging before).1 = .error (.backend .scroll cause)) ∨
    (search.page paging before).1 = .ok (Page.streamed [])
  list : ∀ {α : Type} (transform : Transform α),
    (∃ cause, (search.listWith transform paging before).1 = .error (.backend .scroll cause)) ∨
      (search.listWith transform paging before).1 = .ok []

variable {search paging before}

theorem opens_iff_of_streams (compiled : search.compile paging = .ok query)
    (unbounded : paging.isUnbounded search.settings.maxPageWindow = true)
    (streams : search.Streams paging) :
    search.Opens paging before ↔
      0 < paging.effectiveBatchSize search.settings.streamBatchSize := by
  have paged : OpensCursor (search.watched.page paging (before, [])).2.2 ↔
      0 < paging.effectiveBatchSize search.settings.streamBatchSize := by
    rcases page_watched before [] compiled streams with ⟨made, fetches, watched⟩
    rw [watched]
    exact opensCursor_iff_of_fetches unbounded streams fetches
  refine ⟨fun opens => paged.mp opens.page, fun filled => ⟨paged.mpr filled, ?_⟩⟩
  intro α transform
  rcases listWith_watched before [] compiled streams transform with ⟨made, fetches, watched⟩
  rw [watched]
  exact (opensCursor_iff_of_fetches unbounded streams fetches).mpr filled

private theorem fetchAll_of_not_streams {α : Type} (large : ¬ search.Streams paging)
    (transform : Transform α) :
    search.fetchAll transform (scrollRequest search.settings paging query) before =
      (.error .crashed, before) := by
  have crashes : Stream.channelLimit <
      max 1 (paging.effectiveBatchSize search.settings.streamBatchSize) :=
    Nat.lt_of_lt_of_le (Nat.lt_of_not_le large) (Nat.le_max_right _ _)
  rw [fetchAll, Stream.fetchAll]
  exact if_pos crashes

theorem crashes_of_not_streams (compiled : search.compile paging = .ok query)
    (unbounded : paging.isUnbounded search.settings.maxPageWindow = true)
    (large : ¬ search.Streams paging) : search.Crashes paging before := by
  have compiled' : search.watched.compile paging = .ok query := compiled
  have unbounded' : paging.isUnbounded search.watched.settings.maxPageWindow = true := unbounded
  have large' : ¬ search.watched.Streams paging := large
  constructor
  · simp only [page, compiled', unbounded', if_true, fetchAll_of_not_streams large']
    rfl
  · intro α transform
    simp only [listWith, compiled', unbounded', if_true, fetchAll_of_not_streams large']

theorem not_opens_of_crashes (crashes : search.Crashes paging before) :
    ¬ search.Opens paging before := by
  intro opens
  rcases opens.page with ⟨request, further, first, -⟩
  rw [crashes.page] at first
  cases first

theorem findsNothing_of_empty (compiled : search.compile paging = .ok query)
    (unbounded : paging.isUnbounded search.settings.maxPageWindow = true)
    (empty : paging.effectiveBatchSize search.settings.streamBatchSize = 0)
    (keeps : search.backend.KeepsSize) : search.FindsNothing paging before := by
  have fits : max 1 (paging.effectiveBatchSize search.settings.streamBatchSize) ≤
      Stream.channelLimit := by
    rw [empty]
    decide
  have fetched {α : Type} (transform : Transform α) :=
    Stream.eq_error_or_eq_nil_of_empty keeps empty
      (Stream.returns_fetchAll search.backend transform
        (scrollRequest search.settings paging query) before search.settings.streamWorkers fits
        (search.schedule α))
  constructor
  · simp only [page, compiled, unbounded, if_true]
    rcases fetched Transform.sourceWithId with ⟨cause, refused⟩ | nothing
    · exact Or.inl ⟨cause, congrArg (Except.map Page.streamed) refused⟩
    · exact Or.inr (congrArg (Except.map Page.streamed) nothing)
  · intro α transform
    simp only [listWith, compiled, unbounded, if_true]
    exact fetched transform

/-- Whether a stream can do its work depends on the one number that counts: on
that of the request if it is positive, and on that of the settings if not.  The
cursor works if the number is neither zero nor too large for a channel.  If it
is too large, the stream crashes, and if it is zero, nothing is found. -/
theorem opens_iff_within_bounds (search : Search σ) [search.backend.Finite] (paging : Paging)
    (before : σ)
    (known : ∀ zone, paging.zoneName? search.settings.defaultTimeZone = some zone →
      zone ∈ TimeZone.names)
    (unbounded : paging.isUnbounded search.settings.maxPageWindow = true) :
    (search.Opens paging before ↔
      0 < paging.batchSize ∧ paging.batchSize ≤ Stream.channelLimit ∨
        paging.batchSize ≤ 0 ∧ 0 < search.settings.streamBatchSize ∧
          search.settings.streamBatchSize ≤ Stream.channelLimit) ∧
      (Stream.channelLimit < paging.effectiveBatchSize search.settings.streamBatchSize →
        search.Crashes paging before) ∧
      (paging.effectiveBatchSize search.settings.streamBatchSize = 0 →
        search.backend.KeepsSize → search.FindsNothing paging before) := by
  rcases exists_compile known with ⟨query, compiled⟩
  refine ⟨?_, ?_, findsNothing_of_empty compiled unbounded⟩
  · rw [← Paging.effectiveBatchSize_within_iff]
    by_cases streams : search.Streams paging
    · rw [opens_iff_of_streams compiled unbounded streams]
      exact (and_iff_left streams).symm
    · have crashes : search.Crashes paging before :=
        crashes_of_not_streams compiled unbounded streams
      exact iff_of_false (not_opens_of_crashes crashes) fun within => streams within.2
  · exact fun large => crashes_of_not_streams compiled unbounded (Nat.not_le_of_lt large)

/-- Batches of two documents work, larger ones than a channel can hold do not,
and empty ones bring no document. -/
theorem opens_iff_within_bounds_index :
    let index : MemoryIndex := { docs := [{ id := "a" }], total := 1 }
    let search (streamBatchSize : Nat) : Search MemoryIndex.State :=
      { backend := index.backend, settings := { streamBatchSize }, localZone := "UTC" }
    let large : Paging := { batchSize := 2305843009213693952 }
    (search 0).Opens { batchSize := 2 } {} ∧ (search 1).Crashes large {} ∧
      (search 0).FindsNothing { batchSize := -1 } {} := by
  intro index search large
  refine ⟨?_, ?_, ?_⟩
  · exact (opens_iff_within_bounds (search 0) { batchSize := 2 } {} nofun (by decide)).1.mpr
      (Or.inl (by decide))
  · exact (opens_iff_within_bounds (search 1) large {} nofun (by decide)).2.1 (by decide)
  · exact (opens_iff_within_bounds (search 0) { batchSize := -1 } {} nofun (by decide)).2.2
      (by decide) (index.keepsSize rfl)

/-- Settings with empty batches are accepted, and a request without a batch size
of its own is then told that an index with a document has none.  Under default
settings, a request for batches that no channel can hold is decoded, and then
the stream crashes. -/
theorem accepted_batches_do_not_work :
    let settings : Settings := {
      backend := { urls := ["http://[::1]:9200"], index := "docs" }
      query := { streamBatchSize := 0 } }
    let index : MemoryIndex := { docs := [{ id := "a" }], total := 1 }
    let search (settings : QuerySettings) : Search MemoryIndex.State :=
      { backend := index.backend, settings, localZone := "UTC" }
    let large : Paging := { batchSize := 2305843009213693952 }
    settings.validate = .ok () ∧
      Decode.fromText Paging.decode "\x7b\x7d" = .ok {} ∧
      Paging.isUnbounded {} settings.query.maxPageWindow = true ∧
      (∀ query, (scrollRequest settings.query {} query).size = 0) ∧
      ((search settings.query).list {} {}).1 = .ok [] ∧
      { settings with query := {} }.validate = .ok () ∧
      Decode.fromText Paging.decode "\x7b\"streamBatchSize\":2305843009213693952\x7d" =
        .ok large ∧
      large.isUnbounded ({} : QuerySettings).maxPageWindow = true ∧
      (search {}).Crashes large {} := by
  intro settings index search large
  have valid : { settings with query := {} }.validate = .ok () := by decide +kernel
  refine ⟨(Settings.validate_streamBatchSize _ 0).trans valid, rfl, by decide, fun _ => rfl, ?_,
    valid, rfl, by decide, ?_⟩
  · have zoned : ∃ query, (search settings.query).compile {} = .ok query :=
      exists_compile_of_unnamed rfl
    rcases zoned with ⟨query, compiled⟩
    have fits : max 1 0 ≤ Stream.channelLimit := by decide
    have returned := Stream.returns_fetchAll index.backend Transform.sourceWithId
      (scrollRequest settings.query {} query) {} settings.query.streamWorkers fits fun _ => []
    simp only [list, listWith, compiled]
    exact Stream.eq_nil_of_opened (index.keepsSize rfl) rfl rfl returned
  · have zoned : ∃ query, (search {}).compile large = .ok query :=
      exists_compile_of_unnamed rfl
    rcases zoned with ⟨query, compiled⟩
    have exceeds : Stream.channelLimit < large.effectiveBatchSize Paging.defaultBatchSize := by
      decide
    exact crashes_of_not_streams compiled (by decide) (Nat.not_le_of_lt exceeds)

end Search

end CriteriaSearch
