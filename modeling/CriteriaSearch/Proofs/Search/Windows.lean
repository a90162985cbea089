import CriteriaSearch.Backend.Memory
import CriteriaSearch.Proofs.Search.PageNumbers
import CriteriaSearch.Proofs.Search.Shaping

namespace CriteriaSearch

/-!
# Going from page to page

A caller who starts at the front and asks for the next window as long as there
is a next page sees every document once.  On the side of the pages this rests
on their numbers: the window at `k * n` is page `k + 1`, and it has a next page
exactly if documents are left behind it.  On the side of the backend it is
assumed that all searches are answered from one list of documents.

The walk is one induction over the number of pages that may still be to come.
What is carried along is what the rest of the walk visits, namely the documents
behind the current position.
-/

/-! ## The documents of a window -/

/-- The backend answers every bounded search from one list of documents: all of
them match, and a search gets those at the positions of its window. -/
def Backend.Holds {σ : Type} (backend : Backend σ) (docs : List Hit) : Prop :=
  ∀ request before, (backend.search request before).1 = .ok {
    total := UInt64.ofNat docs.length
    hits := MemoryIndex.window docs request.start
      (min (request.start + request.size) docs.length) }

theorem MemoryIndex.holds (index : MemoryIndex) (willing : index.refuses = [])
    (total : index.total = UInt64.ofNat index.docs.length) : index.backend.Holds index.docs := by
  intro request before
  simp only [backend, answer, willing, List.contains_nil, Bool.false_eq_true, if_false, total]

theorem MemoryIndex.window_append_drop (docs : List Hit) (start size : Nat) :
    window docs start (min (start + size) docs.length) ++ docs.drop (start + size) =
      docs.drop start := by
  have cut : docs.take (min (start + size) docs.length) = docs.take (start + size) :=
    List.take_eq_take_min.symm
  rw [window, cut, List.drop_take, Nat.add_sub_cancel_left, ← List.drop_drop,
    List.take_append_drop]

namespace Search

variable {σ : Type} {search : Search σ} {paging : Paging} {docs : List Hit} {size : Nat}

/-- The pages that are seen from a position on, each one fetched from the state
that the one before has left. -/
inductive Follows (search : Search σ) [search.backend.Finite] (paging : Paging) (size : Nat) :
    Nat → σ → List (Page Json) → Prop where
  | last {skip : Nat} {before after : σ} {page : Page Json}
      (fetched : search.page (paging.withWindow skip size) before = (.ok page, after))
      (final : page.hasNextPage = false) : Follows search paging size skip before [page]
  | more {skip : Nat} {before after : σ} {page : Page Json} {pages : List (Page Json)}
      (fetched : search.page (paging.withWindow skip size) before = (.ok page, after))
      (next : page.hasNextPage = true)
      (further : Follows search paging size (skip + size) after pages) :
      Follows search paging size skip before (page :: pages)

/-- A caller sees one sequence of pages at most. -/
theorem Follows.unique [search.backend.Finite] {skip : Nat} {before : σ}
    {pages others : List (Page Json)}
    (seen : search.Follows paging size skip before pages)
    (seen' : search.Follows paging size skip before others) : pages = others := by
  induction seen generalizing others with
  | last fetched final =>
      cases seen' with
      | last fetched' _ =>
          cases fetched.symm.trans fetched'
          rfl
      | more fetched' next _ =>
          cases fetched.symm.trans fetched'
          cases final.symm.trans next
  | more fetched next _ ih =>
      cases seen' with
      | last fetched' final =>
          cases fetched.symm.trans fetched'
          cases final.symm.trans next
      | more fetched' _ further' =>
          cases fetched.symm.trans fetched'
          rw [ih further']

/-- The pages hold the given documents, in windows of one size, and count on
from a number: as many pages as it takes, and one if there are no documents. -/
structure Visits (docs : List Hit) (size number : Nat) (pages : List (Page Json)) : Prop where
  length : pages.length = max 1 ((docs.length + size - 1) / size)
  numbered : ∀ index page, pages[index]? = some page → page.page.toNat = number + index
  docs : pages.flatMap Page.docs = docs.map Hit.identified

/-- A caller who asks for windows of `size` documents one after the other. -/
structure Walks (search : Search σ) (paging : Paging) (docs : List Hit) (size : Nat) : Prop where
  held : search.backend.Holds docs
  objects : ∀ hit ∈ docs, hit.IsObject
  positive : 1 ≤ size
  within : (size : Int) ≤ search.settings.maxPageWindow
  small : docs.length + size < 9223372036854775808
  known : ∀ zone, paging.zoneName? search.settings.defaultTimeZone = some zone →
    zone ∈ TimeZone.names

theorem fetchPage_of_holds (held : search.backend.Holds docs)
    (objects : ∀ hit ∈ docs, hit.IsObject) (request : SearchRequest) (before : σ) :
    search.fetchPage Transform.sourceWithId request before =
      (.ok (UInt64.ofNat docs.length, (MemoryIndex.window docs request.start
        (min (request.start + request.size) docs.length)).map Hit.identified),
        (search.backend.search request before).2) := by
  have windowed : ∀ hit ∈ MemoryIndex.window docs request.start
      (min (request.start + request.size) docs.length), hit.IsObject := by
    intro hit among
    exact objects hit (List.mem_of_mem_take (List.mem_of_mem_drop among))
  rw [fetchPage_of_answered (Prod.ext (held request before) rfl),
    Transform.all_sourceWithId windowed]
  rfl

namespace Walks

/-- The page number and the mark for a next page of the window at a multiple of
its size. -/
theorem numbers (walks : search.Walks paging docs size) {place : Nat}
    (placed : place = 0 ∨ place * size < docs.length) (shaped : List Json) :
    let page := Page.ofWindow (UInt64.ofNat (place * size)) (UInt64.ofNat size)
      (UInt64.ofNat docs.length) shaped
    page.page.toNat = place + 1 ∧
      (page.hasNextPage = true ↔ place * size + size < docs.length) := by
  have positive := walks.positive
  have small := walks.small
  have reached : place * size < 9223372036854775808 := by
    rcases placed with rfl | inside
    · omega
    · omega
  have skipWord : (UInt64.ofNat (place * size)).toNat = place * size :=
    UInt64.toNat_ofNat_of_lt' (by rw [UInt64.size]; omega)
  have sizeWord : (UInt64.ofNat size).toNat = size :=
    UInt64.toNat_ofNat_of_lt' (by rw [UInt64.size]; omega)
  have totalWord : (UInt64.ofNat docs.length).toNat = docs.length :=
    UInt64.toNat_ofNat_of_lt' (by rw [UInt64.size]; omega)
  intro page
  have located : page.Locates (UInt64.ofNat (place * size)).toNat (UInt64.ofNat size).toNat
      (UInt64.ofNat docs.length).toNat :=
    Page.locates_ofWindow (sizeWord.symm ▸ positive) (skipWord.symm ▸ reached) shaped
  rw [skipWord, sizeWord, totalWord] at located
  constructor
  · rw [located.number, Nat.mul_div_cancel place positive]
  · exact located.aligned (Nat.dvd_mul_left size place)

/-- The page that is fetched at a multiple of the size. -/
theorem exists_page [search.backend.Finite] (walks : search.Walks paging docs size) {place : Nat}
    (placed : place = 0 ∨ place * size < docs.length) (before : σ) :
    ∃ page after,
      search.page (paging.withWindow (place * size : Nat) size) before = (.ok page, after) ∧
      page.page.toNat = place + 1 ∧
      (page.hasNextPage = true ↔ place * size + size < docs.length) ∧
      page.docs = (MemoryIndex.window docs (place * size)
        (min (place * size + size) docs.length)).map Hit.identified := by
  let request := paging.withWindow (place * size : Nat) size
  rcases request.exists_compile_eq_ok search.settings.defaultTimeZone search.localZone
    search.settings.compiler walks.known with ⟨query, compiled⟩
  have compiled' : search.compile request = .ok query := by
    rw [compile, compiled]
    rfl
  have bounded : request.isUnbounded search.settings.maxPageWindow = false :=
    Paging.isUnbounded_eq_false_iff.mpr ⟨Int.natCast_nonneg size, walks.within⟩
  have fetched := page_of_bounded compiled' bounded before
  rw [fetchPage_of_holds walks.held walks.objects] at fetched
  rcases walks.numbers placed ((MemoryIndex.window docs (place * size)
    (min (place * size + size) docs.length)).map Hit.identified) with ⟨numbered, next⟩
  exact ⟨_, _, fetched, numbered, next, rfl⟩

end Walks

/-! ## The whole walk -/

theorem Visits.single (positive : 1 ≤ size) (fits : docs.length ≤ size) {page : Page Json}
    {number : Nat} (numbered : page.page.toNat = number)
    (held : page.docs = docs.map Hit.identified) : Visits docs size number [page] where
  length := by
    have single : (docs.length + size - 1) / size ≤ 1 := by
      rw [Nat.div_le_iff_le_mul_add_pred positive]
      omega
    rw [Nat.max_eq_left single, List.length_singleton]
  numbered index other listed := by
    cases index with
    | zero =>
        cases listed
        exact numbered
    | succ index => cases listed
  docs := by rw [List.flatMap_singleton, held]

theorem Visits.cons {front rest : List Hit} (positive : 1 ≤ size) (split : docs = front ++ rest)
    (full : front.length = size) (left : rest ≠ []) {page : Page Json}
    {pages : List (Page Json)} {number : Nat} (numbered : page.page.toNat = number)
    (held : page.docs = front.map Hit.identified)
    (visits : Visits rest size (number + 1) pages) : Visits docs size number (page :: pages) where
  length := by
    have some_left := List.length_pos_iff.mpr left
    have more : 1 ≤ (rest.length + size - 1) / size :=
      (Nat.le_div_iff_mul_le positive).mpr (by omega)
    have whole : docs.length + size - 1 = rest.length + size - 1 + size := by
      rw [split, List.length_append, full]
      omega
    rw [List.length_cons, visits.length, whole, Nat.add_div_right _ positive]
    omega
  numbered index other listed := by
    cases index with
    | zero =>
        cases listed
        exact numbered
    | succ index =>
        rw [visits.numbered index other listed]
        omega
  docs := by rw [List.flatMap_cons, held, visits.docs, split, List.map_append]

namespace Walks

variable [search.backend.Finite]

private theorem exists_last (walks : search.Walks paging docs size) {place : Nat}
    (placed : place = 0 ∨ place * size < docs.length)
    (beyond : docs.length ≤ place * size + size) (before : σ) :
    ∃ pages, search.Follows paging size (place * size) before pages ∧
      Visits (docs.drop (place * size)) size (place + 1) pages := by
  rcases walks.exists_page placed before with ⟨page, after, fetched, numbered, next, held⟩
  have final : page.hasNextPage = false := by
    rw [← Bool.not_eq_true, next]
    omega
  have nothing : docs.drop (place * size + size) = [] := List.drop_eq_nil_of_le beyond
  have whole := MemoryIndex.window_append_drop docs (place * size) size
  rw [nothing, List.append_nil] at whole
  have fits : (docs.drop (place * size)).length ≤ size := by
    rw [List.length_drop]
    omega
  rw [whole] at held
  exact ⟨[page], .last fetched final, Visits.single walks.positive fits numbered held⟩

-- The induction is on how many documents there is room for behind the window.
theorem exists_follows (walks : search.Walks paging docs size) (room : Nat) :
    ∀ (place : Nat) (before : σ), place = 0 ∨ place * size < docs.length →
      docs.length ≤ place * size + size + room →
      ∃ pages, search.Follows paging size (place * size) before pages ∧
        Visits (docs.drop (place * size)) size (place + 1) pages := by
  have positive := walks.positive
  induction room with
  | zero =>
      intro place before placed enough
      exact walks.exists_last placed enough before
  | succ room ih =>
      intro place before placed enough
      by_cases beyond : docs.length ≤ place * size + size
      · exact walks.exists_last placed beyond before
      · have advance : (place + 1) * size = place * size + size := by
          rw [Nat.add_mul, Nat.one_mul]
        rcases walks.exists_page placed before with ⟨page, after, fetched, numbered, next, held⟩
        rcases ih (place + 1) after (Or.inr (by omega)) (by omega) with ⟨pages, further, visits⟩
        rw [advance] at further visits
        have left : docs.drop (place * size + size) ≠ [] := by
          rw [ne_eq, List.drop_eq_nil_iff]
          exact beyond
        have split := (MemoryIndex.window_append_drop docs (place * size) size).symm
        have full : (MemoryIndex.window docs (place * size)
            (min (place * size + size) docs.length)).length = size := by
          rw [MemoryIndex.window, List.length_drop, List.length_take]
          omega
        exact ⟨page :: pages, .more fetched (next.mpr (by omega)) further,
          Visits.cons positive split full left numbered held visits⟩

end Walks

/-- A caller who starts at the front and goes on as long as there is a next
page sees one sequence of pages, and these hold every document once and in
order. -/
theorem every_document_is_visited [search.backend.Finite]
    (walks : search.Walks paging docs size) (before : σ) :
    ∃ pages, (∀ others, search.Follows paging size 0 before others ↔ others = pages) ∧
      Visits docs size 1 pages := by
  rcases walks.exists_follows docs.length 0 before (Or.inl rfl) (by omega) with
    ⟨pages, follows, visits⟩
  rw [Nat.zero_mul] at follows visits
  rw [List.drop_zero] at visits
  refine ⟨pages, fun others => ⟨fun seen => seen.unique follows, ?_⟩, visits⟩
  rintro rfl
  exact follows

/-- Three documents in windows of two; the last one has no source. -/
theorem every_document_is_visited_twice :
    let index : MemoryIndex := {
      docs := [{ id := "a", source := .obj [("_id", .null), ("n", .bool true)] },
        { id := "b", source := .obj [] }, { id := "c" }]
      total := 3 }
    let search : Search MemoryIndex.State := { backend := index.backend, localZone := "UTC" }
    ∃ pages, (∀ others, search.Follows { limit := -1 } 2 0 {} others ↔ others = pages) ∧
      Visits index.docs 2 1 pages := by
  intro index search
  have walks : search.Walks { limit := -1 } index.docs 2 := {
    held := index.holds rfl rfl
    objects := by
      intro hit listed
      simp only [index, List.mem_cons, List.not_mem_nil, or_false] at listed
      rcases listed with rfl | rfl | rfl
      · exact Or.inr ⟨_, rfl⟩
      · exact Or.inr ⟨_, rfl⟩
      · exact Or.inl rfl
    positive := by decide
    within := by decide
    small := by decide
    known := nofun }
  exact every_document_is_visited walks {}

end Search

end CriteriaSearch
