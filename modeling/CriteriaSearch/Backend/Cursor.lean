import CriteriaSearch.Backend.Basic

/-!
# Cursors

A cursor is read from its opening on, each call handing back the handle that came with the page
before, until a page holds no hits, a page comes without a handle, or a call fails.  `Serves` says
what pages a cursor brings.

A backend may go on with new handles forever, so it has to be said of a cursor that it comes to an
end.  The answers along a cursor that does so form a finite value, a `Walk`.
-/

namespace CriteriaSearch

namespace Backend

variable {σ : Type} (backend : Backend σ)

/-- The pages that a cursor brings, from a given answer on, and the failure at which it breaks, if
it does. -/
inductive ServesFrom (keepAlive : String) :
    Answer ScrollPage × σ → List ScrollPage → Option Failure → Prop where
  /-- The call fails, and there is no page. -/
  | failed (cause : Failure) (after : σ) :
      ServesFrom keepAlive (.error cause, after) [] (some cause)
  /-- The page holds no hits or has no handle, and it is the last one. -/
  | last {page : ScrollPage} (after : σ) (final : page.hits = [] ∨ page.scrollId = none) :
      ServesFrom keepAlive (.ok page, after) [page] none
  /-- The page has hits and a handle, and the next call carries the handle. -/
  | more {page : ScrollPage} {after : σ} {scrollId : String} {pages : List ScrollPage}
      {failure : Option Failure} (filled : page.hits ≠ [])
      (handle : page.scrollId = some scrollId)
      (further : ServesFrom keepAlive (backend.scrollNext scrollId keepAlive after) pages failure) :
      ServesFrom keepAlive (.ok page, after) (page :: pages) failure

/-- The pages that the cursor of a request brings, and the failure at which it breaks, if it
does. -/
def Serves (request : ScrollRequest) (before : σ) (pages : List ScrollPage)
    (failure : Option Failure) : Prop :=
  backend.ServesFrom request.keepAlive (backend.scrollStart request before) pages failure

/-- A cursor brings finitely many pages from a given answer on. -/
def EndsFrom (keepAlive : String) (answer : Answer ScrollPage × σ) : Prop :=
  ∃ pages failure, backend.ServesFrom keepAlive answer pages failure

/-- The cursor of a request comes to an end. -/
class Ends (request : ScrollRequest) (before : σ) : Prop where
  endsFrom : backend.EndsFrom request.keepAlive (backend.scrollStart request before)

/-- Every cursor of the backend comes to an end. -/
class Finite : Prop where
  ends : ∀ request before, backend.Ends request before

instance [backend.Finite] (request : ScrollRequest) (before : σ) : backend.Ends request before :=
  Finite.ends request before

variable {backend} {keepAlive : String} {page : ScrollPage} {after : σ}

/-- A page with hits and a handle is not the last one. -/
theorem ServesFrom.exists_further {scrollId : String} {pages : List ScrollPage}
    {failure : Option Failure} (filled : page.hits ≠ []) (handle : page.scrollId = some scrollId)
    (served : backend.ServesFrom keepAlive (.ok page, after) pages failure) :
    ∃ rest, pages = page :: rest ∧
      backend.ServesFrom keepAlive (backend.scrollNext scrollId keepAlive after) rest failure := by
  cases served with
  | last _ final =>
      rcases final with empty | missing
      · exact absurd empty filled
      · cases handle.symm.trans missing
  | more _ handle' further =>
      cases handle.symm.trans handle'
      exact ⟨_, rfl, further⟩

/-- The pages of a cursor are determined by its answers. -/
theorem ServesFrom.unique {answer : Answer ScrollPage × σ} {pages others : List ScrollPage}
    {failure other : Option Failure} (served : backend.ServesFrom keepAlive answer pages failure)
    (served' : backend.ServesFrom keepAlive answer others other) :
    pages = others ∧ failure = other := by
  induction served generalizing others other with
  | failed cause after =>
      cases served'
      exact ⟨rfl, rfl⟩
  | last after final =>
      cases served' with
      | last => exact ⟨rfl, rfl⟩
      | more filled handle _ =>
          rcases final with empty | missing
          · exact absurd empty filled
          · cases handle.symm.trans missing
  | more filled handle _ ih =>
      rcases served'.exists_further filled handle with ⟨rest, rfl, further⟩
      rcases ih further with ⟨rfl, rfl⟩
      exact ⟨rfl, rfl⟩

namespace EndsFrom

theorem further {scrollId : String} (ends : backend.EndsFrom keepAlive (.ok page, after))
    (filled : page.isExhausted = false) (handle : page.scrollId = some scrollId) :
    backend.EndsFrom keepAlive (backend.scrollNext scrollId keepAlive after) := by
  rcases ends with ⟨pages, failure, served⟩
  rcases served.exists_further (List.isEmpty_eq_false_iff.mp filled) handle with ⟨rest, -, served⟩
  exact ⟨rest, failure, served⟩

/-- How many pages the cursor brings. -/
noncomputable def pageCount {answer : Answer ScrollPage × σ}
    (ends : backend.EndsFrom keepAlive answer) : Nat :=
  ends.choose.length

/-- Behind a page there is one page less to come. -/
theorem pageCount_further {scrollId : String} (ends : backend.EndsFrom keepAlive (.ok page, after))
    (filled : page.isExhausted = false) (handle : page.scrollId = some scrollId) :
    ends.pageCount = (ends.further filled handle).pageCount + 1 := by
  rcases ends.choose_spec with ⟨failure, served⟩
  rcases (ends.further filled handle).choose_spec with ⟨later, served'⟩
  rcases served.exists_further (List.isEmpty_eq_false_iff.mp filled) handle with
    ⟨rest, pages, further⟩
  rw [pageCount, pageCount, pages, (further.unique served').1, List.length_cons]

end EndsFrom

end Backend

/-- The answers along a cursor, from some call on. -/
inductive Walk where
  /-- The call fails. -/
  | failed (cause : Failure)
  /-- The call brings a page after which the cursor is not read any further. -/
  | last (hits : List Hit)
  /-- The call brings a page with hits and the handle for the next call. -/
  | more (hits : List Hit) (scrollId : String) (next : Walk)
  deriving Inhabited

/-- A walk together with the states of the backend after each of its calls. -/
structure TracedWalk (σ : Type) where
  walk : Walk
  states : List σ

namespace TracedWalk

variable {σ : Type}

/-- The walk that a failed call makes. -/
def failed (cause : Failure) (after : σ) : TracedWalk σ :=
  ⟨.failed cause, [after]⟩

/-- The walk that a page makes, given the walk that follows where the cursor is read on. -/
def ofPage (page : ScrollPage) (after : σ)
    (further : (next : String) → page.isExhausted = false → page.scrollId = some next →
      TracedWalk σ) : TracedWalk σ :=
  match handle : page.scrollId with
  | none => ⟨.last page.hits, [after]⟩
  | some next =>
    match filled : page.isExhausted with
    | true => ⟨.last page.hits, [after]⟩
    | false =>
      let rest := further next filled handle
      ⟨.more page.hits next rest.walk, after :: rest.states⟩

end TracedWalk

namespace Backend

variable {σ : Type} (backend : Backend σ)

/-- The walk along a cursor that ends, from a given answer on. -/
def walkFrom (keepAlive : String) :
    (answer : Answer ScrollPage × σ) → backend.EndsFrom keepAlive answer → TracedWalk σ
  | (.error cause, after), _ => .failed cause after
  | (.ok page, after), ends =>
    .ofPage page after fun next filled handle =>
      walkFrom keepAlive (backend.scrollNext next keepAlive after) (ends.further filled handle)
termination_by _ ends => ends.pageCount
decreasing_by
  rw [ends.pageCount_further filled handle]
  exact Nat.lt_succ_self _

/-- The walk of a cursor that ends, from its opening on. -/
def walk (request : ScrollRequest) (before : σ) [backend.Ends request before] : TracedWalk σ :=
  backend.walkFrom request.keepAlive (backend.scrollStart request before) Ends.endsFrom

/-! ## Backends without endless cursors -/

variable {backend}

private theorem endsFrom_of_page {keepAlive : String} {page : ScrollPage} {after : σ}
    (further : ∀ scrollId, page.hits ≠ [] → page.scrollId = some scrollId →
      backend.EndsFrom keepAlive (backend.scrollNext scrollId keepAlive after)) :
    backend.EndsFrom keepAlive (.ok page, after) := by
  by_cases empty : page.hits = []
  · exact ⟨[page], none, .last after (Or.inl empty)⟩
  · cases handle : page.scrollId with
    | none => exact ⟨[page], none, .last after (Or.inr handle)⟩
    | some scrollId =>
        rcases further scrollId empty handle with ⟨pages, failure, served⟩
        exact ⟨page :: pages, failure, .more empty handle served⟩

/-- A measure of what cursors still bring: each page with hits and a new handle leaves less. -/
def IsMeasure (backend : Backend σ) (remaining : σ → String → Nat) : Prop :=
  ∀ {scrollId keepAlive : String} {before after : σ} {page : ScrollPage} {next : String},
    backend.scrollNext scrollId keepAlive before = (.ok page, after) → page.hits ≠ [] →
      page.scrollId = some next → remaining after next < remaining before scrollId

private theorem endsFrom_scrollNext {remaining : σ → String → Nat}
    (measured : backend.IsMeasure remaining) (keepAlive scrollId : String) (before : σ) :
    backend.EndsFrom keepAlive (backend.scrollNext scrollId keepAlive before) := by
  cases answered : backend.scrollNext scrollId keepAlive before with
  | mk answer after =>
      cases answer with
      | error cause => exact ⟨[], some cause, .failed cause after⟩
      | ok page =>
          apply endsFrom_of_page
          intro next filled handle
          have less : remaining after next < remaining before scrollId :=
            measured answered filled handle
          exact endsFrom_scrollNext measured keepAlive next after
termination_by remaining before scrollId

/-- A backend whose cursors are measured has no endless ones. -/
theorem Finite.of_measure {remaining : σ → String → Nat}
    (measured : backend.IsMeasure remaining) : backend.Finite := by
  constructor
  intro request before
  constructor
  cases backend.scrollStart request before with
  | mk answer after =>
      cases answer with
      | error cause => exact ⟨[], some cause, .failed cause after⟩
      | ok page =>
          apply endsFrom_of_page
          intro next _ _
          exact endsFrom_scrollNext measured request.keepAlive next after

end Backend

end CriteriaSearch
