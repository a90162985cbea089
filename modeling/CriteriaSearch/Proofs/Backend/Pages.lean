import CriteriaSearch.Backend.Cursor

namespace CriteriaSearch

/-!
# The pages of a cursor

`Backend.Serves` says what pages a cursor brings without the walk that a
stream is given.  The walk holds the same hits in the same order and breaks
with the same failure.  The pages can be any pages of which only the last one
is without hits or without a handle.
-/

namespace Walk

/-- The hits along a walk. -/
def hits : Walk → List Hit
  | .failed _ => []
  | .last hits => hits
  | .more hits _ next => hits ++ next.hits

/-- The failure at which a walk breaks, if it does. -/
def failure? : Walk → Option Failure
  | .failed cause => some cause
  | .last _ => none
  | .more _ _ next => next.failure?

end Walk

namespace TracedWalk

variable {σ : Type} {page : ScrollPage} {after : σ}
  {further : (next : String) → page.isExhausted = false → page.scrollId = some next → TracedWalk σ}

theorem ofPage_last (final : page.isExhausted = true ∨ page.scrollId = none) :
    ofPage page after further = ⟨.last page.hits, [after]⟩ := by
  unfold ofPage
  split
  · rfl
  · next next handle =>
    split
    · rfl
    · next filled =>
      rcases final with empty | missing
      · exact absurd (empty.symm.trans filled) (by decide)
      · cases missing.symm.trans handle

theorem ofPage_more {next : String} (filled : page.isExhausted = false)
    (handle : page.scrollId = some next) :
    ofPage page after further =
      ⟨.more page.hits next (further next filled handle).walk,
        after :: (further next filled handle).states⟩ := by
  unfold ofPage
  split
  · next missing => cases missing.symm.trans handle
  · next other found =>
    cases found.symm.trans handle
    split
    · next empty => exact absurd (empty.symm.trans filled) (by decide)
    · rfl

end TracedWalk

namespace Backend

variable {σ : Type} (backend : Backend σ)

section Walks

variable {keepAlive : String} {page : ScrollPage} {after : σ}

theorem walkFrom_failed (cause : Failure) (after : σ)
    (ends : backend.EndsFrom keepAlive (.error cause, after)) :
    backend.walkFrom keepAlive (.error cause, after) ends = .failed cause after := by
  rw [walkFrom]

theorem walkFrom_last (ends : backend.EndsFrom keepAlive (.ok page, after))
    (final : page.hits = [] ∨ page.scrollId = none) :
    backend.walkFrom keepAlive (.ok page, after) ends = ⟨.last page.hits, [after]⟩ := by
  rw [walkFrom]
  exact TracedWalk.ofPage_last (final.imp List.isEmpty_iff.mpr id)

theorem walkFrom_more (ends : backend.EndsFrom keepAlive (.ok page, after)) {scrollId : String}
    (filled : page.isExhausted = false) (handle : page.scrollId = some scrollId) :
    backend.walkFrom keepAlive (.ok page, after) ends =
      let rest := backend.walkFrom keepAlive (backend.scrollNext scrollId keepAlive after)
        (ends.further filled handle)
      ⟨.more page.hits scrollId rest.walk, after :: rest.states⟩ := by
  rw [walkFrom]
  exact TracedWalk.ofPage_more filled handle

end Walks

private theorem hits_and_failure_of_servesFrom {keepAlive : String}
    {answer : Answer ScrollPage × σ} {pages : List ScrollPage} {failure : Option Failure}
    (served : backend.ServesFrom keepAlive answer pages failure)
    (ends : backend.EndsFrom keepAlive answer) :
    (backend.walkFrom keepAlive answer ends).walk.hits = pages.flatMap ScrollPage.hits ∧
      (backend.walkFrom keepAlive answer ends).walk.failure? = failure := by
  induction served with
  | failed cause after =>
      rw [walkFrom_failed]
      exact ⟨rfl, rfl⟩
  | last after final =>
      rw [walkFrom_last backend ends final, List.flatMap_singleton]
      exact ⟨rfl, rfl⟩
  | @more page after scrollId pages failure filled handle further ih =>
      have filled' : page.isExhausted = false := List.isEmpty_eq_false_iff.mpr filled
      have rest := ih (ends.further filled' handle)
      rw [walkFrom_more backend ends filled' handle, List.flatMap_cons]
      exact ⟨congrArg (page.hits ++ ·) rest.1, rest.2⟩

/-- A cursor that comes to an end brings some pages. -/
theorem exists_serves (request : ScrollRequest) (before : σ) [backend.Ends request before] :
    ∃ pages failure, backend.Serves request before pages failure :=
  Ends.endsFrom

variable {request : ScrollRequest} {before : σ} [backend.Ends request before]

/-- The walk of a cursor holds the hits of its pages, in their order. -/
theorem hits_walk_of_serves {pages : List ScrollPage} {failure : Option Failure}
    (served : backend.Serves request before pages failure) :
    (backend.walk request before).walk.hits = pages.flatMap ScrollPage.hits :=
  (hits_and_failure_of_servesFrom backend served Ends.endsFrom).1

/-- The walk of a cursor breaks where a call for one of its pages fails. -/
theorem failure?_walk_of_serves {pages : List ScrollPage} {failure : Option Failure}
    (served : backend.Serves request before pages failure) :
    (backend.walk request before).walk.failure? = failure :=
  (hits_and_failure_of_servesFrom backend served Ends.endsFrom).2

/-! ## Every sequence of pages can be served -/

/-- The sequences of pages that a cursor can bring: only the last page is
without hits or without a handle, unless a call after it fails. -/
inductive IsCursor : List ScrollPage → Option Failure → Prop where
  | failed (cause : Failure) : IsCursor [] (some cause)
  | last {page : ScrollPage} (final : page.hits = [] ∨ page.scrollId = none) :
      IsCursor [page] none
  | more {page : ScrollPage} {scrollId : String} {pages : List ScrollPage}
      {failure : Option Failure} (filled : page.hits ≠ []) (handle : page.scrollId = some scrollId)
      (further : IsCursor pages failure) : IsCursor (page :: pages) failure

/-- The next answer of a script, and what is left of it. -/
def nextAnswer : List (Answer ScrollPage) → Answer ScrollPage × List (Answer ScrollPage)
  | [] => (.error ⟨"the script is over"⟩, [])
  | answer :: rest => (answer, rest)

/-- The answers with which a cursor brings its pages. -/
def script (pages : List ScrollPage) (failure : Option Failure) : List (Answer ScrollPage) :=
  pages.map .ok ++ failure.toList.map .error

/-- The backend that walks a cursor through a script and answers nothing else. -/
def scripted : Backend (List (Answer ScrollPage)) where
  search _ script := (.error ⟨"not in the script"⟩, script)
  scrollStart _ := nextAnswer
  scrollNext _ _ := nextAnswer
  count _ script := (.error ⟨"not in the script"⟩, script)
  get _ script := (.error ⟨"not in the script"⟩, script)

/-- Each call uses up an answer. -/
theorem isMeasure_length_script : scripted.IsMeasure fun script _ => script.length := by
  intro scrollId keepAlive before after page next answered _ _
  cases before with
  | nil => cases answered
  | cons answer rest =>
      cases answered
      exact Nat.lt_succ_self _

instance : scripted.Finite :=
  .of_measure isMeasure_length_script

private theorem servesFrom_script (keepAlive : String) {pages : List ScrollPage}
    {failure : Option Failure} (cursor : IsCursor pages failure) :
    scripted.ServesFrom keepAlive (nextAnswer (script pages failure)) pages failure := by
  induction cursor with
  | failed cause => exact .failed cause []
  | last final => exact .last [] final
  | more filled handle _ ih => exact .more filled handle ih

/-- Every sequence of pages that ends as a cursor does is served by some backend. -/
theorem serves_script (request : ScrollRequest) {pages : List ScrollPage}
    {failure : Option Failure} (cursor : IsCursor pages failure) :
    scripted.Serves request (script pages failure) pages failure :=
  servesFrom_script request.keepAlive cursor

/-- Two pages with a hit each. -/
def twoPages : List ScrollPage :=
  [⟨some "next", [{ id := "a" }]⟩, ⟨none, [{ id := "b" }]⟩]

theorem isCursor_twoPages : IsCursor twoPages none :=
  .more (List.cons_ne_nil _ _) rfl (.last (Or.inr rfl))

theorem walk_twoPages (request : ScrollRequest) :
    (scripted.walk request (script twoPages none)).walk =
      .more [{ id := "a" }] "next" (.last [{ id := "b" }]) := by
  have ends : scripted.EndsFrom request.keepAlive (nextAnswer (script twoPages none)) :=
    ⟨_, _, serves_script request isCursor_twoPages⟩
  have first := congrArg TracedWalk.walk (walkFrom_more scripted ends rfl rfl)
  have second := congrArg TracedWalk.walk
    (walkFrom_last scripted (ends.further rfl rfl) (Or.inr rfl))
  exact first.trans (congrArg (Walk.more [{ id := "a" }] "next") second)

end Backend

end CriteriaSearch
