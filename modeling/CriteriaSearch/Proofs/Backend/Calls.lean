import CriteriaSearch.Proofs.Backend.Pages
import Mathlib.Data.List.GetD

namespace CriteriaSearch

/-!
# The calls that a backend gets

A backend does not have to say what it was asked.  `Backend.watched` is the
same backend with a list of the calls that it got beside its state.  Watching
changes nothing else: the answers and the states are those of the backend
itself, and so are the walks along its cursors.

A walk opens its cursor with the call of the request.  All calls that follow
only carry a handle and the time to keep it, whatever the pages are.
-/

namespace Walk

/-- How many calls a walk takes. -/
def callCount : Walk → Nat
  | .failed _ | .last _ => 1
  | .more _ _ next => next.callCount + 1

theorem callCount_pos (walk : Walk) : 0 < walk.callCount := by
  cases walk with
  | failed _ | last _ => exact Nat.one_pos
  | more _ _ next => exact Nat.succ_pos _

/-- The handles with which a walk goes on. -/
def scrollIds : Walk → List String
  | .failed _ | .last _ => []
  | .more _ scrollId next => scrollId :: next.scrollIds

end Walk

namespace Backend

/-- A call to a backend, with everything that it carries. -/
inductive Call where
  | search (request : SearchRequest)
  | scrollStart (request : ScrollRequest)
  | scrollNext (scrollId keepAlive : String)
  | count (query : Query)
  | get (id : String)

/-- The query that a call sends, as it is written. -/
def Call.query? : Call → Option Json
  | .search request => request.body.member? "query"
  | .scrollStart request => request.body.member? "query"
  | .count query => some query.source
  | .scrollNext _ _ | .get _ => none

variable {σ : Type}

/-- A call together with its answer, noted behind the calls before. -/
private def noted {α : Type} (calls : List Call) (call : Call) (answer : Answer α × σ) :
    Answer α × σ × List Call :=
  (answer.1, answer.2, calls ++ [call])

/-- The backend with the list of all calls that it got, in their order. -/
def watched (backend : Backend σ) : Backend (σ × List Call) where
  name := backend.name
  search request before :=
    noted before.2 (.search request) (backend.search request before.1)
  scrollStart request before :=
    noted before.2 (.scrollStart request) (backend.scrollStart request before.1)
  scrollNext scrollId keepAlive before :=
    noted before.2 (.scrollNext scrollId keepAlive)
      (backend.scrollNext scrollId keepAlive before.1)
  count query before := noted before.2 (.count query) (backend.count query before.1)
  get id before := noted before.2 (.get id) (backend.get id before.1)

/-- What a watched walk shows: the walk itself, through the same states, and
after each state the calls so far, of which all later ones read the cursor on. -/
structure Shows (keepAlive : String) (calls : List Call)
    (shown : TracedWalk (σ × List Call)) (plain : TracedWalk σ) : Prop where
  walk : shown.walk = plain.walk
  states : shown.states.map Prod.fst = plain.states
  length : plain.states.length = plain.walk.callCount
  calls : ∀ state ∈ shown.states, ∃ scrollIds : List String,
    state.2 = calls ++ scrollIds.map (Call.scrollNext · keepAlive)

/-- After any of its calls the walk is in the state that it shows. -/
theorem Shows.exists_getD_states {keepAlive : String} {calls : List Call}
    {shown : TracedWalk (σ × List Call)} {plain : TracedWalk σ}
    (shows : Shows keepAlive calls shown plain) {index : Nat}
    (inside : index < plain.walk.callCount) (before : σ) (earlier : List Call) :
    ∃ scrollIds : List String,
      shown.states.getD index (before, earlier) =
        (plain.states.getD index before,
          calls ++ scrollIds.map (Call.scrollNext · keepAlive)) := by
  have listed : index < shown.states.length := by
    rwa [← shows.length, ← shows.states, List.length_map] at inside
  rcases shows.calls _ (List.getElem_mem listed) with ⟨scrollIds, later⟩
  refine ⟨scrollIds, Prod.ext ?_ ?_⟩
  · rw [← shows.states, List.getD_eq_getElem _ _ listed,
      List.getD_eq_getElem _ _ (by rwa [List.length_map]), List.getElem_map]
  · rw [List.getD_eq_getElem _ _ listed, later]

private theorem shows_single {keepAlive : String} {calls : List Call} {walk : Walk}
    (single : walk.callCount = 1) (after : σ) :
    Shows keepAlive calls ⟨walk, [(after, calls)]⟩ ⟨walk, [after]⟩ where
  walk := rfl
  states := rfl
  length := single.symm
  calls state member := by
    rw [List.mem_singleton.mp member]
    exact ⟨[], (List.append_nil _).symm⟩

/-! ## Watched cursors -/

variable {backend : Backend σ} {keepAlive : String} {answer : Answer ScrollPage × σ}
  {pages : List ScrollPage} {failure : Option Failure}

/-- A watched cursor brings the same pages. -/
theorem ServesFrom.watched (served : backend.ServesFrom keepAlive answer pages failure)
    (calls : List Call) :
    backend.watched.ServesFrom keepAlive (answer.1, answer.2, calls) pages failure := by
  induction served generalizing calls with
  | failed cause after => exact .failed cause (after, calls)
  | last after final => exact .last (after, calls) final
  | more filled handle _ ih => exact .more filled handle (ih _)

theorem EndsFrom.watched (ends : backend.EndsFrom keepAlive answer) (calls : List Call) :
    backend.watched.EndsFrom keepAlive (answer.1, answer.2, calls) := by
  rcases ends with ⟨pages, failure, served⟩
  exact ⟨pages, failure, served.watched calls⟩

instance (request : ScrollRequest) (before : σ) [backend.Ends request before]
    (earlier : List Call) : backend.watched.Ends request (before, earlier) where
  endsFrom := Ends.endsFrom.watched (earlier ++ [.scrollStart request])

instance [backend.Finite] : backend.watched.Finite where
  ends request before := inferInstanceAs (backend.watched.Ends request (before.1, before.2))

private theorem shows_of_servesFrom (served : backend.ServesFrom keepAlive answer pages failure)
    (ends : backend.EndsFrom keepAlive answer) (calls : List Call) :
    Shows keepAlive calls
      (backend.watched.walkFrom keepAlive (answer.1, answer.2, calls) (ends.watched calls))
      (backend.walkFrom keepAlive answer ends) := by
  induction served generalizing calls with
  | failed cause after =>
      rw [walkFrom_failed, walkFrom_failed]
      exact shows_single rfl after
  | last after final =>
      rw [walkFrom_last _ ends final, walkFrom_last _ (ends.watched calls) final]
      exact shows_single rfl after
  | @more page after scrollId pages failure filled handle further ih =>
      have filled' : page.isExhausted = false := List.isEmpty_eq_false_iff.mpr filled
      have rest := ih (ends.further filled' handle) (calls ++ [.scrollNext scrollId keepAlive])
      rw [walkFrom_more _ ends filled' handle,
        walkFrom_more _ (ends.watched calls) filled' handle]
      refine ⟨congrArg (Walk.more page.hits scrollId) rest.walk,
        congrArg (after :: ·) rest.states, congrArg Nat.succ rest.length, ?_⟩
      intro state member
      rcases List.mem_cons.mp member with rfl | member
      · exact ⟨[], (List.append_nil _).symm⟩
      · rcases rest.calls state member with ⟨scrollIds, listed⟩
        refine ⟨scrollId :: scrollIds, ?_⟩
        rw [listed, List.append_assoc]
        rfl

/-- In each state of a watched walk the calls so far are on the list, with the
handles that the pages have brought. -/
private theorem snd_of_servesFrom (served : backend.ServesFrom keepAlive answer pages failure)
    (ends : backend.EndsFrom keepAlive answer) (calls : List Call) {index : Nat}
    {state : σ × List Call}
    (reached : (backend.watched.walkFrom keepAlive (answer.1, answer.2, calls)
      (ends.watched calls)).states[index]? = some state) :
    state.2 = calls ++ ((backend.walkFrom keepAlive answer ends).walk.scrollIds.take index).map
      (Call.scrollNext · keepAlive) := by
  induction served generalizing calls index with
  | failed cause after =>
      rw [walkFrom_failed] at reached ⊢
      cases index with
      | zero =>
          cases reached
          exact (List.append_nil _).symm
      | succ index => cases reached
  | last after final =>
      rw [walkFrom_last _ ends final]
      rw [walkFrom_last _ (ends.watched calls) final] at reached
      cases index with
      | zero =>
          cases reached
          exact (List.append_nil _).symm
      | succ index => cases reached
  | @more page after scrollId pages failure filled handle further ih =>
      have filled' : page.isExhausted = false := List.isEmpty_eq_false_iff.mpr filled
      rw [walkFrom_more _ ends filled' handle]
      rw [walkFrom_more _ (ends.watched calls) filled' handle] at reached
      cases index with
      | zero =>
          cases reached
          exact (List.append_nil _).symm
      | succ index =>
          rw [ih (ends.further filled' handle) (calls ++ [.scrollNext scrollId keepAlive]) reached,
            List.append_assoc]
          rfl

variable (backend) (request : ScrollRequest) (before : σ) [backend.Ends request before]

/-- Watching a walk shows the opening call and does not change the walk. -/
theorem shows_walk (calls : List Call) :
    Shows request.keepAlive (calls ++ [.scrollStart request])
      (backend.watched.walk request (before, calls)) (backend.walk request before) := by
  rcases backend.exists_serves request before with ⟨pages, failure, served⟩
  exact shows_of_servesFrom served Ends.endsFrom _

variable {request before}

theorem snd_of_getElem?_states {earlier : List Call} {index : Nat} {state : σ × List Call}
    (reached : (backend.watched.walk request (before, earlier)).states[index]? = some state) :
    state.2 = earlier ++ .scrollStart request ::
      ((backend.walk request before).walk.scrollIds.take index).map
        (Call.scrollNext · request.keepAlive) := by
  rcases backend.exists_serves request before with ⟨pages, failure, served⟩
  have noted := snd_of_servesFrom served Ends.endsFrom _ reached
  rwa [List.append_assoc] at noted

end Backend

end CriteriaSearch
