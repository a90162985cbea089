import CriteriaSearch.Proofs.Backend.Calls
import CriteriaSearch.Proofs.Streaming.Progress

namespace CriteriaSearch
namespace Stream

/-!
# The calls of a stream

The producer of a stream makes the calls of its walk one after the other, and
it may stop before the last.  So the calls that were made and those that are
left never come to more than the walk has, and the stream leaves the backend
in one of the states that the walk went through.

What a stream does depends on the walk alone.  Against a watched backend it
therefore returns the same, and it shows its calls: one opens the cursor with
the request, and all others read the cursor on.
-/

variable {α : Type} {transform : Transform α}

/-- How many calls a producer can still make. -/
def Producer.callsLeft : Producer → Nat
  | .opening walk | .sending _ (some (_, walk)) => walk.callCount
  | .sending _ none | .ended => 0

/-- The calls that were made and those that can still be made. -/
def State.callBudget (s : State α) : Nat :=
  s.calls.length + s.producer.callsLeft

private theorem callBudget_answered (s : State α) (call : Call) (walk : Walk) :
    (s.answered call walk).callBudget = s.calls.length + walk.callCount := by
  cases walk with
  | failed _ | last _ =>
      simp [State.callBudget, State.answered, Producer.callsLeft, Walk.callCount]
  | more _ _ next =>
      simp only [State.callBudget, State.answered, Producer.callsLeft, Walk.callCount,
        List.length_append, List.length_singleton]
      omega

/-- No step makes room for more calls. -/
theorem Step.callBudget_le {s s' : State α} (step : Step transform s s') :
    s'.callBudget ≤ s.callBudget := by
  cases step with
  | opens ready | proceeds ready =>
      rw [callBudget_answered, State.callBudget, ready]
      exact Nat.le_refl _
  | @sends _ _ next ready _ _ =>
      rw [State.callBudget, State.callBudget, ready]
      cases next <;> exact Nat.le_refl _
  | abandons | finishes => exact Nat.le_add_right _ _
  | _ => exact Nat.le_refl _

section Request

variable {σ : Type} (backend : Backend σ) (request : ScrollRequest) (before : σ)
  [backend.Ends request before] (workers : Nat)

/-- A run makes no more calls than the walk has. -/
theorem length_calls_le_of_acts? {actions : List Action} {s : State α}
    (ran : (initial backend request before workers).acts? transform actions = some s) :
    s.calls.length ≤ (backend.walk request before).walk.callCount := by
  have kept : s.callBudget ≤ (initial backend request before workers : State α).callBudget :=
    State.acts?_induction
      (motive := fun s => s.callBudget ≤ (initial backend request before workers).callBudget)
      (fun _ step bounded => Nat.le_trans step.callBudget_le bounded) ran (Nat.le_refl _)
  have start : (initial backend request before workers : State α).callBudget =
      (backend.walk request before).walk.callCount := Nat.zero_add _
  rw [start] at kept
  exact Nat.le_trans (Nat.le_add_right _ _) kept

/-- A stream returns the same against a watched backend.  It opens the cursor
of the request, and after that it only reads the cursor on. -/
theorem fetchAll_watched (fits : max 1 request.size ≤ channelLimit) (schedule : Schedule α)
    (calls : List Backend.Call) :
    ∃ scrollIds : List String,
      fetchAll backend.watched transform workers schedule request (before, calls) =
        ((fetchAll backend transform workers schedule request before).1,
          (fetchAll backend transform workers schedule request before).2,
          calls ++ .scrollStart request ::
            scrollIds.map (Backend.Call.scrollNext · request.keepAlive)) := by
  have shown := backend.shows_walk request before calls
  have same : (initial backend.watched request (before, calls) workers : State α) =
      initial backend request before workers := by rw [initial, initial, shown.walk]
  have made : ¬ channelLimit < (initial backend request before workers : State α).capacity :=
    Nat.not_lt.mpr fits
  rcases exists_acts?_run schedule (initial backend request before workers : State α) with
    ⟨actions, ran⟩
  have bounded :
      (run transform schedule (initial backend request before workers)).calls.length ≤
        (backend.walk request before).walk.callCount :=
    length_calls_le_of_acts? backend request before workers ran
  have inside : (run transform schedule (initial backend request before workers)).calls.length - 1
      < (backend.walk request before).walk.callCount := by
    have positive := (backend.walk request before).walk.callCount_pos
    omega
  rcases shown.exists_getD_states inside before calls with ⟨scrollIds, reached⟩
  refine ⟨scrollIds, ?_⟩
  rw [fetchAll, fetchAll, same]
  simp only [if_neg made, reached, List.append_assoc, List.singleton_append]

end Request

end Stream
end CriteriaSearch
