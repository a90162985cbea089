import CriteriaSearch.Proofs.Backend.Pages
import CriteriaSearch.Search.Stream

namespace CriteriaSearch
namespace Stream

/-!
# The ledger of a stream

Every hit of a walk is in exactly one place.  It is still to be sent, or in
the channel, or in the hand of a worker; or it was shaped, and then its
document is in the hand of a worker, in the channel of the documents or
collected.  A hit that was shaped without a document has ended a worker, and
the way that worker ended is on record until the collector joins it, which
ends the stream.

So the results that the transform gives on all hits can be read off any state,
place by place.  A step takes a result out of one place and puts it into the
next one, and counting a result in all places shows that none is lost and none
is made up.  The failure at which the walk breaks is accounted for in the same
way: it lies ahead of the producer, or it is on record.
-/

variable {α : Type} {transform : Transform α} {s s' : State α}

/-! ## What is where -/

/-- The hits that the producer has still to send. -/
def Producer.unsent : Producer → List Hit
  | .opening walk => walk.hits
  | .sending rest next => rest ++ next.elim [] fun further => further.2.hits
  | .ended => []

/-- The failure that lies ahead of the producer. -/
def Producer.failure? : Producer → Option Failure
  | .opening walk => walk.failure?
  | .sending _ next => next.bind fun further => further.2.failure?
  | .ended => none

/-- What becomes of the hit or the document in the hand of a worker. -/
def Worker.result? (transform : Transform α) : Worker α → Option (Shaped α)
  | .holding hit => some (transform hit)
  | .delivering doc => some (.doc doc)
  | _ => none

/-- The result of the transform that has ended a task. -/
def lost? : Except SearchError Unit → Option (Shaped α)
  | .error (.transform cause) => some (.failed cause)
  | .error .crashed => some .crashed
  | _ => none

/-- The failure of the backend that has ended a task. -/
def breakage? : Except SearchError Unit → Option Failure
  | .error (.backend _ cause) => some cause
  | _ => none

namespace State

/-- How tasks have ended, as far as it is on record: those that were not
joined, and the one whose failure is the outcome. -/
def record (s : State α) : List (Except SearchError Unit) :=
  match s.outcome with
  | some (.error problem) => .error problem :: s.ended
  | _ => s.ended

/-- What the transform gives on every hit of the walk, wherever the hit is. -/
def results (transform : Transform α) (s : State α) : List (Shaped α) :=
  (s.producer.unsent ++ s.channel).map transform ++
    (s.workers.filterMap (Worker.result? transform) ++
      ((s.docs ++ s.collected).map .doc ++ s.record.filterMap lost?))

/-- The failures of the backend, ahead or on record. -/
def failures (s : State α) : List Failure :=
  s.producer.failure?.toList ++ s.record.filterMap breakage?

theorem results_start (walk : Walk) (size workers : Nat) :
    (start walk size workers : State α).results transform = walk.hits.map transform := by
  simp [results, record, start, Producer.unsent, Worker.result?]

theorem failures_start (walk : Walk) (size workers : Nat) :
    (start walk size workers : State α).failures = walk.failure?.toList := by
  simp [failures, record, start, Producer.failure?]

/-! ## The record -/

theorem record_of_running (running : s.outcome = none) : s.record = s.ended := by
  rw [record, running]

/-- A failure that is joined stays on record. -/
theorem record_breaks_perm (running : s.outcome = none)
    {front back : List (Except SearchError Unit)} {problem : SearchError}
    (failed : s.ended = front ++ .error problem :: back) :
    ({ s with ended := front ++ back, outcome := some (.error problem) } : State α).record.Perm
      s.record := by
  rw [record_of_running running, failed]
  exact List.perm_middle.symm

theorem mem_results_of_mem_record {ending : Except SearchError Unit} {result : Shaped α}
    (recorded : ending ∈ s.record) (noted : lost? ending = some result) :
    result ∈ s.results transform := by
  apply List.mem_append_right
  apply List.mem_append_right
  apply List.mem_append_right
  exact List.mem_filterMap.mpr ⟨ending, recorded, noted⟩

/-! ## Counting -/

/-- How often a result is in the ledger, place by place. -/
private theorem count_results [DecidableEq (Shaped α)] (result : Shaped α) :
    (s.results transform).count result =
      (s.producer.unsent.map transform).count result + (s.channel.map transform).count result +
        (s.workers.filterMap (Worker.result? transform)).count result +
        (s.docs.map Shaped.doc).count result + (s.collected.map Shaped.doc).count result +
        (s.record.filterMap lost?).count result := by
  simp only [results, List.map_append, List.count_append]
  omega

end State

/-- What one entry of a list gives can be counted apart from the rest. -/
private theorem count_filterMap_split {β γ : Type} [DecidableEq γ] (f : β → Option γ)
    (front : List β) (item : β) (back : List β) (value : γ) :
    ((front ++ item :: back).filterMap f).count value =
      (f item).toList.count value + ((front ++ back).filterMap f).count value := by
  have apart : (front ++ item :: back).Perm (item :: (front ++ back)) := List.perm_middle
  rw [(apart.filterMap f).count_eq, List.filterMap_cons]
  cases f item with
  | none => simp
  | some _ => simp [List.count_cons, Nat.add_comm]

private theorem count_map_cons {β γ : Type} [DecidableEq γ] (f : β → γ) (first : β)
    (rest : List β) (value : γ) :
    ((first :: rest).map f).count value = [f first].count value + (rest.map f).count value := by
  rw [List.map_cons, ← List.count_append, List.singleton_append]

private theorem count_map_concat {β γ : Type} [DecidableEq γ] (f : β → γ) (front : List β)
    (last : β) (value : γ) :
    ((front ++ [last]).map f).count value = (front.map f).count value + [f last].count value := by
  rw [List.map_append, List.count_append, List.map_singleton]

namespace State

/-- The answer of the backend brings the hits of the walk in front of the
producer, or a failure on record. -/
private theorem results_answered (running : s.outcome = none) {call : Call} {walk : Walk}
    (due : s.producer.unsent = walk.hits) :
    (s.answered call walk).results transform = s.results transform := by
  unfold results
  rw [due]
  cases walk with
  | failed cause => simp [answered, record, running, Walk.hits, Producer.unsent, lost?]
  | last hits => simp [answered, record, running, Walk.hits, Producer.unsent]
  | more hits scrollId next => simp [answered, record, running, Walk.hits, Producer.unsent]

private theorem failures_answered (running : s.outcome = none) {call : Call} {walk : Walk}
    (due : s.producer.failure? = walk.failure?) :
    (s.answered call walk).failures.Perm s.failures := by
  unfold failures
  rw [due]
  cases walk with
  | failed cause =>
      simp [answered, record, running, Walk.failure?, Producer.failure?, breakage?]
  | last hits => simp [answered, record, running, Walk.failure?, Producer.failure?]
  | more hits scrollId next => simp [answered, record, running, Walk.failure?, Producer.failure?]

end State

/-! ## No step changes the ledger -/

/-- A worker that moves on without letting go of a result leaves the ledger as
it is. -/
private theorem count_results_of_workers [DecidableEq (Shaped α)] {front back : List (Worker α)}
    {worker worker' : Worker α} (ready : s.workers = front ++ worker :: back)
    (same : worker'.result? transform = worker.result? transform) (result : Shaped α) :
    (({ s with workers := front ++ worker' :: back } : State α).results transform).count result =
      (s.results transform).count result := by
  rw [State.count_results, State.count_results, ready, count_filterMap_split,
    count_filterMap_split, same]
  rfl

/-- A worker that ends leaves what it had in its hand on record. -/
private theorem count_results_of_retired [DecidableEq (Shaped α)] (running : s.outcome = none)
    {front back : List (Worker α)} {worker : Worker α} (ready : s.workers = front ++ worker :: back)
    {ending : Except SearchError Unit} (noted : lost? ending = worker.result? transform)
    (result : Shaped α) :
    (({ s with
        workers := front ++ .ended :: back
        receivers := s.receivers - 1
        ended := s.ended ++ [ending] } : State α).results transform).count result =
      (s.results transform).count result := by
  have gone : (Worker.ended : Worker α).result? transform = none := rfl
  have recorded : ((s.ended ++ [ending]).filterMap lost?).count result =
      (worker.result? transform).toList.count result + (s.ended.filterMap lost?).count result := by
    rw [count_filterMap_split, noted, List.append_nil]
  rw [State.count_results, State.count_results, ready, count_filterMap_split,
    count_filterMap_split, gone]
  simp only [State.record, running, recorded, Option.toList_none, List.count_nil]
  omega

/-- Every step keeps what the transform gives on the hits of the walk, as long
as somebody holds on to the receiving end. -/
theorem Step.results_perm (step : Step transform s s') (running : s.outcome = none)
    (heard : s.receivers ≠ 0) : (s'.results transform).Perm (s.results transform) := by
  classical
  rw [List.perm_iff_count]
  intro result
  cases step with
  | opens ready =>
      rw [State.results_answered running (by rw [ready, Producer.unsent])]
  | proceeds ready =>
      rw [State.results_answered running (by rw [ready, Producer.unsent, List.nil_append]; rfl)]
  | @sends hit rest next ready =>
      have unsent : s.producer.unsent = hit :: (Producer.sending rest next).unsent := by
        rw [ready]
        rfl
      rw [State.count_results, State.count_results, unsent, count_map_cons, count_map_concat]
      simp only [State.record]
      omega
  | abandons ready unheard => exact absurd unheard heard
  | finishes ready =>
      have unsent : s.producer.unsent = [] := by
        rw [ready]
        rfl
      rw [State.count_results, State.count_results, unsent]
      simp only [State.record, running, Producer.unsent, count_filterMap_split, lost?,
        Option.toList_none, List.count_nil, Nat.zero_add, List.append_nil]
  | listens ready =>
      apply count_results_of_workers ready
      rfl
  | shapes ready made =>
      -- A hit in the hand counts as what will become of it, so shaping it changes nothing.
      apply count_results_of_workers ready
      rw [Worker.result?, Worker.result?, made]
  | @receives front back hit rest ready oldest =>
      rw [State.count_results, State.count_results, ready, oldest, count_filterMap_split,
        count_filterMap_split, count_map_cons]
      simp only [Worker.result?, Option.toList_some, Option.toList_none, List.count_nil,
        State.record]
      omega
  | leaves ready => exact count_results_of_retired running ready rfl result
  | fails ready made =>
      apply count_results_of_retired running ready
      rw [Worker.result?, made, lost?]
  | crashes ready made =>
      apply count_results_of_retired running ready
      rw [Worker.result?, made, lost?]
  | delivers ready =>
      rw [State.count_results, State.count_results, ready, count_filterMap_split,
        count_filterMap_split, count_map_concat]
      simp only [Worker.result?, Option.toList_some, Option.toList_none, List.count_nil,
        State.record]
      omega
  | collects oldest =>
      rw [State.count_results, State.count_results, oldest, count_map_cons, count_map_cons]
      simp only [State.record]
      omega
  | joins done =>
      rw [State.count_results, State.count_results, State.record_of_running running, done,
        count_filterMap_split]
      simp only [State.record, running, lost?, Option.toList_none, List.count_nil, Nat.zero_add]
  | breaks failed =>
      have moved := ((State.record_breaks_perm running failed).filterMap lost?).count_eq result
      rw [State.count_results, State.count_results, moved]
  | concludes =>
      rw [State.count_results, State.count_results]
      simp only [State.record, running]

/-- Every step keeps the failure at which the walk breaks. -/
theorem Step.failures_perm (step : Step transform s s') (running : s.outcome = none)
    (heard : s.receivers ≠ 0) : s'.failures.Perm s.failures := by
  cases step with
  | opens ready => exact State.failures_answered running (by rw [ready, Producer.failure?])
  | proceeds ready => exact State.failures_answered running (by rw [ready]; rfl)
  | sends ready _ _ => simp [State.failures, State.record, ready, Producer.failure?]
  | abandons ready unheard => exact absurd unheard heard
  | finishes ready =>
      simp [State.failures, State.record, running, ready, Producer.failure?, breakage?,
        List.filterMap_cons]
  | listens | receives | shapes | delivers | collects => exact List.Perm.refl _
  | leaves | fails | crashes =>
      simp [State.failures, State.record, running, breakage?, List.filterMap_cons]
  | joins done =>
      simp [State.failures, State.record, running, done, breakage?, List.filterMap_cons]
  | breaks failed =>
      exact ((State.record_breaks_perm running failed).filterMap breakage?).append_left _
  | concludes => simp [State.failures, State.record, running]

end Stream
end CriteriaSearch
