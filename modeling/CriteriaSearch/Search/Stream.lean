import CriteriaSearch.Search.Stream.Step

/-!
# Streaming a cursor through a pool of workers

A schedule says which of the possible actions a stream takes.  Where it names none that can be
taken, the stream falls back on an order of its own, so it only stops when nothing can happen.
`fetchAll` runs the stream of a request to its end under a schedule, which needs a cursor that comes
to an end.
-/

namespace CriteriaSearch.Stream

variable {α : Type}

/-- Which actions a scheduler would like to take in a state, the most wanted first. -/
abbrev Schedule (α : Type) := State α → List Action

/-- Everything that a worker can do, whatever is nearest to the collector first. -/
def workerActions (worker : Nat) : List Action :=
  [.deliver worker, .shape worker, .receive worker, .leave worker, .listen worker]

/-- The order in which actions are tried when the schedule has nothing to say: whatever is nearest
to the collector first, so that no hit waits longer than it must. -/
def State.agenda (s : State α) : List Action :=
  [.collect, .join 0] ++ (List.range s.workers.length).flatMap workerActions ++
    [.send, .call, .finish, .abandon, .conclude]

/-- The next state under a schedule.  There is none when no action can be taken. -/
def step? (transform : Transform α) (schedule : Schedule α) (s : State α) :
    Option { s' : State α // s'.weight < s.weight } :=
  (schedule s ++ s.agenda).findSome? fun action =>
    match taken : s.act? transform action with
    | some s' => some ⟨s', State.weight_lt_of_act? taken⟩
    | none => none

/-- The state in which a run under a schedule ends. -/
def run (transform : Transform α) (schedule : Schedule α) (s : State α) : State α :=
  match step? transform schedule s with
  | none => s
  | some ⟨s', _⟩ => run transform schedule s'
termination_by s.weight

/-- The largest number of entries that a channel can be made for: three bits of a word are taken. -/
def channelLimit : Nat := UInt64.size / 8 - 1

/-- The stream of a request before anything has happened in it. -/
def initial {σ : Type} (backend : Backend σ) (request : ScrollRequest) (before : σ)
    [backend.Ends request before] (workers : Nat) : State α :=
  .start (backend.walk request before).walk request.size workers

/-- Every document of a cursor, in the order in which the collector gets them, and the backend
afterwards.  A stream whose channels cannot be made crashes before it asks anything. -/
def fetchAll {σ : Type} (backend : Backend σ) (transform : Transform α) (workers : Nat)
    (schedule : Schedule α) (request : ScrollRequest) (before : σ) [backend.Ends request before] :
    Except SearchError (List α) × σ :=
  let stream : State α := initial backend request before workers
  if channelLimit < stream.capacity then (.error .crashed, before)
  else
    let final := run transform schedule stream
    let states := (backend.walk request before).states
    (final.outcome.getD (.error .crashed), states.getD (final.calls.length - 1) before)

end CriteriaSearch.Stream
