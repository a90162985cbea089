import CriteriaSearch.Proofs.Streaming.Invariant

namespace CriteriaSearch
namespace Stream

/-!
# A stream comes to its end

As long as a stream has no outcome, somebody can do something.  Whatever is in
the hands of the collector comes first.  If there is nothing for it, the
channel of the documents is empty, so a worker with something in its hand can
go on, and so can a worker at the receiving end: it receives, or the producer
goes on, or there is no producer any more and the worker leaves.  When all
workers have ended, no failure is left to be joined, so no hit is to come and
the collector concludes.

Every action leaves less to do, so a stream ends under any schedule, and
`fetchAll` gives the outcome of a run that nothing can prolong.
-/

variable {α : Type} {transform : Transform α} {s s' : State α} {walk : Walk}

namespace State

/-- The action can be taken in the state. -/
def Enabled (transform : Transform α) (s : State α) (action : Action) : Prop :=
  ∃ s', s.act? transform action = some s'

/-- Nothing happens after the outcome. -/
theorem not_enabled_of_outcome {result : Except SearchError (List α)}
    (returned : s.outcome = some result) (action : Action) : ¬ s.Enabled transform action := by
  rintro ⟨s', taken⟩
  cases returned.symm.trans (step_of_act? taken).1

/-! ## What can be done -/

theorem enabled_join (running : s.outcome = none) (unjoined : s.ended ≠ []) :
    s.Enabled transform (.join 0) := by
  cases ended : s.ended with
  | nil => exact absurd ended unjoined
  | cons result rest =>
      cases result with
      | ok done => simp [Enabled, act?, running, join?, ended]
      | error problem => simp [Enabled, act?, running, join?, ended]

theorem enabled_collect (running : s.outcome = none) (delivered : s.docs ≠ []) :
    s.Enabled transform .collect := by
  cases docs : s.docs with
  | nil => exact absurd docs delivered
  | cons doc rest => simp [Enabled, act?, running, collect?, docs]

theorem enabled_shape (running : s.outcome = none) {worker : Nat} {hit : Hit}
    (holds : s.workers[worker]? = some (.holding hit)) : s.Enabled transform (.shape worker) := by
  simp [Enabled, act?, running, shape?, holds]

theorem enabled_deliver (running : s.outcome = none) {worker : Nat} {doc : α}
    (holds : s.workers[worker]? = some (.delivering doc)) (room : s.docs.length < s.capacity) :
    s.Enabled transform (.deliver worker) := by
  simp [Enabled, act?, running, deliver?, holds, room]

theorem enabled_listen (running : s.outcome = none) {worker : Nat}
    (waits : s.workers[worker]? = some .waiting) (free : s.isTaken = false) :
    s.Enabled transform (.listen worker) := by
  simp [Enabled, act?, running, listen?, waits, free]

theorem enabled_conclude (running : s.outcome = none) (finished : s.producer = .ended)
    (gone : ∀ worker ∈ s.workers, worker = .ended) (collected : s.docs = [])
    (joined : s.ended = []) : s.Enabled transform .conclude := by
  have quiet : s.workers.all Worker.isEnded = true := by
    rw [List.all_eq_true]
    intro worker member
    rw [gone worker member, Worker.isEnded]
  simp [Enabled, act?, running, conclude?, isQuiet, finished, Producer.isEnded, quiet, collected,
    joined]

/-! ## Somebody can do something -/

private theorem mem_agenda {worker : Nat} (inside : worker < s.workers.length)
    {action : Action} (chosen : action ∈ workerActions worker) : action ∈ s.agenda := by
  simp only [agenda, List.mem_append, List.mem_flatMap, List.mem_range]
  exact Or.inl (Or.inr ⟨worker, inside, chosen⟩)

/-- The worker at the receiving end receives or leaves, unless it is the
producer who goes on. -/
theorem Sound.exists_enabled_of_listening (sound : s.Sound transform walk)
    (running : s.outcome = none) {worker : Nat} (inside : worker < s.workers.length)
    (listens : s.workers[worker]? = some .listening) :
    ∃ action ∈ s.agenda, s.Enabled transform action := by
  cases channel : s.channel with
  | cons hit rest =>
      refine ⟨.receive worker, mem_agenda inside (by simp [workerActions]), ?_⟩
      simp [Enabled, act?, running, receive?, listens, channel]
  | nil =>
      cases producer : s.producer with
      | opening walk =>
          refine ⟨.call, by simp [agenda], ?_⟩
          simp [Enabled, act?, running, call?, producer]
      | ended =>
          refine ⟨.leave worker, mem_agenda inside (by simp [workerActions]), ?_⟩
          simp [Enabled, act?, running, leave?, listens, channel, producer]
      | sending rest next =>
          cases rest with
          | cons hit rest =>
              refine ⟨.send, by simp [agenda], ?_⟩
              simp [Enabled, act?, running, send?, producer, channel, sound.receivers_ne_zero,
                sound.room]
          | nil =>
              cases next with
              | some further =>
                  refine ⟨.call, by simp [agenda], ?_⟩
                  simp [Enabled, act?, running, call?, producer]
              | none =>
                  refine ⟨.finish, by simp [agenda], ?_⟩
                  simp [Enabled, act?, running, finish?, producer]

/-- A worker that has not ended can go on, or it is waiting for somebody who can. -/
theorem Sound.exists_enabled_of_busy (sound : s.Sound transform walk) (running : s.outcome = none)
    (collected : s.docs = []) {worker : Nat} (inside : worker < s.workers.length)
    (busy : s.workers[worker] ≠ .ended) : ∃ action ∈ s.agenda, s.Enabled transform action := by
  have here := List.getElem?_eq_getElem inside
  cases kind : s.workers[worker] with
  | ended => exact absurd kind busy
  | listening =>
      exact sound.exists_enabled_of_listening running inside (here.trans (congrArg some kind))
  | holding hit =>
      exact ⟨.shape worker, mem_agenda inside (by simp [workerActions]),
        enabled_shape running (here.trans (congrArg some kind))⟩
  | delivering doc =>
      have room : s.docs.length < s.capacity := by
        rw [collected]
        exact sound.room
      exact ⟨.deliver worker, mem_agenda inside (by simp [workerActions]),
        enabled_deliver running (here.trans (congrArg some kind)) room⟩
  | waiting =>
      by_cases taken : s.isTaken = true
      · -- The lock is held by a worker that does not wait for anybody in turn.
        rcases List.any_eq_true.mp taken with ⟨member, found, listening⟩
        rcases List.mem_iff_getElem.mp found with ⟨other, within, rfl⟩
        apply sound.exists_enabled_of_listening running within
        rw [List.getElem?_eq_getElem within, Worker.eq_listening_of_isListening listening]
      · exact ⟨.listen worker, mem_agenda inside (by simp [workerActions]),
          enabled_listen running (here.trans (congrArg some kind)) (Bool.eq_false_iff.mpr taken)⟩

/-- A stream without an outcome can go on. -/
theorem Sound.exists_enabled (sound : s.Sound transform walk) (running : s.outcome = none) :
    ∃ action ∈ s.agenda, s.Enabled transform action := by
  by_cases joined : s.ended = []
  case neg => exact ⟨.join 0, by simp [agenda], enabled_join running joined⟩
  by_cases collected : s.docs = []
  case neg => exact ⟨.collect, by simp [agenda], enabled_collect running collected⟩
  by_cases gone : ∀ worker ∈ s.workers, worker = .ended
  · -- A worker has ended, and nothing is on record, so no hit is to come.
    refine ⟨.conclude, by simp [agenda], ?_⟩
    rcases List.exists_mem_of_ne_nil _ sound.staffed with ⟨worker, member⟩
    rcases sound.explained (gone worker member ▸ member) with drained | ⟨problem, recorded⟩
    · exact enabled_conclude running drained.1 gone collected joined
    · rw [record_of_running running, joined] at recorded
      cases recorded
  · obtain ⟨member, found, busy⟩ : ∃ worker ∈ s.workers, worker ≠ .ended := by
      simpa using gone
    rcases List.mem_iff_getElem.mp found with ⟨worker, inside, rfl⟩
    exact sound.exists_enabled_of_busy running collected inside busy

/-! ## Every run ends -/

/-- A run is no longer than what there is to do. -/
theorem length_le_of_acts? {actions : List Action}
    (ran : s.acts? transform actions = some s') : actions.length + s'.weight ≤ s.weight := by
  induction actions generalizing s with
  | nil =>
      cases ran
      simp
  | cons action rest ih =>
      rcases Option.bind_eq_some_iff.mp ran with ⟨middle, taken, ran⟩
      have shorter := ih ran
      have less := weight_lt_of_act? taken
      rw [List.length_cons]
      omega

end State

/-! ## What a schedule gives -/

private theorem exists_act?_of_step? {schedule : Schedule α}
    {next : { s' : State α // s'.weight < s.weight }}
    (taken : step? transform schedule s = some next) :
    ∃ action, s.act? transform action = some next.val := by
  rcases List.exists_of_findSome?_eq_some taken with ⟨action, -, gives⟩
  refine ⟨action, ?_⟩
  split at gives
  · next acted => cases gives; exact acted
  · cases gives

/-- A stream that stops under a schedule has its outcome. -/
theorem outcome_ne_none_of_step? {schedule : Schedule α} (sound : s.Sound transform walk)
    (stops : step? transform schedule s = none) : s.outcome ≠ none := by
  intro running
  -- Every enabled action is on the agenda, so the schedule has tried it.
  rcases sound.exists_enabled running with ⟨action, listed, s', acted⟩
  have refused := List.findSome?_eq_none_iff.mp stops action (List.mem_append_right _ listed)
  split at refused
  · cases refused
  · next stuck => cases stuck.symm.trans acted

/-- A schedule makes a run. -/
theorem exists_acts?_run (schedule : Schedule α) (s : State α) :
    ∃ actions, s.acts? transform actions = some (run transform schedule s) := by
  induction s using run.induct transform schedule with
  | case1 s stops =>
      rw [run, stops]
      exact ⟨[], rfl⟩
  | case2 s next less taken ih =>
      rcases ih with ⟨actions, ran⟩
      rcases exists_act?_of_step? taken with ⟨action, acted⟩
      rw [run, taken]
      refine ⟨action :: actions, ?_⟩
      rw [State.acts?, acted, Option.bind_some]
      exact ran

theorem step?_run (schedule : Schedule α) (s : State α) :
    step? transform schedule (run transform schedule s) = none := by
  induction s using run.induct transform schedule with
  | case1 s stops => rw [run, stops]; exact stops
  | case2 s next less taken ih => rw [run, taken]; exact ih

section Request

variable {σ : Type} (backend : Backend σ) (transform : Transform α) (request : ScrollRequest)
  (before : σ) [backend.Ends request before] (workers : Nat)

/-- Some run of the stream of a request has the outcome. -/
def Returns (result : Except SearchError (List α)) : Prop :=
  ∃ actions s, (initial backend request before workers).acts? transform actions = some s ∧
    s.outcome = some result

/-- What `fetchAll` gives is the outcome of a run, as long as the channels can be made. -/
theorem returns_fetchAll (fits : max 1 request.size ≤ channelLimit) (schedule : Schedule α) :
    Returns backend transform request before workers
      (fetchAll backend transform workers schedule request before).1 := by
  have fits' : ¬ channelLimit < (initial backend request before workers : State α).capacity :=
    Nat.not_lt.mpr fits
  have ends : ∃ actions, (initial backend request before workers).acts? transform actions =
      some (run transform schedule (initial backend request before workers)) :=
    exists_acts?_run schedule _
  rcases ends with ⟨actions, ran⟩
  have answered := outcome_ne_none_of_step? (State.sound_of_acts? ran) (step?_run schedule _)
  rcases Option.ne_none_iff_exists'.mp answered with ⟨result, given⟩
  refine ⟨actions, _, ran, ?_⟩
  simp only [fetchAll, if_neg fits', given, Option.getD_some]

/-- In the stream of a request somebody can do something until it returns, and
no run takes more steps than there is to do at the start. -/
theorem exists_enabled_and_length_le {actions : List Action} {s : State α}
    (ran : (initial backend request before workers).acts? transform actions = some s) :
    (s.outcome = none → ∃ action, s.Enabled transform action) ∧
      actions.length ≤ (initial backend request before workers : State α).weight := by
  constructor
  · intro running
    rcases (State.sound_of_acts? ran).exists_enabled running with ⟨action, -, enabled⟩
    exact ⟨action, enabled⟩
  · have enough := State.length_le_of_acts? ran
    omega

/-- One worker of two has the first hit, the other waits for the second page. -/
theorem exists_enabled_twoPages :
    ∃ s : State String,
      (initial Backend.scripted default (Backend.script Backend.twoPages none) 2).acts?
          (fun hit => .doc hit.id) [.call, .send, .listen 1, .receive 1, .listen 0, .call] =
        some s ∧
      (s.outcome = none → ∃ action, s.Enabled (fun hit => .doc hit.id) action) ∧
      6 ≤ (initial Backend.scripted default (Backend.script Backend.twoPages none) 2 :
        State String).weight := by
  have runs : ((initial Backend.scripted default (Backend.script Backend.twoPages none) 2).acts?
      (fun hit => .doc hit.id) [.call, .send, .listen 1, .receive 1, .listen 0, .call]).map
        State.outcome = some none := by
    rw [initial, Backend.walk_twoPages]
    rfl
  rcases Option.map_eq_some_iff.mp runs with ⟨s, ran, -⟩
  exact ⟨s, ran, exists_enabled_and_length_le _ _ _ _ _ ran⟩

end Request

end Stream
end CriteriaSearch
