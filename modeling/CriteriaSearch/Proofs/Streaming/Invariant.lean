import CriteriaSearch.Proofs.Streaming.Ledger

namespace CriteriaSearch
namespace Stream

/-!
# What holds throughout a stream

`Sound` collects what holds in every state that a stream can get into.  The
ledger is complete, and besides it there are facts about the tasks.  Everyone
who holds on to the receiving end of the hits is counted, the collector among
them, so the producer is never without a listener.  A worker has ended for a
reason: no hit is to come, or a failure is on record.  And a stream that
succeeds has nothing left in it.

Each fact has a lemma of its own about a single step.
-/

variable {α : Type} {transform : Transform α} {s s' : State α}

/-- The failures that can end a task of a stream. -/
inductive FailsTask : SearchError → Prop where
  | backend (cause : Failure) : FailsTask (.backend .scroll cause)
  | transform (cause : Failure) : FailsTask (.transform cause)
  | crashed : FailsTask .crashed

namespace State

/-- No hit is to come any more. -/
def Drained (s : State α) : Prop :=
  s.producer = .ended ∧ s.channel = []

/-- Every task has ended and was joined, and the collector has every document
that was delivered. -/
structure Settled (s : State α) (docs : List α) : Prop where
  finished : s.producer = .ended
  gone : ∀ worker ∈ s.workers, worker = .ended
  delivered : s.docs = []
  joined : s.ended = []
  collected : docs = s.collected.reverse

/-- What holds in every state of a stream of a walk. -/
structure Sound (transform : Transform α) (walk : Walk) (s : State α) : Prop where
  room : 0 < s.capacity
  staffed : s.workers ≠ []
  /-- The receiving end is held by the collector and by every worker that has not ended. -/
  heard : s.receivers = s.workers.countP (fun worker => !worker.isEnded) + 1
  /-- A worker has ended for a reason. -/
  explained : .ended ∈ s.workers → s.Drained ∨ ∃ problem, .error problem ∈ s.record
  /-- Only tasks of a stream are on record. -/
  known : ∀ problem, .error problem ∈ s.record → FailsTask problem
  /-- A stream that has succeeded has nothing left in it. -/
  settled : ∀ docs, s.outcome = some (.ok docs) → s.Settled docs
  results_perm : (s.results transform).Perm (walk.hits.map transform)
  failures_perm : s.failures.Perm walk.failure?.toList

theorem sound_start (walk : Walk) (size workers : Nat) :
    (start walk size workers : State α).Sound transform walk where
  room := Nat.lt_of_lt_of_le Nat.zero_lt_one (Nat.le_max_left 1 size)
  staffed := by
    intro none
    have some : 1 ≤ max 1 workers := Nat.le_max_left 1 workers
    have length := congrArg List.length none
    simp only [start, List.length_replicate, List.length_nil] at length
    omega
  heard := by simp [start, List.countP_replicate, Worker.isEnded]
  explained := by simp [start]
  known := by simp [start, record]
  settled := by simp [start]
  results_perm := by rw [results_start]
  failures_perm := by rw [failures_start]

end State

/-! ## The tasks -/

theorem Step.capacity_eq (step : Step transform s s') : s'.capacity = s.capacity := by
  cases step with
  | @opens walk ready => cases walk <;> rfl
  | @proceeds _ walk ready => cases walk <;> rfl
  | _ => rfl

private theorem workers_answered (call : Call) (walk : Walk) :
    (s.answered call walk).workers = s.workers ∧
      (s.answered call walk).receivers = s.receivers := by
  cases walk with
  | failed | last | more => exact ⟨rfl, rfl⟩

theorem Step.workers_ne_nil (step : Step transform s s') (staffed : s.workers ≠ []) :
    s'.workers ≠ [] := by
  cases step with
  | opens | proceeds => rwa [(workers_answered _ _).1]
  | sends | abandons | finishes | collects | joins | breaks | concludes => exact staffed
  | listens | receives | leaves | shapes | fails | crashes | delivers =>
      exact List.append_ne_nil_of_right_ne_nil _ (List.cons_ne_nil _ _)

/-- A worker that ends lets go of the receiving end, and only such a worker does. -/
theorem Step.receivers_eq (step : Step transform s s')
    (heard : s.receivers = s.workers.countP (fun worker => !worker.isEnded) + 1) :
    s'.receivers = s'.workers.countP (fun worker => !worker.isEnded) + 1 := by
  cases step with
  | opens | proceeds => rwa [(workers_answered _ _).1, (workers_answered _ _).2]
  | sends | abandons | finishes | collects | joins | breaks | concludes => exact heard
  | listens ready | receives ready | shapes ready | delivers ready =>
      simp [ready, Worker.isEnded] at heard ⊢
      exact heard
  | leaves ready | fails ready | crashes ready =>
      simp [ready, Worker.isEnded] at heard ⊢
      omega

/-! ## The record -/

private theorem mem_record_append (running : s.outcome = none) (runs : s'.outcome = s.outcome)
    {result other : Except SearchError Unit} (ends : s'.ended = s.ended ++ [result]) :
    other ∈ s'.record ↔ other ∈ s.record ∨ other = result := by
  rw [State.record_of_running running, State.record_of_running (runs.trans running), ends,
    List.mem_append, List.mem_singleton]

/-- The answer of the backend can bring a failure on record, and nothing else. -/
private theorem error_mem_record_answered (running : s.outcome = none) {call : Call} {walk : Walk}
    {problem : SearchError} :
    .error problem ∈ (s.answered call walk).record ↔
      .error problem ∈ s.record ∨
        ∃ cause, walk = .failed cause ∧ problem = .backend .scroll cause := by
  cases walk with
  | failed cause => simp [State.answered, State.record, running]
  | last hits => simp [State.answered, State.record, running]
  | more hits scrollId next => simp [State.answered, State.record, running]

theorem Step.error_mem_record (step : Step transform s s') (running : s.outcome = none)
    {problem : SearchError} (recorded : .error problem ∈ s.record) :
    .error problem ∈ s'.record := by
  cases step with
  | opens | proceeds => exact (error_mem_record_answered running).mpr (Or.inl recorded)
  | breaks failed => exact (State.record_breaks_perm running failed).mem_iff.mpr recorded
  | joins done => simpa [State.record, running, done] using recorded
  | concludes => simpa [State.record, running] using recorded
  | sends | listens | receives | shapes | delivers | collects => exact recorded
  | abandons | finishes | leaves | fails | crashes =>
      exact (mem_record_append running (by rfl) (by rfl)).mpr (Or.inl recorded)

/-- What comes on record is how a task of a stream fails. -/
theorem Step.failsTask_of_error_mem_record (step : Step transform s s')
    (running : s.outcome = none)
    (known : ∀ problem, .error problem ∈ s.record → FailsTask problem) :
    ∀ problem, .error problem ∈ s'.record → FailsTask problem := by
  intro problem recorded
  cases step with
  | opens | proceeds =>
      rcases (error_mem_record_answered running).mp recorded with before | ⟨cause, -, rfl⟩
      · exact known problem before
      · exact .backend cause
  | breaks failed =>
      exact known problem ((State.record_breaks_perm running failed).mem_iff.mp recorded)
  | joins done =>
      apply known
      simpa [State.record, running, done] using recorded
  | concludes =>
      apply known
      simpa [State.record, running] using recorded
  | sends | listens | receives | shapes | delivers | collects => exact known problem recorded
  | abandons | finishes | leaves =>
      rcases (mem_record_append running (by rfl) (by rfl)).mp recorded with before | fresh
      · exact known problem before
      · cases fresh
  | fails | crashes =>
      rcases (mem_record_append running (by rfl) (by rfl)).mp recorded with before | fresh
      · exact known problem before
      · cases fresh
        constructor

/-! ## The end of a worker -/

theorem Step.drained (step : Step transform s s') (drained : s.Drained) : s'.Drained := by
  rcases drained with ⟨finished, empty⟩
  cases step with
  | opens ready | proceeds ready | sends ready | abandons ready | finishes ready =>
      cases finished.symm.trans ready
  | receives ready oldest => cases empty.symm.trans oldest
  | listens | leaves | shapes | fails | crashes | delivers | collects | joins | breaks
  | concludes => exact ⟨finished, empty⟩

/-- A worker ends when no hit is to come any more, or with a failure. -/
theorem Step.explained (step : Step transform s s') (running : s.outcome = none)
    (explained : .ended ∈ s.workers → s.Drained ∨ ∃ problem, .error problem ∈ s.record)
    (ended : .ended ∈ s'.workers) : s'.Drained ∨ ∃ problem, .error problem ∈ s'.record := by
  have kept (before : .ended ∈ s.workers) :
      s'.Drained ∨ ∃ problem, .error problem ∈ s'.record :=
    (explained before).imp step.drained fun ⟨problem, recorded⟩ =>
      ⟨problem, step.error_mem_record running recorded⟩
  cases step with
  | leaves ready empty finished => exact Or.inl ⟨finished, empty⟩
  | fails | crashes =>
      exact Or.inr ⟨_, (mem_record_append running (by rfl) (by rfl)).mpr (Or.inr rfl)⟩
  | opens | proceeds =>
      rw [(workers_answered _ _).1] at ended
      exact kept ended
  | sends | abandons | finishes | collects | joins | breaks | concludes => exact kept ended
  | listens ready | receives ready | shapes ready | delivers ready =>
      apply kept
      simpa [ready] using ended

/-! ## The outcome -/

/-- A stream succeeds by the conclusion of the collector only. -/
theorem Step.settled (step : Step transform s s') (running : s.outcome = none)
    {docs : List α} (succeeded : s'.outcome = some (.ok docs)) : s'.Settled docs := by
  cases step with
  | concludes finished gone delivered joined =>
      cases succeeded
      exact ⟨finished, gone, delivered, joined, rfl⟩
  | breaks => cases succeeded
  | @opens walk => cases walk <;> cases running.symm.trans succeeded
  | @proceeds _ walk => cases walk <;> cases running.symm.trans succeeded
  | _ => cases running.symm.trans succeeded

/-! ## Every state -/

namespace State

variable {walk : Walk}

theorem Sound.receivers_ne_zero (sound : s.Sound transform walk) : s.receivers ≠ 0 := by
  rw [sound.heard]
  exact Nat.succ_ne_zero _

theorem Sound.step (sound : s.Sound transform walk) (running : s.outcome = none)
    (step : Step transform s s') : s'.Sound transform walk where
  room := by rw [step.capacity_eq]; exact sound.room
  staffed := step.workers_ne_nil sound.staffed
  heard := step.receivers_eq sound.heard
  explained := step.explained running sound.explained
  known := step.failsTask_of_error_mem_record running sound.known
  settled _ := step.settled running
  results_perm := (step.results_perm running sound.receivers_ne_zero).trans sound.results_perm
  failures_perm := (step.failures_perm running sound.receivers_ne_zero).trans sound.failures_perm

/-- What holds at the start of a stream holds at the end of every run. -/
theorem sound_of_acts? {size workers : Nat} {actions : List Action}
    (ran : (start walk size workers : State α).acts? transform actions = some s) :
    s.Sound transform walk :=
  acts?_induction (fun running step sound => sound.step running step) ran
    (sound_start walk size workers)

end State

end Stream
end CriteriaSearch
