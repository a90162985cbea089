import CriteriaSearch.Search.Stream.Basic

/-!
# The steps of a stream

`Step` lists what can happen in a stream, one rule for each kind of event, with everything that
the event asks for and everything that it changes.  `step_of_act?` reads the rule off an action,
so what every rule keeps is kept by every action and, along `acts?`, by every run.

The weight of a stream is how much there is still to do in it.  It goes down with every step,
hence every run ends, under any schedule.
-/

namespace CriteriaSearch.Stream

variable {α : Type}

/-- What can happen in a stream. -/
inductive Step (transform : Transform α) (s : State α) : State α → Prop where
  | opens {walk : Walk} (ready : s.producer = .opening walk) :
      Step transform s (s.answered .start walk)
  /-- The producer has sent a batch and asks for the next one. -/
  | proceeds {scrollId : String} {walk : Walk}
      (ready : s.producer = .sending [] (some (scrollId, walk))) :
      Step transform s (s.answered (.next scrollId) walk)
  | sends {hit : Hit} {rest : List Hit} {next : Option (String × Walk)}
      (ready : s.producer = .sending (hit :: rest) next) (heard : s.receivers ≠ 0)
      (room : s.channel.length < s.capacity) :
      Step transform s { s with producer := .sending rest next, channel := s.channel ++ [hit] }
  /-- The producer finds nobody at the receiving end. -/
  | abandons {hit : Hit} {rest : List Hit} {next : Option (String × Walk)}
      (ready : s.producer = .sending (hit :: rest) next) (unheard : s.receivers = 0) :
      Step transform s { s with producer := .ended, ended := s.ended ++ [.ok ()] }
  | finishes (ready : s.producer = .sending [] none) :
      Step transform s { s with producer := .ended, ended := s.ended ++ [.ok ()] }
  | listens {front back : List (Worker α)} (ready : s.workers = front ++ .waiting :: back)
      (free : s.isTaken = false) :
      Step transform s { s with workers := front ++ .listening :: back }
  | receives {front back : List (Worker α)} {hit : Hit} {rest : List Hit}
      (ready : s.workers = front ++ .listening :: back) (oldest : s.channel = hit :: rest) :
      Step transform s { s with channel := rest, workers := front ++ .holding hit :: back }
  /-- A worker finds that no hit will come any more. -/
  | leaves {front back : List (Worker α)} (ready : s.workers = front ++ .listening :: back)
      (empty : s.channel = []) (finished : s.producer = .ended) :
      Step transform s { s with
        workers := front ++ .ended :: back
        receivers := s.receivers - 1
        ended := s.ended ++ [.ok ()] }
  | shapes {front back : List (Worker α)} {hit : Hit} {value : α}
      (ready : s.workers = front ++ .holding hit :: back) (made : transform hit = .doc value) :
      Step transform s { s with workers := front ++ .delivering value :: back }
  /-- A worker ends because the transform failed. -/
  | fails {front back : List (Worker α)} {hit : Hit} {cause : Failure}
      (ready : s.workers = front ++ .holding hit :: back) (made : transform hit = .failed cause) :
      Step transform s { s with
        workers := front ++ .ended :: back
        receivers := s.receivers - 1
        ended := s.ended ++ [.error (.transform cause)] }
  | crashes {front back : List (Worker α)} {hit : Hit}
      (ready : s.workers = front ++ .holding hit :: back) (made : transform hit = .crashed) :
      Step transform s { s with
        workers := front ++ .ended :: back
        receivers := s.receivers - 1
        ended := s.ended ++ [.error .crashed] }
  | delivers {front back : List (Worker α)} {doc : α}
      (ready : s.workers = front ++ .delivering doc :: back)
      (room : s.docs.length < s.capacity) :
      Step transform s { s with
        workers := front ++ .waiting :: back
        docs := s.docs ++ [doc] }
  | collects {doc : α} {rest : List α} (oldest : s.docs = doc :: rest) :
      Step transform s { s with docs := rest, collected := doc :: s.collected }
  /-- The collector joins a task that ended well. -/
  | joins {front back : List (Except SearchError Unit)}
      (done : s.ended = front ++ .ok () :: back) :
      Step transform s { s with ended := front ++ back }
  /-- The collector joins a task that failed. -/
  | breaks {front back : List (Except SearchError Unit)} {problem : SearchError}
      (failed : s.ended = front ++ .error problem :: back) :
      Step transform s { s with ended := front ++ back, outcome := some (.error problem) }
  | concludes (finished : s.producer = .ended) (gone : ∀ worker ∈ s.workers, worker = .ended)
      (collected : s.docs = []) (joined : s.ended = []) :
      Step transform s { s with outcome := some (.ok s.collected.reverse) }

/-! ## Reading the rule off an action -/

/-- A place in a list, as what stands in front of it and behind it. -/
private theorem exists_split {β : Type} {items : List β} {index : Nat} {item : β}
    (found : items[index]? = some item) :
    ∃ front back, items = front ++ item :: back ∧
      (∀ other, items.set index other = front ++ other :: back) ∧
      items.eraseIdx index = front ++ back := by
  rcases List.getElem?_eq_some_iff.1 found with ⟨inside, rfl⟩
  refine ⟨items.take index, items.drop (index + 1), ?_, ?_, ?_⟩
  · rw [List.getElem_cons_drop, List.take_append_drop]
  · intro other
    rw [List.set_eq_take_append_cons_drop, if_pos inside]
  · exact List.eraseIdx_eq_take_drop_succ items index

theorem Producer.eq_ended_of_isEnded {producer : Producer} (finished : producer.isEnded = true) :
    producer = .ended := by
  cases producer with
  | ended => rfl
  | opening walk => cases finished
  | sending rest next => cases finished

theorem Worker.eq_ended_of_isEnded {worker : Worker α} (finished : worker.isEnded = true) :
    worker = .ended := by
  cases worker with
  | ended => rfl
  | waiting | listening | holding | delivering => cases finished

theorem Worker.eq_listening_of_isListening {worker : Worker α}
    (listens : worker.isListening = true) : worker = .listening := by
  cases worker with
  | listening => rfl
  | waiting | holding | delivering | ended => cases listens

namespace State

variable {transform : Transform α} {s s' : State α}

private theorem step_of_call? (taken : s.call? = some s') : Step transform s s' := by
  unfold call? at taken
  split at taken
  · next ready => cases taken; exact .opens ready
  · next ready => cases taken; exact .proceeds ready
  · cases taken

private theorem step_of_send? (taken : s.send? = some s') : Step transform s s' := by
  unfold send? at taken
  split at taken
  · next ready =>
    split at taken
    · next guards => cases taken; exact .sends ready guards.1 guards.2
    · cases taken
  · cases taken

private theorem step_of_abandon? (taken : s.abandon? = some s') : Step transform s s' := by
  unfold abandon? at taken
  split at taken
  · next ready =>
    split at taken
    · next unheard => cases taken; exact .abandons ready unheard
    · cases taken
  · cases taken

private theorem step_of_finish? (taken : s.finish? = some s') : Step transform s s' := by
  unfold finish? at taken
  split at taken
  · next ready => cases taken; exact .finishes ready
  · cases taken

private theorem step_of_listen? {worker : Nat} (taken : s.listen? worker = some s') :
    Step transform s s' := by
  unfold listen? at taken
  split at taken
  · next found =>
    rcases exists_split found with ⟨front, back, ready, replaced, -⟩
    split at taken
    · cases taken
    · next free =>
      cases taken
      rw [replaced]
      exact .listens ready (Bool.eq_false_iff.mpr free)
  · cases taken

private theorem step_of_receive? {worker : Nat} (taken : s.receive? worker = some s') :
    Step transform s s' := by
  unfold receive? at taken
  split at taken
  · next found oldest =>
    rcases exists_split found with ⟨front, back, ready, replaced, -⟩
    cases taken
    rw [replaced]
    exact .receives ready oldest
  · cases taken

private theorem step_of_leave? {worker : Nat} (taken : s.leave? worker = some s') :
    Step transform s s' := by
  unfold leave? at taken
  split at taken
  · next found empty finished =>
    rcases exists_split found with ⟨front, back, ready, replaced, -⟩
    cases taken
    unfold retire
    rw [replaced]
    exact .leaves ready empty finished
  · cases taken

private theorem step_of_shape? {worker : Nat} (taken : s.shape? transform worker = some s') :
    Step transform s s' := by
  unfold shape? at taken
  split at taken
  · next hit found =>
    rcases exists_split found with ⟨front, back, ready, replaced, -⟩
    cases taken
    cases made : transform hit with
    | doc value =>
        simp only [shaped, replaced]
        exact .shapes ready made
    | failed cause =>
        simp only [shaped, retire, replaced]
        exact .fails ready made
    | crashed =>
        simp only [shaped, retire, replaced]
        exact .crashes ready made
  · cases taken

private theorem step_of_deliver? {worker : Nat} (taken : s.deliver? worker = some s') :
    Step transform s s' := by
  unfold deliver? at taken
  split at taken
  · next found =>
    rcases exists_split found with ⟨front, back, ready, replaced, -⟩
    split at taken
    · next room =>
      cases taken
      rw [replaced]
      exact .delivers ready room
    · cases taken
  · cases taken

private theorem step_of_collect? (taken : s.collect? = some s') : Step transform s s' := by
  unfold collect? at taken
  split at taken
  · next oldest => cases taken; exact .collects oldest
  · cases taken

private theorem step_of_join? {task : Nat} (taken : s.join? task = some s') :
    Step transform s s' := by
  unfold join? at taken
  split at taken
  · next found =>
    rcases exists_split found with ⟨front, back, done, -, removed⟩
    cases taken
    rw [removed]
    exact .joins done
  · next found =>
    rcases exists_split found with ⟨front, back, failed, -, removed⟩
    cases taken
    rw [removed]
    exact .breaks failed
  · cases taken

private theorem step_of_conclude? (taken : s.conclude? = some s') : Step transform s s' := by
  unfold conclude? at taken
  split at taken
  · next settled =>
    cases taken
    simp only [isQuiet, Bool.and_eq_true, List.all_eq_true, List.isEmpty_iff] at settled
    rcases settled with ⟨⟨⟨finished, gone⟩, collected⟩, joined⟩
    exact .concludes (Producer.eq_ended_of_isEnded finished)
      (fun worker member => Worker.eq_ended_of_isEnded (gone worker member)) collected joined
  · cases taken

/-- An action is taken before the outcome, and by one of the rules. -/
theorem step_of_act? {action : Action} (taken : s.act? transform action = some s') :
    s.outcome = none ∧ Step transform s s' := by
  unfold act? at taken
  split at taken
  · cases taken
  · next running =>
    refine ⟨by simpa using running, ?_⟩
    cases action with
    | call => exact step_of_call? taken
    | send => exact step_of_send? taken
    | abandon => exact step_of_abandon? taken
    | finish => exact step_of_finish? taken
    | listen worker => exact step_of_listen? taken
    | receive worker => exact step_of_receive? taken
    | leave worker => exact step_of_leave? taken
    | shape worker => exact step_of_shape? taken
    | deliver worker => exact step_of_deliver? taken
    | collect => exact step_of_collect? taken
    | join task => exact step_of_join? taken
    | conclude => exact step_of_conclude? taken

/-- What every step keeps is kept by every run. -/
theorem acts?_induction {motive : State α → Prop}
    (kept : ∀ {before after : State α}, before.outcome = none → Step transform before after →
      motive before → motive after)
    {actions : List Action} (ran : s.acts? transform actions = some s') (initially : motive s) :
    motive s' := by
  induction actions generalizing s with
  | nil =>
      cases ran
      exact initially
  | cons action rest ih =>
      rcases Option.bind_eq_some_iff.mp ran with ⟨middle, taken, ran⟩
      rcases step_of_act? taken with ⟨running, step⟩
      exact ih ran (kept running step initially)

end State

/-! ## The weight -/

/-- How much there is still to do along a walk. -/
def walkWeight : Walk → Nat
  | .failed _ => 1
  | .last hits => 6 * hits.length + 2
  | .more hits _ next => 6 * hits.length + walkWeight next + 1

def Producer.weight : Producer → Nat
  | .opening walk => walkWeight walk + 1
  | .sending rest none => 6 * rest.length + 2
  | .sending rest (some (_, walk)) => 6 * rest.length + walkWeight walk + 1
  | .ended => 0

/-- How much there is still to do for a worker, with what it has in its hand. -/
def Worker.weight : Worker α → Nat
  | .waiting => 3
  | .listening => 2
  | .holding _ => 6
  | .delivering _ => 5
  | .ended => 0

def workersWeight : List (Worker α) → Nat
  | [] => 0
  | worker :: rest => worker.weight + workersWeight rest

private theorem workersWeight_split (front : List (Worker α)) (worker : Worker α)
    (back : List (Worker α)) :
    workersWeight (front ++ worker :: back) =
      worker.weight + (workersWeight front + workersWeight back) := by
  induction front with
  | nil => rw [List.nil_append, workersWeight, workersWeight, Nat.zero_add]
  | cons head tail ih =>
      rw [List.cons_append, workersWeight, workersWeight, ih]
      omega

namespace State

/-- How much there is still to do in a stream. -/
def weight (s : State α) : Nat :=
  s.producer.weight + 5 * s.channel.length + workersWeight s.workers +
    s.docs.length + s.ended.length + (if s.outcome.isNone then 1 else 0)

private theorem weight_answered_lt {s : State α} {call : Call} {walk : Walk}
    (due : s.producer.weight = walkWeight walk + 1) :
    (s.answered call walk).weight < s.weight := by
  cases walk <;> simp [answered, weight, Producer.weight, walkWeight] at due ⊢ <;> omega

end State

/-- Every step leaves less to do. -/
theorem Step.weight_lt {transform : Transform α} {s s' : State α} (step : Step transform s s')
    (running : s.outcome = none) : s'.weight < s.weight := by
  cases step with
  | opens ready => exact State.weight_answered_lt (by rw [ready, Producer.weight])
  | proceeds ready =>
      exact State.weight_answered_lt (by simp [ready, Producer.weight])
  | @sends hit rest next ready _ _ =>
      cases next <;> simp [State.weight, ready, Producer.weight] <;> omega
  | @abandons hit rest next ready _ =>
      cases next <;> simp [State.weight, ready, Producer.weight] <;> omega
  | finishes ready => simp [State.weight, ready, Producer.weight]; omega
  | receives ready oldest =>
      simp [State.weight, workersWeight_split, ready, oldest, Worker.weight]
      omega
  | listens ready _ | leaves ready _ _ | shapes ready _ | fails ready _ | crashes ready _
  | delivers ready _ =>
      simp [State.weight, workersWeight_split, ready, Worker.weight] <;> omega
  | collects oldest => simp [State.weight, oldest]
  | joins done => simp [State.weight, done]
  | @breaks front back _ failed =>
      have fewer : (front ++ back).length < s.ended.length := by
        rw [failed, List.length_append, List.length_append, List.length_cons]
        exact Nat.lt_succ_self _
      simp only [State.weight, running, Option.isNone_none, Option.isNone_some, if_true,
        Bool.false_eq_true, if_false]
      omega
  | concludes _ _ _ _ => simp [State.weight, running]

theorem State.weight_lt_of_act? {transform : Transform α} {action : Action} {s s' : State α}
    (taken : s.act? transform action = some s') : s'.weight < s.weight := by
  rcases State.step_of_act? taken with ⟨running, step⟩
  exact step.weight_lt running

end CriteriaSearch.Stream
