import CriteriaSearch.Proofs.Streaming.Invariant

namespace CriteriaSearch
namespace Stream

/-!
# What can be seen of a run

Two things that a producer does can be seen from the outside.  It calls the
backend, and the channel accepts a hit from it.  The states before and after a
step tell whether either has happened, since calls and hits are put behind
those before them.

What a producer has still to show is its script.  A step shows the first event
of the script or none at all, so the events of a run, followed by the script
that is left, are the script of the start.  That holds of every run, and hence
at every moment of a run.

A hit that was accepted is waiting until a worker shapes it: it is in the
channel, or a worker has it in its hand.  So there are never more such hits
than the channel and the workers can hold.
-/

variable {α : Type} {transform : Transform α} {s s' : State α}

/-! ## Events -/

/-- What can be seen of a producer. -/
inductive Event where
  | asked (call : Call)
  /-- The channel has taken a hit in. -/
  | accepted (hit : Hit)

def Event.call? : Event → Option Call
  | .asked call => some call
  | .accepted _ => none

def Event.hit? : Event → Option Hit
  | .asked _ => none
  | .accepted hit => some hit

/-- The calls among the events. -/
def asked (events : List Event) : List Call :=
  events.filterMap Event.call?

/-- The hits that were accepted. -/
def accepted (events : List Event) : List Hit :=
  events.filterMap Event.hit?

theorem asked_append (front back : List Event) :
    asked (front ++ back) = asked front ++ asked back :=
  List.filterMap_append

theorem accepted_append (front back : List Event) :
    accepted (front ++ back) = accepted front ++ accepted back :=
  List.filterMap_append

@[simp] theorem asked_cons_asked (call : Call) (events : List Event) :
    asked (.asked call :: events) = call :: asked events :=
  rfl

@[simp] theorem accepted_cons_asked (call : Call) (events : List Event) :
    accepted (.asked call :: events) = accepted events :=
  rfl

theorem asked_map_asked (calls : List Call) : asked (calls.map .asked) = calls := by
  rw [asked, List.filterMap_map]
  exact List.filterMap_some

theorem asked_map_accepted (hits : List Hit) : asked (hits.map .accepted) = [] := by
  rw [asked, List.filterMap_map]
  exact List.filterMap_eq_nil_iff.mpr fun _ _ => rfl

theorem accepted_map_asked (calls : List Call) : accepted (calls.map .asked) = [] := by
  rw [accepted, List.filterMap_map]
  exact List.filterMap_eq_nil_iff.mpr fun _ _ => rfl

theorem accepted_map_accepted (hits : List Hit) : accepted (hits.map .accepted) = hits := by
  rw [accepted, List.filterMap_map]
  exact List.filterMap_some

/-- What a step has shown: the calls and the hits that it has added. -/
def seen (before after : State α) : List Event :=
  (after.calls.drop before.calls.length).map .asked ++
    (after.channel.drop before.channel.length).map .accepted

theorem asked_seen (before after : State α) :
    asked (seen before after) = after.calls.drop before.calls.length := by
  rw [seen, asked_append, asked_map_asked, asked_map_accepted, List.append_nil]

theorem accepted_seen (before after : State α) :
    accepted (seen before after) = after.channel.drop before.channel.length := by
  rw [seen, accepted_append, accepted_map_asked, accepted_map_accepted, List.nil_append]

theorem seen_answered (s : State α) (call : Call) (walk : Walk) :
    seen s (s.answered call walk) = [.asked call] := by
  cases walk <;> simp [seen, State.answered]

/-! ## Runs -/

namespace State

/-- What the steps of a run add to something, in their order. -/
def along {β : Type} (transform : Transform α) (added : State α → State α → List β) :
    List Action → State α → List β
  | [], _ => []
  | action :: rest, s =>
    match s.act? transform action with
    | none => []
    | some after => added s after ++ after.along transform added rest

theorem along_cons {β : Type} {added : State α → State α → List β} {action : Action}
    (taken : s.act? transform action = some s') (rest : List Action) :
    s.along transform added (action :: rest) = added s s' ++ s'.along transform added rest := by
  rw [along, taken]

/-- The events of a run, in their order. -/
def events (transform : Transform α) (actions : List Action) (s : State α) : List Event :=
  s.along transform seen actions

end State

/-- Calls are put behind the calls before. -/
theorem Step.calls_append (step : Step transform s s') :
    s.calls ++ asked (seen s s') = s'.calls := by
  rw [asked_seen]
  cases step with
  | @opens walk | @proceeds _ walk => cases walk <;> simp [State.answered]
  | _ => simp

theorem State.calls_append_asked {actions : List Action}
    (ran : s.acts? transform actions = some s') :
    s.calls ++ asked (s.events transform actions) = s'.calls := by
  induction actions generalizing s with
  | nil =>
      cases ran
      exact List.append_nil _
  | cons action rest ih =>
      rcases Option.bind_eq_some_iff.mp ran with ⟨middle, taken, ran⟩
      rw [events, along_cons taken, asked_append, ← List.append_assoc,
        (step_of_act? taken).2.calls_append]
      exact ih ran

/-! ## The script -/

/-- The events along a walk from its first answer on. -/
def walkScript : Walk → List Event
  | .failed _ => []
  | .last hits => hits.map .accepted
  | .more hits scrollId next => hits.map .accepted ++ .asked (.next scrollId) :: walkScript next

/-- The events that a producer has still to show. -/
def Producer.script : Producer → List Event
  | .opening walk => .asked .start :: walkScript walk
  | .sending rest next =>
    rest.map .accepted ++
      next.elim [] fun further => .asked (.next further.1) :: walkScript further.2
  | .ended => []

theorem script_answered (s : State α) (call : Call) (walk : Walk) :
    (s.answered call walk).producer.script = walkScript walk := by
  cases walk with
  | failed cause => rfl
  | last hits => exact List.append_nil _
  | more hits scrollId next => rfl

/-- A step shows the beginning of the script, as long as somebody holds on to
the receiving end. -/
theorem Step.seen_append_script (step : Step transform s s') (heard : s.receivers ≠ 0) :
    seen s s' ++ s'.producer.script = s.producer.script := by
  cases step with
  | opens ready =>
      rw [seen_answered, script_answered, ready]
      rfl
  | proceeds ready =>
      rw [seen_answered, script_answered, ready]
      rfl
  | sends ready => simp [seen, ready, Producer.script]
  | abandons ready unheard => exact absurd unheard heard
  | finishes ready => simp [seen, ready, Producer.script]
  | receives ready oldest => simp [seen, oldest]
  -- Whatever else happens is none of the producer's business.
  | _ => simp [seen]

/-- The events of a run and the script that is left make up the script of the
start. -/
theorem State.events_append_script {walk : Walk} (sound : s.Sound transform walk)
    {actions : List Action} (ran : s.acts? transform actions = some s') :
    s.events transform actions ++ s'.producer.script = s.producer.script := by
  induction actions generalizing s with
  | nil =>
      cases ran
      exact List.nil_append _
  | cons action rest ih =>
      rcases Option.bind_eq_some_iff.mp ran with ⟨middle, taken, ran⟩
      rcases step_of_act? taken with ⟨running, step⟩
      rw [events, along_cons taken, List.append_assoc,
        ← step.seen_append_script sound.receivers_ne_zero]
      exact congrArg (seen s middle ++ ·) (ih (sound.step running step) ran)

/-! ## Hits that wait -/

/-- The hit in the hand of a worker. -/
def Worker.hit? : Worker α → Option Hit
  | .holding hit => some hit
  | _ => none

/-- The hit that a worker has let go of between two states. -/
def Worker.dropped? : Worker α × Worker α → Option Hit
  | (.holding _, .holding _) => none
  | (.holding hit, _) => some hit
  | _ => none

/-- The hits that workers have let go of: a worker does so when the transform
has had the hit, whatever came of it. -/
def dropped (before after : List (Worker α)) : List Hit :=
  (before.zip after).filterMap Worker.dropped?

@[simp] theorem dropped_self (workers : List (Worker α)) : dropped workers workers = [] := by
  induction workers with
  | nil => rfl
  | cons worker rest ih => cases worker <;> simpa [dropped, Worker.dropped?] using ih

@[simp] theorem dropped_split (front back : List (Worker α)) (old new : Worker α) :
    dropped (front ++ old :: back) (front ++ new :: back) =
      (Worker.dropped? (old, new)).toList := by
  have same (workers : List (Worker α)) :
      (workers.zip workers).filterMap Worker.dropped? = [] := dropped_self workers
  rw [dropped, List.zip_append rfl, List.filterMap_append, same, List.zip_cons_cons,
    List.nil_append, List.filterMap_cons, same]
  cases Worker.dropped? (old, new) <;> rfl

namespace State

/-- The hits that were accepted and not shaped. -/
def waiting (s : State α) : List Hit :=
  s.channel ++ s.workers.filterMap Worker.hit?

/-- The hits that the transform has had in a run. -/
def transformed (transform : Transform α) (actions : List Action) (s : State α) : List Hit :=
  s.along transform (fun before after => dropped before.workers after.workers) actions

end State

theorem State.waiting_start (walk : Walk) (size workers : Nat) :
    (start walk size workers : State α).waiting = [] := by
  simp [waiting, start, Worker.hit?]

/-- A hit that was waiting or is accepted waits or is let go of. -/
theorem Step.waiting_perm (step : Step transform s s') :
    (s.waiting ++ accepted (seen s s')).Perm (s'.waiting ++ dropped s.workers s'.workers) := by
  classical
  rw [accepted_seen, List.perm_iff_count]
  intro hit
  cases step with
  | @opens walk | @proceeds _ walk =>
      cases walk <;> simp [State.answered, State.waiting]
  | sends => simp [State.waiting, List.count_cons]
  | receives ready oldest =>
      simp [State.waiting, ready, oldest, Worker.dropped?, Worker.hit?, List.filterMap_cons,
        List.count_cons, List.drop_eq_nil_of_le]
      omega
  | listens ready | leaves ready | delivers ready =>
      simp [State.waiting, ready, Worker.dropped?, Worker.hit?, List.filterMap_cons]
  | shapes ready | fails ready | crashes ready =>
      simp [State.waiting, ready, Worker.dropped?, Worker.hit?, List.filterMap_cons,
        List.count_cons]
  | abandons | finishes | collects | joins | breaks | concludes => simp [State.waiting]

/-- A hit that was waiting at the start of a run or was accepted in it waits at
the end, or the transform has had it. -/
theorem State.waiting_perm {actions : List Action} (ran : s.acts? transform actions = some s') :
    (s.waiting ++ accepted (s.events transform actions)).Perm
      (s'.waiting ++ s.transformed transform actions) := by
  induction actions generalizing s with
  | nil =>
      cases ran
      exact List.Perm.refl _
  | cons action rest ih =>
      rcases Option.bind_eq_some_iff.mp ran with ⟨middle, taken, ran⟩
      have first := (step_of_act? taken).2.waiting_perm
      have later := ih ran
      rw [events, transformed, along_cons taken, along_cons taken, accepted_append]
      rw [events, transformed] at later
      classical
      rw [List.perm_iff_count] at first later ⊢
      intro hit
      have first := first hit
      have later := later hit
      simp only [List.count_append] at first later ⊢
      omega

/-! ## Room for hits -/

/-- What keeps the hits that wait within bounds. -/
structure State.Bounded (size workers : Nat) (s : State α) : Prop where
  capacity : s.capacity = max 1 size
  channel : s.channel.length ≤ max 1 size
  staff : s.workers.length = max 1 workers

theorem Step.bounded {size workers : Nat} (step : Step transform s s')
    (bounded : s.Bounded size workers) : s'.Bounded size workers := by
  rcases bounded with ⟨capacity, channel, staff⟩
  cases step with
  | @opens walk | @proceeds _ walk => cases walk <;> exact ⟨capacity, channel, staff⟩
  | sends _ _ room =>
      rw [capacity] at room
      refine ⟨capacity, ?_, staff⟩
      rw [List.length_append]
      exact room
  | receives ready oldest =>
      rw [oldest] at channel
      rw [ready] at staff
      refine ⟨capacity, Nat.le_of_succ_le channel, ?_⟩
      simpa using staff
  | listens ready | leaves ready | shapes ready | fails ready | crashes ready | delivers ready =>
      rw [ready] at staff
      refine ⟨capacity, channel, ?_⟩
      simpa using staff
  | abandons | finishes | collects | joins | breaks | concludes =>
      exact ⟨capacity, channel, staff⟩

namespace State

theorem bounded_of_acts? {walk : Walk} {size workers : Nat} {actions : List Action}
    (ran : (start walk size workers : State α).acts? transform actions = some s) :
    s.Bounded size workers := by
  refine acts?_induction (fun _ step bounded => step.bounded bounded) ran ?_
  refine ⟨rfl, Nat.zero_le _, ?_⟩
  exact List.length_replicate

theorem Bounded.length_waiting_le {size workers : Nat} (bounded : s.Bounded size workers) :
    s.waiting.length ≤ max 1 size + max 1 workers := by
  have hands := List.length_filterMap_le Worker.hit? s.workers
  rw [bounded.staff] at hands
  rw [waiting, List.length_append]
  exact Nat.add_le_add bounded.channel hands

end State

end Stream
end CriteriaSearch
