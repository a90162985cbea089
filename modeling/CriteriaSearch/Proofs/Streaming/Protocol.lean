import CriteriaSearch.Proofs.Streaming.Calls
import CriteriaSearch.Proofs.Streaming.Events

namespace CriteriaSearch
namespace Stream

/-!
# The protocol of a cursor

A cursor has to be read page by page: each call carries the handle of the page
before, and nothing is asked any more after a page without hits, a page without
a handle or a failure.  A producer moreover waits with its next call until the
channel has accepted all hits of the page that it has.

The script of a producer says all this for the walk as a whole.  A run shows
the beginning of the script, so `Follows` describes what the beginnings of a
script can look like, and the single rules of the protocol are read off it.
Since the channel and the workers have little room, a stream never holds many
hits: the producer fetches a page when the one before has gone.
-/

variable {α : Type} {transform : Transform α}

/-- What can be seen of a producer, from one of its calls on, that keeps to
the protocol of a cursor with the given pages ahead. -/
inductive Follows : Call → List ScrollPage → List Event → Prop where
  | silent (call : Call) (pages : List ScrollPage) : Follows call pages []
  /-- The call has brought no page. -/
  | unanswered (call : Call) : Follows call [] [.asked call]
  /-- Some hits of the page were accepted, in their order. -/
  | within {call : Call} {page : ScrollPage} {sent : List Hit} (pages : List ScrollPage)
      (inOrder : sent <+: page.hits) :
      Follows call (page :: pages) (.asked call :: sent.map .accepted)
  /-- All hits of the page were accepted, and its handle goes on. -/
  | further {call : Call} {page : ScrollPage} {scrollId : String} {pages : List ScrollPage}
      {events : List Event} (filled : page.hits ≠ []) (handle : page.scrollId = some scrollId)
      (later : Follows (.next scrollId) pages events) :
      Follows call (page :: pages) (.asked call :: (page.hits.map .accepted ++ events))

theorem follows_of_prefix {σ : Type} {backend : Backend σ} {keepAlive : String}
    {answer : Answer ScrollPage × σ} {pages : List ScrollPage} {failure : Option Failure}
    (served : backend.ServesFrom keepAlive answer pages failure)
    (ends : backend.EndsFrom keepAlive answer) {call : Call} {events : List Event}
    (begun : events <+: .asked call :: walkScript (backend.walkFrom keepAlive answer ends).walk) :
    Follows call pages events := by
  induction served generalizing call events with
  | failed cause after =>
      rw [Backend.walkFrom_failed] at begun
      rcases List.prefix_cons_iff.mp begun with rfl | ⟨shown, rfl, rest⟩
      · exact .silent call []
      · rw [List.prefix_nil.mp rest]
        exact .unanswered call
  | @last page after final =>
      rw [backend.walkFrom_last ends final] at begun
      rcases List.prefix_cons_iff.mp begun with rfl | ⟨shown, rfl, rest⟩
      · exact .silent call [page]
      · rcases List.prefix_map_iff.mp rest with ⟨sent, inOrder, rfl⟩
        exact .within [] inOrder
  | @more page after scrollId pages failure filled handle further ih =>
      have filled' : page.isExhausted = false := List.isEmpty_eq_false_iff.mpr filled
      rw [backend.walkFrom_more ends filled' handle] at begun
      rcases List.prefix_cons_iff.mp begun with rfl | ⟨shown, rfl, rest⟩
      · exact .silent call _
      · -- The beginning ends within the page, or it has the whole page and the next call.
        rcases List.prefix_or_prefix_of_prefix rest (List.prefix_append _ _) with first | later
        · rcases List.prefix_map_iff.mp first with ⟨sent, inOrder, rfl⟩
          exact .within pages inOrder
        · rcases later with ⟨events, rfl⟩
          have begun' := (List.prefix_append_right_inj _).mp rest
          exact .further filled handle (ih (ends.further filled' handle) begun')

/-! ## The rules of the protocol -/

/-- The hits of the pages that the calls have brought. -/
def fetched (pages : List ScrollPage) (calls : List Call) : List Hit :=
  (pages.take calls.length).flatMap ScrollPage.hits

theorem fetched_cons (page : ScrollPage) (pages : List ScrollPage) (call : Call)
    (calls : List Call) :
    fetched (page :: pages) (call :: calls) = page.hits ++ fetched pages calls :=
  rfl

/-- A call among the events comes after all hits that stand in front. -/
private theorem exists_of_map_accepted_append {hits : List Hit} {events front back : List Event}
    {call : Call} (parts : hits.map .accepted ++ events = front ++ .asked call :: back) :
    ∃ shown, front = hits.map .accepted ++ shown ∧ events = shown ++ .asked call :: back := by
  induction hits generalizing front with
  | nil => exact ⟨front, rfl, parts⟩
  | cons hit rest ih =>
      cases front with
      | nil => cases parts
      | cons first front =>
          rw [List.map_cons, List.cons_append, List.cons_append] at parts
          injection parts with same parts
          rcases ih parts with ⟨shown, rfl, made⟩
          exact ⟨shown, by rw [← same]; rfl, made⟩

namespace Follows

variable {call : Call} {pages : List ScrollPage} {events : List Event}

theorem asked_zero (follows : Follows call pages events) {first : Call}
    (made : (asked events)[0]? = some first) : first = call := by
  cases follows with
  | silent => cases made
  | _ => exact (Option.some.inj made).symm

/-- A later call carries the handle of the page before, which has hits. -/
theorem asked_succ (follows : Follows call pages events) {index : Nat} {later : Call}
    (made : (asked events)[index + 1]? = some later) :
    ∃ page scrollId, pages[index]? = some page ∧ page.hits ≠ [] ∧
      page.scrollId = some scrollId ∧ later = .next scrollId := by
  induction follows generalizing index with
  | silent => cases made
  | unanswered => cases made
  | within =>
      rw [asked_cons_asked, asked_map_accepted] at made
      cases made
  | @further call page scrollId pages events filled handle rest ih =>
      rw [asked_cons_asked, asked_append, asked_map_accepted, List.getElem?_cons_succ] at made
      cases index with
      | zero => exact ⟨page, scrollId, rfl, filled, handle, rest.asked_zero made⟩
      | succ index => exact ih made

/-- When a call is made all hits of the pages before were accepted. -/
theorem accepted_eq_fetched (follows : Follows call pages events) {front back : List Event}
    {later : Call} (made : events = front ++ .asked later :: back) :
    accepted front = fetched pages (asked front) := by
  induction follows generalizing front with
  | silent => cases front <;> cases made
  | unanswered call =>
      rcases List.cons_eq_append_iff.mp made with ⟨rfl, -⟩ | ⟨shown, rfl, rest⟩
      · rfl
      · cases shown <;> cases rest
  | within =>
      rcases List.cons_eq_append_iff.mp made with ⟨rfl, -⟩ | ⟨shown, rfl, rest⟩
      · rfl
      · -- No call stands among the hits of a page.
        rcases exists_of_map_accepted_append ((List.append_nil _).trans rest) with ⟨more, -, none⟩
        cases more <;> cases none
  | further filled handle rest ih =>
      rcases List.cons_eq_append_iff.mp made with ⟨rfl, -⟩ | ⟨shown, rfl, parts⟩
      · rfl
      · rcases exists_of_map_accepted_append parts with ⟨more, rfl, later⟩
        rw [accepted_cons_asked, accepted_append, accepted_map_accepted, ih later,
          asked_cons_asked, asked_append, asked_map_accepted, List.nil_append, fetched_cons]

/-- The hits that were not accepted are the last ones of the latest page. -/
theorem exists_unsent (follows : Follows call pages events) :
    ∃ unsent, fetched pages (asked events) = accepted events ++ unsent ∧
      unsent <:+ pages[(asked events).length - 1]?.elim [] ScrollPage.hits := by
  induction follows with
  | silent => exact ⟨[], rfl, List.nil_suffix⟩
  | unanswered => exact ⟨[], rfl, List.nil_suffix⟩
  | @within call page sent pages inOrder =>
      rcases inOrder with ⟨unsent, parts⟩
      refine ⟨unsent, ?_, ?_⟩
      · rw [asked_cons_asked, asked_map_accepted, accepted_cons_asked, accepted_map_accepted,
          fetched_cons, parts]
        exact List.append_nil _
      · rw [asked_cons_asked, asked_map_accepted]
        exact ⟨sent, parts⟩
  | @further call page scrollId pages events filled handle rest ih =>
      rcases ih with ⟨unsent, parts, tail⟩
      rw [asked_cons_asked, asked_append, asked_map_accepted, List.nil_append,
        accepted_cons_asked, accepted_append, accepted_map_accepted, fetched_cons]
      refine ⟨unsent, by rw [parts, List.append_assoc], ?_⟩
      cases calls : asked events with
      | nil =>
          -- Without another call this page is still the latest, and all of it was accepted.
          rw [calls] at parts
          rw [(List.append_eq_nil_iff.mp parts.symm).2]
          exact List.nil_suffix
      | cons first later =>
          rw [calls] at tail
          exact tail

end Follows

/-! ## The calls that the backend gets -/

/-- What the backend gets with a call. -/
def Call.sent (request : ScrollRequest) : Call → Backend.Call
  | .start => .scrollStart request
  | .next scrollId => .scrollNext scrollId request.keepAlive

theorem asked_walkScript (walk : Walk) : asked (walkScript walk) = walk.scrollIds.map .next := by
  induction walk with
  | failed cause => rfl
  | last hits => exact asked_map_accepted hits
  | more hits scrollId next ih =>
      rw [walkScript, asked_append, asked_map_accepted, List.nil_append, asked_cons_asked, ih]
      rfl

namespace State

/-- The stream has not made its first call.  Its workers wait for hits then,
and nothing else happens. -/
structure Unopened (walk : Walk) (s : State α) : Prop where
  ready : s.producer = .opening walk
  empty : s.channel = []
  idle : ∀ worker ∈ s.workers, worker = .waiting ∨ worker = .listening
  unended : s.ended = []
  running : s.outcome = none

theorem unopened_start (walk : Walk) (size workers : Nat) :
    (start walk size workers : State α).Unopened walk where
  ready := rfl
  empty := rfl
  idle _ member := Or.inl (List.eq_of_mem_replicate member)
  unended := rfl
  running := rfl

end State

theorem Step.unopened {walk : Walk} {s s' : State α} (step : Step transform s s')
    (before : s.calls = [] → s.Unopened walk) (uncalled : s'.calls = []) : s'.Unopened walk := by
  have called := step.calls_append
  rw [uncalled] at called
  rcases List.append_eq_nil_iff.mp called with ⟨none, nothing⟩
  rcases before none with ⟨start, empty, idle, unended, running⟩
  cases step with
  | opens ready | proceeds ready =>
      rw [seen_answered] at nothing
      cases nothing
  | sends ready | abandons ready | finishes ready => cases start.symm.trans ready
  | listens ready =>
      rw [ready, List.forall_mem_append, List.forall_mem_cons] at idle
      rcases idle with ⟨front, -, back⟩
      refine ⟨start, empty, ?_, unended, running⟩
      rw [List.forall_mem_append, List.forall_mem_cons]
      exact ⟨front, Or.inr rfl, back⟩
  | receives ready oldest => cases empty.symm.trans oldest
  | leaves ready _ finished => cases start.symm.trans finished
  | shapes ready | fails ready | crashes ready | delivers ready =>
      rw [ready, List.forall_mem_append, List.forall_mem_cons] at idle
      rcases idle.2.1 with other | other <;> cases other
  | collects => exact ⟨start, empty, idle, unended, running⟩
  | joins done => simp [unended] at done
  | breaks failed => simp [unended] at failed
  | concludes finished => cases start.symm.trans finished

/-! ## Runs -/

section Request

variable {σ : Type} {backend : Backend σ} {request : ScrollRequest} {before : σ}
  [backend.Ends request before] {workers : Nat}
  {pages : List ScrollPage} {failure : Option Failure} {actions : List Action} {s : State α}

/-- A stream does not return before its first call. -/
theorem calls_ne_nil_of_outcome
    (ran : (initial backend request before workers).acts? transform actions = some s)
    (returned : s.outcome ≠ none) : s.calls ≠ [] := by
  intro uncalled
  have unopened : s.calls = [] → s.Unopened (backend.walk request before).walk :=
    State.acts?_induction (fun _ step before => step.unopened before) ran
      fun _ => State.unopened_start _ _ _
  exact returned (unopened uncalled).running

/-- The events of a run and the script that is left are the script of the walk. -/
theorem events_append_script
    (ran : (initial backend request before workers).acts? transform actions = some s) :
    (initial backend request before workers).events transform actions ++ s.producer.script =
      .asked .start :: walkScript (backend.walk request before).walk :=
  State.events_append_script (State.sound_start _ request.size workers) ran

theorem follows_of_acts? (served : backend.Serves request before pages failure)
    (ran : (initial backend request before workers).acts? transform actions = some s) :
    Follows .start pages
      ((initial backend request before workers).events transform actions) := by
  exact follows_of_prefix served Backend.Ends.endsFrom ⟨_, events_append_script ran⟩

theorem asked_of_acts?
    (ran : (initial backend request before workers).acts? transform actions = some s) :
    asked ((initial backend request before workers).events transform actions) = s.calls :=
  State.calls_append_asked ran

/-- Every hit that was accepted is waiting, or the transform has had it. -/
theorem accepted_perm_of_acts?
    (ran : (initial backend request before workers).acts? transform actions = some s) :
    (accepted ((initial backend request before workers).events transform actions)).Perm
      ((initial backend request before workers).transformed transform actions ++ s.waiting) := by
  have kept := State.waiting_perm ran
  rw [initial, State.waiting_start, List.nil_append, ← initial] at kept
  exact kept.trans List.perm_append_comm

/-- The calls of a run are the first ones of the walk. -/
theorem calls_prefix_of_acts?
    (ran : (initial backend request before workers).acts? transform actions = some s) :
    s.calls <+: .start :: (backend.walk request before).walk.scrollIds.map .next := by
  have script := congrArg asked (events_append_script ran)
  rw [asked_append, asked_of_acts? ran, asked_cons_asked, asked_walkScript] at script
  exact ⟨_, script⟩

/-- After the calls of a run the backend has got just these calls. -/
theorem exists_state_of_acts?
    (ran : (initial backend request before workers).acts? transform actions = some s)
    (earlier : List Backend.Call) :
    ∃ after, ((before, earlier) ::
        (backend.watched.walk request (before, earlier)).states)[s.calls.length]? =
      some (after, earlier ++ s.calls.map (Call.sent request)) := by
  have first := calls_prefix_of_acts? ran
  have enough := length_calls_le_of_acts? backend request before workers ran
  cases calls : s.calls with
  | nil => exact ⟨before, congrArg some (Prod.ext rfl (List.append_nil _).symm)⟩
  | cons call later =>
      have shown := backend.shows_walk request before earlier
      rw [calls] at first enough
      rcases List.cons_prefix_cons.mp first with ⟨rfl, rest⟩
      have inside :
          later.length < (backend.watched.walk request (before, earlier)).states.length := by
        rwa [← List.length_map Prod.fst, shown.states, shown.length]
      have listed := backend.snd_of_getElem?_states (List.getElem?_eq_getElem inside)
      have sent : later.map (Call.sent request) =
          ((backend.walk request before).walk.scrollIds.take later.length).map
            (Backend.Call.scrollNext · request.keepAlive) := by
        have first := congrArg (List.map (Call.sent request)) (List.prefix_iff_eq_take.mp rest)
        rw [first, ← List.map_take, List.map_map]
        rfl
      refine ⟨_, (List.getElem?_eq_getElem inside).trans (congrArg some (Prod.ext rfl ?_))⟩
      rw [listed, List.map_cons, sent]
      rfl

/-! ## The protocol -/

/-- A run has kept to the protocol of a cursor with the given pages.  The
events are those of the run, and the transform has had the hits given last. -/
structure KeepsProtocol (backend : Backend σ) (request : ScrollRequest) (before : σ)
    [backend.Ends request before] (workers : Nat) (pages : List ScrollPage) (s : State α)
    (events : List Event) (transformed : List Hit) : Prop where
  listed : asked events = s.calls
  /-- The backend gets the calls one after the other, with the request and with the time for
  which a handle is kept. -/
  sent : ∀ earlier : List Backend.Call, ∃ after,
    ((before, earlier) ::
        (backend.watched.walk request (before, earlier)).states)[s.calls.length]? =
      some (after, earlier ++ s.calls.map (Call.sent request))
  opened : ∀ call, s.calls[0]? = some call → call = .start
  /-- A later call has the handle of the page that the call before it has brought, and that page
  has hits. -/
  continued : ∀ index call, s.calls[index + 1]? = some call →
    ∃ page scrollId, pages[index]? = some page ∧ page.hits ≠ [] ∧
      page.scrollId = some scrollId ∧ call = .next scrollId
  /-- Before a call is made the channel has accepted all hits of the pages before, in their
  order. -/
  patient : ∀ front call back, events = front ++ .asked call :: back →
    accepted front = fetched pages (asked front)
  /-- The hits that were fetched and not transformed are the unsent rest of the latest page, and
  no more than what the channel and the workers can hold. -/
  bounded : ∃ unsent pending,
    fetched pages s.calls = accepted events ++ unsent ∧
      unsent <:+ pages[s.calls.length - 1]?.elim [] ScrollPage.hits ∧
      (fetched pages s.calls).Perm (transformed ++ pending) ∧
      pending.length ≤ unsent.length + max 1 request.size + max 1 workers

theorem keepsProtocol_of_acts? (served : backend.Serves request before pages failure)
    (ran : (initial backend request before workers).acts? transform actions = some s) :
    KeepsProtocol backend request before workers pages s
      ((initial backend request before workers).events transform actions)
      ((initial backend request before workers).transformed transform actions) := by
  have follows := follows_of_acts? served ran
  have listed := asked_of_acts? ran
  refine ⟨listed, exists_state_of_acts? ran, ?_, ?_, ?_, ?_⟩
  · intro call made
    rw [← listed] at made
    exact follows.asked_zero made
  · intro index call made
    rw [← listed] at made
    exact follows.asked_succ made
  · intro front call back made
    exact follows.accepted_eq_fetched made
  · rcases follows.exists_unsent with ⟨unsent, parts, tail⟩
    rw [listed] at parts tail
    refine ⟨unsent, unsent ++ s.waiting, parts, tail, ?_, ?_⟩
    · rw [parts]
      refine ((accepted_perm_of_acts? ran).append_right unsent).trans ?_
      rw [List.append_assoc]
      exact List.perm_append_comm.append_left _
    · have room := (State.bounded_of_acts? ran).length_waiting_le
      rw [List.length_append]
      omega

variable (backend before workers) in
/-- A stream that can be made leaves the backend with the calls of a run that
has returned. -/
theorem exists_acts?_fetchAll_watched (fits : max 1 request.size ≤ channelLimit)
    (transform : Transform α) (schedule : Schedule α) (earlier : List Backend.Call) :
    let result := fetchAll backend.watched transform workers schedule request (before, earlier)
    ∃ actions s, (initial backend request before workers).acts? transform actions = some s ∧
      s.outcome = some result.1 ∧ result.2.2 = earlier ++ s.calls.map (Call.sent request) := by
  intro result
  have same : (initial backend.watched request (before, earlier) workers : State α) =
      initial backend request before workers := by
    rw [initial, initial, (backend.shows_walk request before earlier).walk]
  have made : ¬ channelLimit < (initial backend request before workers : State α).capacity :=
    Nat.not_lt.mpr fits
  have ends : ∃ actions, (initial backend request before workers).acts? transform actions =
      some (run transform schedule (initial backend request before workers)) :=
    exists_acts?_run schedule _
  rcases ends with ⟨actions, ran⟩
  have answered := outcome_ne_none_of_step? (State.sound_of_acts? ran) (step?_run schedule _)
  rcases List.exists_cons_of_ne_nil (calls_ne_nil_of_outcome ran answered) with
    ⟨first, later, calls⟩
  rcases Option.ne_none_iff_exists'.mp answered with ⟨outcome, given⟩
  rcases exists_state_of_acts? ran earlier with ⟨after, reached⟩
  refine ⟨actions, _, ran, ?_, ?_⟩
  · simp only [result, fetchAll, same, if_neg made, given, Option.getD_some]
  · rw [calls, List.length_cons, List.getElem?_cons_succ] at reached
    simp only [result, fetchAll, same, if_neg made, calls, List.length_cons, Nat.add_sub_cancel,
      List.getD_eq_getElem?_getD, reached, Option.getD_some]

/-- Every run of a stream keeps to the protocol at every moment.  Under any
schedule the backend is left with the calls of a run, which has returned unless
the channels could not be made. -/
theorem runs_keep_protocol (served : backend.Serves request before pages failure)
    (transform : Transform α) :
    (∀ actions s, (initial backend request before workers).acts? transform actions = some s →
        KeepsProtocol backend request before workers pages s
          ((initial backend request before workers).events transform actions)
          ((initial backend request before workers).transformed transform actions)) ∧
      ∀ schedule earlier,
        let result := fetchAll backend.watched transform workers schedule request (before, earlier)
        ∃ actions s, (initial backend request before workers).acts? transform actions = some s ∧
          (max 1 request.size ≤ channelLimit → s.outcome = some result.1) ∧
          result.2.2 = earlier ++ s.calls.map (Call.sent request) := by
  constructor
  · intro actions s ran
    exact keepsProtocol_of_acts? served ran
  · intro schedule earlier
    by_cases fits : max 1 request.size ≤ channelLimit
    · rcases exists_acts?_fetchAll_watched backend before workers fits transform schedule earlier
        with ⟨actions, s, ran, returned, sent⟩
      exact ⟨actions, s, ran, fun _ => returned, sent⟩
    · have crashes : channelLimit <
          (initial backend.watched request (before, earlier) workers : State α).capacity :=
        Nat.lt_of_not_le fits
      refine ⟨[], initial backend request before workers, rfl, fun made => absurd made fits, ?_⟩
      rw [fetchAll, if_pos crashes]
      exact (List.append_nil earlier).symm

/-- One worker of two has the hit of the first page in its hand when the second
page is there. -/
theorem runs_keep_protocol_twoPages :
    ∃ s : State String,
      (initial Backend.scripted default (Backend.script Backend.twoPages none) 2).acts?
          (fun hit => .doc hit.id) [.call, .send, .listen 1, .receive 1, .listen 0, .call] =
        some s ∧
      s.calls = [.start, .next "next"] ∧
      KeepsProtocol Backend.scripted default (Backend.script Backend.twoPages none) 2
        Backend.twoPages s
        [.asked .start, .accepted { id := "a" }, .asked (.next "next")] [] := by
  have runs : ((initial Backend.scripted default (Backend.script Backend.twoPages none) 2).acts?
      (fun hit => .doc hit.id) [.call, .send, .listen 1, .receive 1, .listen 0, .call]).map
        (fun s : State String => s.calls) = some [.start, .next "next"] := by
    rw [initial, Backend.walk_twoPages]
    rfl
  rcases Option.map_eq_some_iff.mp runs with ⟨s, ran, calls⟩
  have served := Backend.serves_script default Backend.isCursor_twoPages
  refine ⟨s, ran, calls, ?_⟩
  have kept := (runs_keep_protocol served fun hit => .doc hit.id).1 _ s ran
  rw [initial, Backend.walk_twoPages] at kept
  exact kept

end Request

end Stream
end CriteriaSearch
