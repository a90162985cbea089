import CriteriaSearch.Proofs.Backend.Calls
import CriteriaSearch.Proofs.Settings.Acceptance
import Mathlib.Data.Int.CardIntervalMod
import Mathlib.Logic.Relation

namespace CriteriaSearch

/-!
# Nodes take turns

A client and its copies have one counter between them.  A call takes a turn
before it does anything else, and the turn decides which node the call is for.
What follows can take any time, and other calls may start and finish meanwhile:
they find other turns, and they do not touch that of the call.

So the turns are handed out in the order in which calls start, whoever makes
them and whether or not they succeed.  Up to the last value of the counter the
node of the next turn is the next one on the list, which makes the use of the
nodes even.  When the counter starts over, the order may jump to the first node
from another one than the last, but no turn ever leaves the list.
-/

namespace Client

/-! ## A call in two halves -/

/-- The request of a call, built for a node. -/
def draft (client : Client) : Backend.Call → Url → Answer HttpRequest
  | .search request => client.post s!"{client.index}/_search" request.body id
  | .scrollStart request =>
    client.post s!"{client.index}/_search" request.body (·.addPair "scroll" request.keepAlive)
  | .scrollNext scrollId keepAlive =>
    client.post "_search/scroll"
      (Json.object [("scroll", .str keepAlive), ("scroll_id", .str scrollId)]) id
  | .count query =>
    client.post s!"{client.index}/_count" (Json.object [("query", query.source)]) id
  | .get id => client.fetch id

/-- The state after a call, whatever its answer is. -/
def perform (client : Client) (call : Backend.Call) (state : State) : State :=
  match call with
  | .search request => (client.backend.search request state).2
  | .scrollStart request => (client.backend.scrollStart request state).2
  | .scrollNext scrollId keepAlive => (client.backend.scrollNext scrollId keepAlive state).2
  | .count query => (client.backend.count query state).2
  | .get id => (client.backend.get id state).2

/-- The state after the second half of a call: a request that could be built
is sent. -/
def settled (draft : Answer HttpRequest) (state : State) : State :=
  match draft with
  | .error _ => state
  | .ok request => (send request state).2

/-- The first half of a call takes the next turn, the second one sends what was
built for the node of the turn. -/
theorem call_snd {α : Type} (client : Client) (build : Url → Answer HttpRequest)
    (read : HttpResponse → Answer α) (state : State) :
    (client.call build read state).2 =
      settled (build (client.nodeAt state.turn)) { state with turn := state.turn + 1 } := by
  simp only [call]
  cases build (client.nodeAt state.turn) with
  | error cause => rfl
  | ok request =>
      simp only [settled]
      split <;> rename_i sent <;> rw [sent]

theorem perform_eq (client : Client) (call : Backend.Call) (state : State) :
    client.perform call state =
      settled (client.draft call (client.nodeAt state.turn))
        { state with turn := state.turn + 1 } := by
  cases call <;> exact client.call_snd _ _ state

@[simp] theorem turn_settled (draft : Answer HttpRequest) (state : State) :
    (settled draft state).turn = state.turn := by
  unfold settled send
  split
  · rfl
  · split
    · rfl
    · dsimp only
      split <;> rfl

/-- At most the request that was built is sent, and at most once. -/
theorem exchanges_settled (draft : Answer HttpRequest) (state : State) :
    ∃ sent, (settled draft state).exchanges = state.exchanges ++ sent ∧ sent.length ≤ 1 ∧
      ∀ exchange ∈ sent, draft = .ok exchange.request := by
  cases draft with
  | error cause => exact ⟨[], by simp [settled]⟩
  | ok request =>
      simp only [settled, send]
      cases obstacle? request.url with
      | some obstacle => exact ⟨[], by simp⟩
      | none =>
          refine ⟨[{ request, reply := state.network.next.1 }], ?_, Nat.le_refl 1, ?_⟩
          · dsimp only
            split <;> rfl
          · intro exchange listed
            rw [List.mem_singleton.mp listed]

/-! ## Calls of many copies -/

/-- A call that one of the copies of a client makes, and the turn it has. -/
structure Turn (κ : Type) where
  caller : κ
  call : Backend.Call
  turn : UInt64

/-- What the copies of a client share, with the calls that they are about. -/
structure Traffic (κ : Type) where
  state : State
  /-- The calls that have started and not finished. -/
  waiting : List (Turn κ) := []
  /-- All calls that have started, in this order. -/
  turns : List (Turn κ) := []

variable {κ : Type}

/-- What can happen next: a copy starts a call, or a call that waits finishes. -/
inductive Step (client : Client) : Traffic κ → Traffic κ → Prop
  | start (s : Traffic κ) (caller : κ) (call : Backend.Call) :
      Step client s {
        state := { s.state with turn := s.state.turn + 1 }
        waiting := s.waiting ++ [⟨caller, call, s.state.turn⟩]
        turns := s.turns ++ [⟨caller, call, s.state.turn⟩] }
  | finish (s : Traffic κ) (front back : List (Turn κ)) (turn : Turn κ)
      (waits : s.waiting = front ++ turn :: back) :
      Step client s { s with
        state := settled (client.draft turn.call (client.nodeAt turn.turn)) s.state
        waiting := front ++ back }

/-- What can have happened since a client was made. -/
def Reaches (client : Client) (network : Network) (s : Traffic κ) : Prop :=
  Relation.ReflTransGen client.Step { state := { network } } s

/-- A call that is not interrupted starts and finishes at once. -/
theorem reflTransGen_perform (client : Client) (s : Traffic κ) (caller : κ)
    (call : Backend.Call) :
    Relation.ReflTransGen client.Step s { s with
      state := client.perform call s.state
      turns := s.turns ++ [⟨caller, call, s.state.turn⟩] } := by
  have finish : client.Step {
      state := { s.state with turn := s.state.turn + 1 }
      waiting := s.waiting ++ [⟨caller, call, s.state.turn⟩]
      turns := s.turns ++ [⟨caller, call, s.state.turn⟩] } _ :=
    .finish _ s.waiting [] _ rfl
  rw [List.append_nil, ← client.perform_eq] at finish
  exact (Relation.ReflTransGen.single (.start s caller call)).tail finish

/-! ## Turns are taken in order -/

/-- The turns are those that the counter has gone through, one for each call
that has started.  Whatever was sent, was built for the turn of such a call. -/
structure InTurn (client : Client) (s : Traffic κ) : Prop where
  /-- Each call has taken one turn, in the order in which the calls started. -/
  counted : s.turns.map Turn.turn = (List.range s.turns.length).map UInt64.ofNat
  /-- The counter has gone on by one for each call. -/
  next : s.state.turn = UInt64.ofNat s.turns.length
  started : s.waiting ⊆ s.turns
  routed : ∀ exchange ∈ s.state.exchanges, ∃ turn ∈ s.turns,
    client.draft turn.call (client.nodeAt turn.turn) = .ok exchange.request
  /-- No call reaches more than one node, and one that waits has not reached
  any. -/
  sent : s.state.exchanges.length + s.waiting.length ≤ s.turns.length

theorem inTurn_start (client : Client) (network : Network) :
    client.InTurn ({ state := { network } } : Traffic κ) where
  counted := rfl
  next := rfl
  started := List.Subset.refl []
  routed _ listed := absurd listed List.not_mem_nil
  sent := Nat.le_refl 0

variable {client : Client} {s t : Traffic κ}

theorem InTurn.start (ordered : client.InTurn s) (caller : κ) (call : Backend.Call) :
    client.InTurn {
      state := { s.state with turn := s.state.turn + 1 }
      waiting := s.waiting ++ [⟨caller, call, s.state.turn⟩]
      turns := s.turns ++ [⟨caller, call, s.state.turn⟩] } where
  counted := by
    rw [List.length_append, List.length_singleton, List.range_succ, List.map_append,
      List.map_append, ordered.counted, List.map_singleton, List.map_singleton, ordered.next]
  next := by
    rw [List.length_append, List.length_singleton, UInt64.ofNat_add, ← ordered.next]
    rfl
  started := List.append_subset.mpr
    ⟨List.Subset.trans ordered.started (List.subset_append_left _ _),
      List.subset_append_right _ _⟩
  routed exchange listed := by
    obtain ⟨turn, taken, built⟩ := ordered.routed exchange listed
    exact ⟨turn, List.mem_append_left _ taken, built⟩
  sent := by
    have sent := ordered.sent
    simp only [List.length_append, List.length_singleton]
    omega

theorem InTurn.finish (ordered : client.InTurn s) {front back : List (Turn κ)} {turn : Turn κ}
    (waits : s.waiting = front ++ turn :: back) :
    client.InTurn { s with
      state := settled (client.draft turn.call (client.nodeAt turn.turn)) s.state
      waiting := front ++ back } := by
  obtain ⟨sent, exchanges, single, built⟩ :=
    exchanges_settled (client.draft turn.call (client.nodeAt turn.turn)) s.state
  have taken : turn ∈ s.turns := ordered.started (by simp [waits])
  refine ⟨ordered.counted, ?_, ?_, ?_, ?_⟩
  · rw [turn_settled]
    exact ordered.next
  · refine List.Subset.trans (fun other waiting => ?_) ordered.started
    rw [waits]
    rcases List.mem_append.mp waiting with early | late
    · exact List.mem_append_left _ early
    · exact List.mem_append_right _ (List.mem_cons_of_mem _ late)
  · intro exchange listed
    rw [exchanges] at listed
    rcases List.mem_append.mp listed with before | now
    · exact ordered.routed exchange before
    · exact ⟨turn, taken, built exchange now⟩
  · have before := ordered.sent
    simp only [waits, exchanges, List.length_append, List.length_cons] at before ⊢
    omega

theorem InTurn.step (ordered : client.InTurn s) (step : client.Step s t) : client.InTurn t := by
  cases step with
  | start caller call => exact ordered.start caller call
  | finish front back turn waits => exact ordered.finish waits

theorem Reaches.inTurn {network : Network} (reached : client.Reaches network s) :
    client.InTurn s := by
  induction reached with
  | refl => exact client.inTurn_start network
  | tail _ step ordered => exact ordered.step step

/-! ## Turns go around -/

/-- The places of the nodes that were used, in the order of the turns. -/
def places (client : Client) (s : Traffic κ) : List Nat :=
  s.turns.map fun turn => (client.place turn.turn).val

/-- Up to the last value of the counter it counts the calls. -/
theorem InTurn.places_eq (ordered : client.InTurn s) (few : s.turns.length ≤ UInt64.size) :
    client.places s = (List.range s.turns.length).map (· % client.nodes.length) := by
  have turns : client.places s =
      (s.turns.map Turn.turn).map fun turn => (client.place turn).val := by
    rw [List.map_map]
    rfl
  rw [turns, ordered.counted, List.map_map]
  refine List.map_congr_left fun index listed => ?_
  have small : index < UInt64.size := Nat.lt_of_lt_of_le (List.mem_range.mp listed) few
  change (UInt64.ofNat index).toNat % client.nodes.length = index % client.nodes.length
  rw [UInt64.toNat_ofNat_of_lt' small]

/-- How often a remainder comes up when one counts. -/
theorem count_map_mod_range {n place : Nat} (k : Nat) (inside : place < n) :
    ((List.range k).map (· % n)).count place = k / n ∨
      ((List.range k).map (· % n)).count place = (k + n - 1) / n := by
  have counted : ((List.range k).map (· % n)).count place = k.count (· ≡ place [MOD n]) := by
    rw [List.count, List.countP_map]
    refine List.countP_congr fun index _ => ?_
    simp [Nat.ModEq, Nat.mod_eq_of_lt inside]
  have positive : 0 < n := Nat.zero_lt_of_lt inside
  rw [counted, Nat.count_modEq_card k positive, Nat.mod_eq_of_lt inside]
  by_cases more : place < k % n
  · right
    rw [if_pos more]
    have parts := Nat.div_add_mod k n
    have small := Nat.mod_lt k positive
    refine (Nat.div_eq_of_lt_le ?_ ?_).symm
    · rw [Nat.add_one_mul, Nat.mul_comm]
      omega
    · rw [Nat.add_one_mul, Nat.add_one_mul, Nat.mul_comm]
      omega
  · left
    rw [if_neg more, Nat.add_zero]

/-- As many numbers in a row as there are remainders leave each remainder
once. -/
theorem map_mod_range'_perm (start n : Nat) :
    ((List.range' start n).map (· % n)).Perm (List.range n) := by
  have remainders : ((List.range' start (start + n - start) : Multiset Nat).map (· % n)) =
      Multiset.range n :=
    Nat.multiset_Ico_map_mod start n
  rw [Nat.add_sub_cancel_left] at remainders
  exact Multiset.coe_eq_coe.mp remainders

theorem drop_take_range {start n k : Nat} (inside : start + n ≤ k) :
    ((List.range k).drop start).take n = List.range' start n := by
  rw [List.range_eq_range', List.drop_range', Nat.zero_add, Nat.mul_one,
    List.take_range'_of_length_ge (by omega)]

/-! ## What the copies of a client do to the nodes -/

/-- Every turn, also one after the counter has started over, is one of the node
at a URL of the settings. -/
theorem exists_url_of_forall₂ {urls : List String}
    (read : List.Forall₂ (fun text url => node text = .ok url) urls client.nodes)
    (turn : UInt64) :
    ∃ text, urls[(client.place turn).val]? = some text ∧
      node text = .ok (client.nodeAt turn) := by
  have inside : (client.place turn).val < urls.length :=
    Nat.lt_of_lt_of_eq (client.place turn).isLt read.length_eq.symm
  exact ⟨_, List.getElem?_eq_getElem inside, read.get inside (client.place turn).isLt⟩

/-- How copies of a client share the nodes at some URLs. -/
structure Rotates (client : Client) (urls : List String) (s : Traffic κ) : Prop
    extends InTurn client s where
  /-- Every turn is one of the node at a URL on the list, also after the counter
  has started over. -/
  inside : ∀ turn : UInt64, ∃ text, urls[(client.place turn).val]? = some text ∧
    node text = .ok (client.nodeAt turn)
  /-- Until the counter starts over, the places on the list are used evenly. -/
  even : s.turns.length ≤ UInt64.size → ∀ place < urls.length,
    (client.places s).count place = s.turns.length / urls.length ∨
      (client.places s).count place = (s.turns.length + urls.length - 1) / urls.length
  /-- Until then, as many turns in a row as there are places use each place
  once. -/
  spread : s.turns.length ≤ UInt64.size → ∀ start, start + urls.length ≤ s.turns.length →
    (((client.places s).drop start).take urls.length).Perm (List.range urls.length)

theorem InTurn.rotates (ordered : client.InTurn s) {urls : List String}
    (read : List.Forall₂ (fun text url => node text = .ok url) urls client.nodes) :
    client.Rotates urls s where
  toInTurn := ordered
  inside := exists_url_of_forall₂ read
  even few place inside := by
    rw [ordered.places_eq few, ← read.length_eq]
    exact count_map_mod_range s.turns.length inside
  spread few start inside := by
    rw [ordered.places_eq few, ← read.length_eq, ← List.map_drop, ← List.map_take,
      drop_take_range inside]
    exact map_mod_range'_perm start urls.length

/-- The copies of a client that settings make take turns with the nodes at the
URLs of the settings, in whatever order their calls start and finish.  A call
of the backend that nothing interrupts is one more turn. -/
theorem copies_rotate {settings : BackendSettings} {network : Network}
    (accepted : ofSettings settings = .ok client) (reached : client.Reaches network s) :
    client.Rotates settings.urls s ∧ ∀ caller call,
      Relation.ReflTransGen client.Step s { s with
        state := client.perform call s.state
        turns := s.turns ++ [⟨caller, call, s.state.turn⟩] } :=
  ⟨reached.inTurn.rotates (complete_of_ofSettings accepted).2.2, client.reflTransGen_perform s⟩

/-- Two copies, one of which starts a second call before its first one is
finished, use the first node, the second one and the first one again. -/
theorem copies_rotate_pair :
    let settings : BackendSettings := {
      urls := ["http://[::1]:9200", "http://[::2]:9200"], index := "docs" }
    ∃ client, ofSettings settings = .ok client ∧
      ∃ s : Traffic Bool, client.Reaches .unreachable s ∧ client.places s = [0, 1, 0] ∧
        client.Rotates settings.urls s := by
  intro settings
  have accepted : (ofSettings settings).toOption.isSome = true := by decide +kernel
  cases made : ofSettings settings with
  | error problem =>
      rw [made] at accepted
      cases accepted
  | ok client =>
      have first : client.Step { state := { network := .unreachable } } _ :=
        .start _ false (.get "1")
      have second := Relation.ReflTransGen.tail (.single first) (.start _ true (.get "2"))
      have finished := second.tail (.finish _ [⟨false, .get "1", 0⟩] [] ⟨true, .get "2", 1⟩ rfl)
      have third := finished.tail (.start _ false (.get "3"))
      refine ⟨client, rfl, _, third, ?_, (copies_rotate made third).1⟩
      have nodes : client.nodes.length = 2 := (complete_of_ofSettings made).2.2.length_eq.symm
      simp only [places, List.map, List.nil_append, List.cons_append, place, nodes, turn_settled]
      rfl

end Client

end CriteriaSearch
