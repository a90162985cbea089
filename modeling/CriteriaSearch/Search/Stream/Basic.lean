import CriteriaSearch.Backend.Cursor
import CriteriaSearch.Search.Transform

/-!
# The state of a stream

One producer walks the cursor of a request and puts hits into a bounded channel.  Workers take
hits from it, shape them with a transform and put the documents into a second bounded channel,
from which a collector takes them.  The collector also joins tasks that have ended, and the first
failure that it joins ends the stream.  The stream succeeds when every task has been joined and
no document is left.

There is one receiving end of the hit channel, and the workers share it: one at a time has it to
itself while it waits for a hit.  The collector holds on to the receiving end as well, until the
stream has its outcome; a producer that finds nobody at the other end gives up without a failure.
The receiving end of the documents belongs to the collector alone, so no worker finds it gone.

`State.act?` says which actions can be taken in a state and what they do; nothing says which of
them is taken.  A run is a list of actions.
-/

namespace CriteriaSearch.Stream

/-- A call that the producer makes to the backend. -/
inductive Call where
  | start
  | next (scrollId : String)
  deriving DecidableEq

/-- What the producer is about to do. -/
inductive Producer where
  /-- It opens the cursor. -/
  | opening (walk : Walk)
  /-- It has hits of the current batch to send; after the last of them it makes the next call, if
  there is a handle for one. -/
  | sending (rest : List Hit) (next : Option (String × Walk))
  | ended

/-- What a worker is about to do. -/
inductive Worker (α : Type) where
  /-- It waits for its turn at the receiving end of the hit channel. -/
  | waiting
  /-- It has the receiving end to itself and waits for a hit. -/
  | listening
  /-- It has a hit in its hand. -/
  | holding (hit : Hit)
  /-- It has a document in its hand. -/
  | delivering (doc : α)
  | ended

/-- A running stream with documents of type `α`. -/
structure State (α : Type) where
  /-- How many entries each of the two channels can hold. -/
  capacity : Nat
  producer : Producer
  /-- Hits that were sent and not received. -/
  channel : List Hit
  /-- How many hold on to the receiving end of the hit channel. -/
  receivers : Nat
  workers : List (Worker α)
  /-- Documents that were delivered and not collected. -/
  docs : List α
  /-- How tasks have ended that were not joined. -/
  ended : List (Except SearchError Unit)
  /-- Documents that were collected, the latest first. -/
  collected : List α
  /-- The calls made to the backend. -/
  calls : List Call
  outcome : Option (Except SearchError (List α))

/-- What can happen next.  Workers and ended tasks are named by their places. -/
inductive Action where
  | call
  | send
  /-- The producer finds nobody at the receiving end. -/
  | abandon
  | finish
  | listen (worker : Nat)
  | receive (worker : Nat)
  /-- A worker finds that no hit will come any more. -/
  | leave (worker : Nat)
  | shape (worker : Nat)
  | deliver (worker : Nat)
  | collect
  | join (task : Nat)
  /-- The collector finds that everything is done. -/
  | conclude
  deriving DecidableEq

def Worker.isListening {α : Type} : Worker α → Bool
  | .listening => true
  | _ => false

def Worker.isEnded {α : Type} : Worker α → Bool
  | .ended => true
  | _ => false

def Producer.isEnded : Producer → Bool
  | .ended => true
  | _ => false

namespace State

variable {α : Type}

/-- The state in which a stream starts.  There is at least one worker, and the channels have room
for at least one entry. -/
def start (walk : Walk) (size workers : Nat) : State α where
  capacity := max 1 size
  producer := .opening walk
  channel := []
  receivers := max 1 workers + 1
  workers := List.replicate (max 1 workers) .waiting
  docs := []
  ended := []
  collected := []
  calls := []
  outcome := none

/-- The producer has made a call and got the first answer of the walk. -/
def answered (s : State α) (call : Call) (walk : Walk) : State α :=
  let s := { s with calls := s.calls ++ [call] }
  match walk with
  | .failed cause =>
    { s with producer := .ended, ended := s.ended ++ [.error (.backend .scroll cause)] }
  | .last hits => { s with producer := .sending hits none }
  | .more hits scrollId next => { s with producer := .sending hits (some (scrollId, next)) }

/-- A worker has come to its end and lets go of the receiving end. -/
def retire (s : State α) (worker : Nat) (result : Except SearchError Unit) : State α :=
  { s with
    workers := s.workers.set worker .ended
    receivers := s.receivers - 1
    ended := s.ended ++ [result] }

def isTaken (s : State α) : Bool :=
  s.workers.any Worker.isListening

/-- No task is running any more. -/
def isQuiet (s : State α) : Bool :=
  s.producer.isEnded && s.workers.all Worker.isEnded

/-- The producer makes its next call. -/
def call? (s : State α) : Option (State α) :=
  match s.producer with
  | .opening walk => some (s.answered .start walk)
  | .sending [] (some (scrollId, walk)) => some (s.answered (.next scrollId) walk)
  | _ => none

/-- The producer sends the next hit of its batch, if the channel has room for it. -/
def send? (s : State α) : Option (State α) :=
  match s.producer with
  | .sending (hit :: rest) next =>
    if s.receivers ≠ 0 ∧ s.channel.length < s.capacity then
      some { s with producer := .sending rest next, channel := s.channel ++ [hit] }
    else none
  | _ => none

/-- The producer has a hit to send and ends, because nobody is left to receive it. -/
def abandon? (s : State α) : Option (State α) :=
  match s.producer with
  | .sending (_ :: _) _ =>
    if s.receivers = 0 then some { s with producer := .ended, ended := s.ended ++ [.ok ()] }
    else none
  | _ => none

/-- The producer has sent its last hit and ends. -/
def finish? (s : State α) : Option (State α) :=
  match s.producer with
  | .sending [] none => some { s with producer := .ended, ended := s.ended ++ [.ok ()] }
  | _ => none

/-- A waiting worker takes its turn at the receiving end, if no other worker is there. -/
def listen? (worker : Nat) (s : State α) : Option (State α) :=
  match s.workers[worker]? with
  | some .waiting =>
    if s.isTaken then none else some { s with workers := s.workers.set worker .listening }
  | _ => none

/-- The worker at the receiving end takes the oldest hit of the channel and makes way. -/
def receive? (worker : Nat) (s : State α) : Option (State α) :=
  match s.workers[worker]?, s.channel with
  | some .listening, hit :: rest =>
    some { s with channel := rest, workers := s.workers.set worker (.holding hit) }
  | _, _ => none

/-- The worker at the receiving end ends, because the channel is empty and the producer has
ended. -/
def leave? (worker : Nat) (s : State α) : Option (State α) :=
  match s.workers[worker]?, s.channel, s.producer with
  | some .listening, [], .ended => some (s.retire worker (.ok ()))
  | _, _, _ => none

/-- A worker has shaped the hit in its hand.  It ends if there is no document. -/
def shaped (s : State α) (worker : Nat) : Shaped α → State α
  | .doc value => { s with workers := s.workers.set worker (.delivering value) }
  | .failed cause => s.retire worker (.error (.transform cause))
  | .crashed => s.retire worker (.error .crashed)

def shape? (transform : Transform α) (worker : Nat) (s : State α) : Option (State α) :=
  match s.workers[worker]? with
  | some (.holding hit) => some (s.shaped worker (transform hit))
  | _ => none

/-- A worker delivers the document in its hand, if the channel has room for it. -/
def deliver? (worker : Nat) (s : State α) : Option (State α) :=
  match s.workers[worker]? with
  | some (.delivering doc) =>
    if s.docs.length < s.capacity then
      some { s with workers := s.workers.set worker .waiting, docs := s.docs ++ [doc] }
    else none
  | _ => none

def collect? (s : State α) : Option (State α) :=
  match s.docs with
  | doc :: rest => some { s with docs := rest, collected := doc :: s.collected }
  | [] => none

/-- The collector joins a task that has ended; a failure ends the stream. -/
def join? (task : Nat) (s : State α) : Option (State α) :=
  match s.ended[task]? with
  | some (.ok ()) => some { s with ended := s.ended.eraseIdx task }
  | some (.error problem) =>
    some { s with ended := s.ended.eraseIdx task, outcome := some (.error problem) }
  | none => none

/-- The collector has nothing left to wait for. -/
def conclude? (s : State α) : Option (State α) :=
  if s.isQuiet && s.docs.isEmpty && s.ended.isEmpty then
    some { s with outcome := some (.ok s.collected.reverse) }
  else none

/-- The state after an action, if the action can be taken.  Nothing happens after the outcome. -/
def act? (transform : Transform α) (action : Action) (s : State α) : Option (State α) :=
  if s.outcome.isSome then none
  else match action with
    | .call => s.call?
    | .send => s.send?
    | .abandon => s.abandon?
    | .finish => s.finish?
    | .listen worker => s.listen? worker
    | .receive worker => s.receive? worker
    | .leave worker => s.leave? worker
    | .shape worker => s.shape? transform worker
    | .deliver worker => s.deliver? worker
    | .collect => s.collect?
    | .join task => s.join? task
    | .conclude => s.conclude?

/-- The state at the end of a run, if each of its actions can be taken in its turn. -/
def acts? (transform : Transform α) : List Action → State α → Option (State α)
  | [], s => some s
  | action :: rest, s => (s.act? transform action).bind (acts? transform rest)

end State

end CriteriaSearch.Stream
