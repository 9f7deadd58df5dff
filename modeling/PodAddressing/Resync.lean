import PodAddressing.Table
/-!
The queue of resync requests. A key waits at most once. A key that is added while it is being worked on is
marked, and waits again as soon as that work is done, so no change in the middle of it is lost.
-/

namespace PodAddressing

def reconcileNode : String := "ReconcileNode"
def reconcileSubnet : String := "ReconcileSubnet"

structure ResyncQueue where
  waiting : List String := []
  marked : List String := []
  working : List String := []
  closed : Bool := false
  deriving DecidableEq, Repr

namespace ResyncQueue
variable (q : ResyncQueue)

def size : Nat := q.waiting.length

def add (key : String) : ResyncQueue :=
  if q.closed || q.marked.contains key then q
  else
    let q := { q with marked := key :: q.marked }
    if q.working.contains key then q else { q with waiting := q.waiting ++ [key] }

def get : Option String × ResyncQueue :=
  match q.waiting with
  | [] => (none, q)
  | key :: rest =>
      (some key, { q with
        waiting := rest
        working := if q.working.contains key then q.working else key :: q.working
        marked := q.marked.erase key })

def done (key : String) : ResyncQueue :=
  let q := { q with working := q.working.erase key }
  if q.marked.contains key then { q with waiting := q.waiting ++ [key] } else q

-- What waits is still handed out, but nothing is added any more.
def close : ResyncQueue := { q with closed := true }

end ResyncQueue

/-!
The loop that works on the keys of the queue, one after the other. A key whose work fails is added again.
-/

namespace Resync

/-- What came of the work on a key: the keys that were added while it went on, and whether it failed. -/
structure Attempt where
  added : List String
  failed : Bool
  deriving DecidableEq, Repr

abbrev Work (σ : Type) := String → σ → Attempt × σ

section Looping
variable {σ : Type} (work : Work σ)

-- A key that failed is done before it is added again, so it waits behind all that was added meanwhile.
def process (key : String) (queue : ResyncQueue) (state : σ) : ResyncQueue × σ :=
  let (attempt, state) := work key state
  let queue := (attempt.added.foldl ResyncQueue.add queue).done key
  (if attempt.failed then queue.add key else queue, state)

def round (queue : ResyncQueue) (state : σ) : ResyncQueue × σ :=
  match queue.get with
  | (none, queue) => (queue, state)
  | (some key, queue) => process work key queue state

-- A round with an empty queue changes nothing, so going on after the queue is empty does no harm.
/-- A number of rounds, whether a key waits or not. -/
def rounds : Nat → ResyncQueue → σ → ResyncQueue × σ
  | 0, queue, state => (queue, state)
  | n + 1, queue, state =>
      let (queue, state) := round work queue state
      rounds n queue state

end Looping

/-!
A worker whose work is given as a plan: how often a key still fails, and which keys are added meanwhile.
-/

structure Plan where
  failures : Table String Int := []
  meanwhile : Table String (List String) := []
  deriving DecidableEq, Repr

def Plan.attempt (plan : Plan) (key : String) : Attempt × Plan :=
  let added := (plan.meanwhile.get? key).getD []
  let left := (plan.failures.get? key).getD 0
  if 0 < left then (⟨added, true⟩, { plan with failures := plan.failures.put key (left - 1) })
  else (⟨added, false⟩, plan)

structure Worker where
  queue : ResyncQueue
  plan : Plan
  /-- The keys that were worked on, the last one first. -/
  worked : List String := []
  deriving DecidableEq, Repr

namespace Worker

def work : Work (Plan × List String) := fun key (plan, worked) =>
  let (attempt, plan) := plan.attempt key
  (attempt, plan, key :: worked)

def rounds (n : Nat) (w : Worker) : Worker :=
  let (queue, plan, worked) := Resync.rounds work n w.queue (w.plan, w.worked)
  { queue, plan, worked }

end Worker

end Resync

/-!
The calls of the queue as data, and runs of them. However many work on its keys, the queue sees one call after
the other.
-/

namespace ResyncQueue

inductive Call
  | add (key : String)
  | get
  | done (key : String)
  | close
  deriving DecidableEq, Repr

variable (q : ResyncQueue)

def answer : Call → Option String
  | .get => q.get.1
  | _ => none

def apply : Call → ResyncQueue
  | .add key => q.add key
  | .get => q.get.2
  | .done key => q.done key
  | .close => q.close

def run (q : ResyncQueue) (calls : List Call) : ResyncQueue := calls.foldl apply q

end ResyncQueue

end PodAddressing
