import Gateway.Sched.Job
/-!
Bounded first-in first-out queues, the hand-over between tasks. `trySend` and `tryReceive`
never wait; the timed forms are jobs that wait for room or for an item up to a timeout, and then go on
with what they got.
-/
namespace Gateway.Hub
open Gateway.Sched

structure Queue (α : Type) where
  capacity : Nat
  items : List α := []
  deriving DecidableEq, Repr

namespace Queue

variable {α σ β : Type}

def len (q : Queue α) : Nat := q.items.length

def isFull (q : Queue α) : Bool := q.items.length ≥ q.capacity

/-- Appends `x`, or hands it back when the queue is full. -/
def trySend (q : Queue α) (x : α) : Except α (Queue α) :=
  if q.isFull then .error x else .ok { q with items := q.items ++ [x] }

/-- Takes the oldest item. -/
def tryReceive (q : Queue α) : Option (α × Queue α) :=
  match q.items with
  | [] => none
  | x :: rest => some (x, { q with items := rest })

def clear (q : Queue α) : Queue α := { q with items := [] }

/-- Sends `x`, waiting up to `timeout` for room; `false` when the queue stayed full and the
item was dropped. -/
def sendJob (l : Lens σ (Queue α)) (x : α) (timeout : Nat) (k : Bool → Job σ β) : Job σ β :=
  .within timeout
    (fun s => match (l.get s).trySend x with
      | .ok q => some (l.set s q, k true)
      | .error _ => none)
    (k false)

def receiveJob (l : Lens σ (Queue α)) (timeout : Nat) (k : Option α → Job σ β) : Job σ β :=
  .within timeout
    (fun s => (l.get s).tryReceive.map fun (x, q) => (l.set s q, k (some x)))
    (k none)

def spaceJob (l : Lens σ (Queue α)) (timeout : Nat) (k : Bool → Job σ β) : Job σ β :=
  .within timeout (fun s => if (l.get s).isFull then none else some (s, k true)) (k false)

end Queue

end Gateway.Hub
