import Gateway.Hub.Queue
import Gateway.Scenario.Events
/-!
A bounded queue of numbers driven step by step; two steps may run together, the second
starting after a delay.
-/
namespace Gateway.Scenario
open Gateway.Hub Gateway.Sched

inductive QueueOp where
  | send (x : Nat) (timeout : Nat)
  | trySend (x : Nat)
  | receive (timeout : Nat)
  | tryReceive
  | len
  | isEmpty
  | capacity
  | clear
  | waitForSpace (timeout : Nat)
  | sleep (d : Nat)
  | refused (why : String)

inductive QueueCall where
  | single (op : QueueOp)
  | join (a b : QueueOp) (delay : Nat)

inductive QueueReply where
  | none
  | flag (b : Bool)
  | item (x : Option Nat)
  | offer (r : Except Nat Unit)
  | count (n : Nat)
  | both (a b : QueueReply)
  | refused (why : String)
  | stuck

def QueueOp.job : QueueOp → Job (Queue Nat) QueueReply
  | .send x t => Queue.sendJob selfLens x t (.done ∘ .flag)
  | .trySend x => .now (fun q => match q.trySend x with
      | .ok q => (q, .offer (.ok ()))
      | .error y => (q, .offer (.error y))) .done
  | .receive t => Queue.receiveJob selfLens t (.done ∘ .item)
  | .tryReceive => .now (fun q => match q.tryReceive with
      | some (x, q) => (q, .item (some x))
      | none => (q, .item none)) .done
  | .len => .now (fun q => (q, .count q.len)) .done
  | .isEmpty => .now (fun q => (q, .flag q.items.isEmpty)) .done
  | .capacity => .now (fun q => (q, .count q.capacity)) .done
  | .clear => .now (fun q => (q.clear, .none)) .done
  | .waitForSpace t => Queue.spaceJob selfLens t (.done ∘ .flag)
  | .sleep d => .pause d (.done .none)
  | .refused why => .done (.refused why)

structure QueueRun where
  queue : Queue Nat
  now : Nat := 0

def QueueRun.step (r : QueueRun) : QueueCall → QueueReply × QueueRun
  | .single op =>
    match Job.solo r.now r.queue op.job with
    | some e => (e.first, ⟨e.state, e.now⟩)
    | none => (.stuck, r)
  | .join a b delay =>
    match Job.join r.now r.queue a.job (.pause delay b.job) with
    | some e => (.both e.first e.second, ⟨e.state, e.now⟩)
    | none => (.stuck, r)

end Gateway.Scenario
