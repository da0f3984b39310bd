import Gateway.Hub.EventBits
import Gateway.Sched.Job
/-!
Waiting on event bits. A wait asks for all bits of a mask or for any of them, up to a timeout.
It ends with the bits of the mask it saw: on success it may clear exactly those bits at the
same instant, and on timeout it reads the mask's bits at the deadline and changes nothing.
-/
namespace Gateway.Hub
open Gateway.Sched

namespace EventBits

def set (b mask : EventBits) : EventBits := b ||| mask

def clear (b mask : EventBits) : EventBits := b &&& ~~~mask

def assign (b mask : EventBits) (value : Bool) : EventBits := if value then b.set mask else b.clear mask

def satisfies (b mask : EventBits) (requireAll : Bool) : Bool :=
  if requireAll then (b &&& mask) == mask else !(b &&& mask).isEmpty

end EventBits

def waitJob {σ β : Type} (l : Lens σ EventBits) (mask : EventBits) (clearOnExit requireAll : Bool)
    (timeout : Nat) (k : EventBits → Job σ β) : Job σ β :=
  .within timeout
    (fun s =>
      let b := l.get s
      if b.satisfies mask requireAll then
        let seen := b &&& mask
        some (l.set s (if clearOnExit then b.clear seen else b), k seen)
      else none)
    (.now (fun s => (s, l.get s &&& mask)) k)

end Gateway.Hub
