/-!
Event bits: a 32-bit set of facts that every task may read. Four of them have names.
-/
namespace Gateway.Hub

structure EventBits where
  val : UInt32
  deriving DecidableEq, Repr

namespace EventBits

def none : EventBits := ⟨0⟩
def stationLinked : EventBits := ⟨1⟩
def accessPointLinked : EventBits := ⟨2⟩
def uplink : EventBits := ⟨4⟩
def timeSynchronized : EventBits := ⟨8⟩

instance : OrOp EventBits := ⟨fun a b => ⟨a.val ||| b.val⟩⟩
instance : AndOp EventBits := ⟨fun a b => ⟨a.val &&& b.val⟩⟩
instance : Complement EventBits := ⟨fun a => ⟨~~~a.val⟩⟩

def contains (a b : EventBits) : Bool := a.val &&& b.val == b.val
def intersects (a b : EventBits) : Bool := a.val &&& b.val != 0
def isEmpty (a : EventBits) : Bool := a.val == 0

end EventBits

end Gateway.Hub
