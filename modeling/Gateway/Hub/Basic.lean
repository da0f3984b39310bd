import Gateway.Timed
import Gateway.Hub.Error
import Gateway.Hub.Events
import Gateway.Hub.Queue
import Gateway.Network.Credentials
import Gateway.Network.LinkEvent
/-!
The hub: the state every task shares. It holds the event bits, a queue of one credential
update, a queue of eight link events, the Unix time of boot once time is synchronized, and
the address of the interface that provides the uplink. Tasks use it only once it has been
initialized.
-/
namespace Gateway.Hub
open Gateway.Network Gateway.Sched

def credentialsDepth : Nat := 1

def linkEventsDepth : Nat := 8

def seconds (now : Nat) : Nat := now / 1000000

end Gateway.Hub

namespace Gateway
open Gateway.Network Gateway.Sched Gateway.Hub

structure Hub where
  bits : EventBits := .none
  credentials : Queue Credentials := { capacity := credentialsDepth }
  linkEvents : Queue LinkEvent := { capacity := linkEventsDepth }
  epochOffset : Option Nat := none
  ip : Option Ipv4 := none
  initialized : Bool := false
  deriving DecidableEq, Repr

namespace Hub

def ready (h : Hub) : Hub :=
  { h with bits := .none, credentials := h.credentials.clear, linkEvents := h.linkEvents.clear,
           epochOffset := none, ip := none, initialized := true }

def validate (h : Hub) : Except HubError Unit :=
  if h.initialized then .ok () else .error .notInitialized

def postLinkEvent (h : Hub) (e : LinkEvent) : Except HubError Hub :=
  match h.linkEvents.trySend e with
  | .ok q => .ok { h with linkEvents := q }
  | .error _ => .error .queueFull

def synchronizeTime (h : Hub) (now unix : Nat) : Hub :=
  { h with epochOffset := some (unix - seconds now), bits := h.bits.set .timeSynchronized }

/-- The Unix time at clock `now`, once synchronized: the seconds at boot plus the seconds since, a
sum of words whose overflow stops the program. -/
def unixTime (h : Hub) (now : Nat) : Except Panic (Option Nat) :=
  match h.epochOffset with
  | none => .ok none
  | some offset =>
    if wordMax < offset + seconds now then .error .addOverflow else .ok (some (offset + seconds now))

def connected (h : Hub) : Bool := h.bits.contains .uplink

def statusJson (h : Hub) : String := "\x7b\"connected\": " ++ toString h.connected ++ "\x7d"

def bitsLens : Lens Hub EventBits := ⟨Hub.bits, fun h b => { h with bits := b }⟩

def credentialsLens : Lens Hub (Queue Credentials) :=
  ⟨Hub.credentials, fun h q => { h with credentials := q }⟩

def submitJob {β : Type} (c : Credentials) (timeout : Nat) (k : Except HubError Unit → Job Hub β) :
    Job Hub β :=
  .step fun _ h => match h.validate with
    | .error e => (h, k (.error e))
    | .ok () => (h, Queue.sendJob credentialsLens c timeout fun ok =>
        k (if ok then .ok () else .error .queueFull))

def receiveCredentials (timeout : Nat) : Timed Hub (Option Credentials) := do
  let h ← Timed.read
  match h.credentials.tryReceive with
  | some (c, q) => do
    Timed.write { h with credentials := q }
    pure (some c)
  | none => do
    Timed.sleep timeout
    pure none

def takeLinkEvent (h : Hub) : Option LinkEvent × Hub :=
  match h.linkEvents.tryReceive with
  | some (e, q) => (some e, { h with linkEvents := q })
  | none => (none, h)

end Hub

end Gateway
