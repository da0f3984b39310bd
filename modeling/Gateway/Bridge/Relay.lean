import Gateway.Bridge.Client
import Gateway.Bridge.Table
import Gateway.Hub.Basic
/-!
The relay between a topic table and the broker. Each tick it first lines the session up with
the uplink fact: it connects and subscribes every subscribe route when the uplink came, and
disconnects when it went. With the session up and time synchronized it then renders at most
one queued item per publish route and publishes it, and last it hands inbound messages to
their subscribe routes until the tick ends. A link lost during a tick ends the publishing.
-/
namespace Gateway.Bridge
open Gateway.Hub Gateway.Mqtt

structure Relay (κ α : Type) where
  client : κ
  table : TopicTable α
  hub : Hub
  device : DeviceId
  tick : Nat

namespace Relay

variable {κ α : Type} [BrokerClient κ]

def onClient {β : Type} (m : Timed (κ × EventBits) β) : Timed (Relay κ α) β :=
  Timed.focus (fun r => (r.client, r.hub.bits))
    (fun r p => { r with client := p.1, hub := { r.hub with bits := p.2 } }) m

def isConnected (r : Relay κ α) : Bool := BrokerClient.isConnected r.client

def hasUplink (r : Relay κ α) : Bool := r.hub.bits.contains .uplink

def subscribeEach (t : TopicTable α) : List Nat → Timed (Relay κ α) Unit
  | [] => pure ()
  | h :: rest => do
    match t.suffix? h, t.qos? h with
    | some suffix, some qos =>
      match t.space.topic suffix with
      | .ok topic => let _ ← onClient (BrokerClient.subscribe topic qos)
      | .error _ => pure ()
    | _, _ => pure ()
    subscribeEach t rest

def subscribeAll : Timed (Relay κ α) Unit := do
  let t := (← Timed.read).table
  subscribeEach t (t.handles .subscribe)

/-- Connects when the uplink came and disconnects when it went; says whether the session is up
afterwards. -/
def pollLink : Timed (Relay κ α) Bool := do
  let r ← Timed.read
  match r.hasUplink, r.isConnected with
  | true, false => if ← onClient BrokerClient.connect then subscribeAll
  | false, true => onClient BrokerClient.disconnect
  | _, _ => pure ()
  pure (← Timed.read).isConnected

/-- Publishes the next item of each route of `hs` that has one, while the uplink and the session
last. -/
def publishEach (ctx : EncodeContext) : List Nat → Timed (Relay κ α) Unit
  | [] => pure ()
  | h :: rest => do
    let r ← Timed.read
    if !r.hasUplink || !r.isConnected then return
    match r.table.suffix? h, r.table.qos? h with
    | some suffix, some qos =>
      let (out, table) := r.table.encodeNext h ctx
      Timed.write { r with table }
      match out, r.table.space.topic suffix with
      | .ok (some payload), .ok topic => let _ ← onClient (BrokerClient.publish topic payload qos)
      | _, _ => pure ()
    | _, _ => pure ()
    publishEach ctx rest

/-- Publishes at most one queued item per publish route, stamped with the time the tick
started; nothing before time is synchronized. -/
def publishTick : Timed (Relay κ α) Unit := do
  let r ← Timed.read
  if !r.isConnected || !r.hub.bits.contains (.uplink ||| .timeSynchronized) then return
  match r.hub.unixTime (← Timed.now) with
  | .ok none => pure ()
  | .ok (some timestamp) => publishEach ⟨r.device, timestamp⟩ (r.table.handles .publish)
  | .error why => Timed.halt (.panic why)

/-- Routes inbound messages until `endAt`; `fuel` bounds the messages taken. A message outside
the namespace or with no route is dropped. -/
def serviceFor (endAt : Nat) : Nat → Timed (Relay κ α) Unit
  | 0 => pure ()
  | fuel + 1 => do
    if !(← Timed.read).isConnected then return
    let now ← Timed.now
    if now ≥ endAt then return
    match ← onClient (BrokerClient.poll (endAt - now)) with
    | none => pure ()
    | some m =>
      let r ← Timed.read
      match r.table.space.strip m.topic with
      | some suffix => Timed.write { r with table := (r.table.dispatch suffix m.payload).2 }
      | none => pure ()
      serviceFor endAt fuel

def serviceInbound (endAt : Nat) : Timed (Relay κ α) Unit := do
  serviceFor endAt (BrokerClient.backlog (← Timed.read).client + 1)

/-- One tick: line up the session, publish, serve inbound messages, then wait for the tick's
end. -/
def step : Timed (Relay κ α) Unit := do
  let deadline := (← Timed.now) + (← Timed.read).tick
  if ← pollLink then
    publishTick
    serviceInbound deadline
  Timed.waitUntil deadline

def serve : Nat → Timed (Relay κ α) Unit
  | 0 => pure ()
  | n + 1 => do
    step
    serve n

/-- The relay task: with the hub ready it seals the table and serves `ticks` ticks; without it
returns at once. -/
def run (ticks : Nat) : Timed (Relay κ α) Unit := do
  match (← Timed.read).hub.validate with
  | .error _ => pure ()
  | .ok () =>
    Timed.update fun r => { r with table := r.table.freeze }
    serve ticks

end Relay

end Gateway.Bridge
