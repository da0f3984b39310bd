import Gateway.Bridge.Relay
import Gateway.Scenario.Table
import Gateway.Scenario.Session
/-!
A relay over a table of 32-bit readings, driven step by step: over a recording fake broker, or
over a broker session on the scripted link. Besides the relay's own calls a step may change
the hub's facts, use the table as a producer or consumer would, or change the broker's script.
After each step the broker shows what the step did there.
-/
namespace Gateway.Scenario
open Gateway.Bridge Gateway.Hub Gateway.Mqtt Gateway.Sched

/-- A broker that records every request. -/
structure FakeBroker where
  connected : Bool := false
  connects : Nat := 0
  disconnects : Nat := 0
  failConnect : Nat := 0
  refuseSubscribe : List String := []
  refusePublish : List String := []
  dropUplinkOn : Option Nat := none
  publishCalls : Nat := 0
  subscribed : List (String × QoS) := []
  published : List (String × String × QoS) := []
  refusals : List String := []
  inbound : List (Option Publish) := []

namespace FakeBroker

def connectCall (b : FakeBroker) : FakeBroker × Bool :=
  let b := { b with connects := b.connects + 1 }
  if b.failConnect > 0 then ({ b with failConnect := b.failConnect - 1 }, false)
  else ({ b with connected := true }, true)

def subscribeCall (b : FakeBroker) (topic : String) (qos : QoS) : FakeBroker × Bool :=
  if b.refuseSubscribe.contains topic then ({ b with refusals := b.refusals ++ [topic] }, false)
  else ({ b with subscribed := b.subscribed ++ [(topic, qos)] }, true)

def publishCall (b : FakeBroker) (bits : EventBits) (topic payload : String) (qos : QoS) :
    (FakeBroker × EventBits) × Bool :=
  let n := b.publishCalls + 1
  let bits := if b.dropUplinkOn = some n then bits.clear .uplink else bits
  let b := { b with publishCalls := n }
  if b.refusePublish.contains topic then (({ b with refusals := b.refusals ++ [topic] }, bits), false)
  else (({ b with published := b.published ++ [(topic, payload, qos)] }, bits), true)

end FakeBroker

def onBroker {β : Type} (f : FakeBroker × EventBits → (FakeBroker × EventBits) × β) :
    Timed (FakeBroker × EventBits) β := do
  let (p, b) := f (← Timed.read)
  Timed.write p
  pure b

instance : BrokerClient FakeBroker where
  isConnected b := b.connected
  connect := onBroker fun (b, bits) => let (b, ok) := b.connectCall; ((b, bits), ok)
  disconnect := onBroker fun (b, bits) =>
    (({ b with connected := false, disconnects := b.disconnects + 1 }, bits), ())
  subscribe topic qos := onBroker fun (b, bits) => let (b, ok) := b.subscribeCall topic qos; ((b, bits), ok)
  publish topic payload qos := onBroker fun (b, bits) => b.publishCall bits topic payload qos
  poll _ := onBroker fun (b, bits) =>
    match b.inbound with
    | [] => ((b, bits), none)
    | m :: rest => (({ b with inbound := rest }, bits), m)
  backlog b := b.inbound.length

inductive FakeChange where
  | inbound (msgs : List (Option Publish))
  | failConnect (count : Nat)

def FakeChange.apply : FakeChange → FakeBroker → FakeBroker
  | .inbound msgs, b => { b with inbound := b.inbound ++ msgs }
  | .failConnect n, b => { b with failConnect := n }

/-- What one step did at a fake broker: the lists hold only the step's new entries. -/
structure FakeView where
  connected : Bool
  connects : Nat
  disconnects : Nat
  subscribed : List (String × QoS)
  published : List (String × String × QoS)
  refusals : List String
  inboundLeft : Nat

def FakeBroker.since (before after : FakeBroker) : FakeView :=
  { connected := after.connected
    connects := after.connects
    disconnects := after.disconnects
    subscribed := after.subscribed.drop before.subscribed.length
    published := after.published.drop before.published.length
    refusals := after.refusals.drop before.refusals.length
    inboundLeft := after.inbound.length }

/-- What one step did at the scripted link of a session. -/
structure LinkView where
  sent : List (List UInt8)
  opens : Nat
  closes : Nat
  pendingIn : Nat

def Session.since (before after : Session) : LinkView :=
  { sent := (after.link.sent.take (after.link.sentCount - before.link.sentCount)).reverse
    opens := after.link.opens
    closes := after.link.closes
    pendingIn := after.link.incoming.length }

inductive BridgeCall (χ : Type) where
  | set (mask : EventBits)
  | clear (mask : EventBits)
  | hubInitialize
  | synchronizeTime (unix : Nat)
  | pollLink
  | publishTick
  | serviceInbound (d : Nat)
  | step
  | runFor (d : Nat)
  | table (op : TopicOp)
  | change (c : χ)

inductive BridgeReply where
  | none
  | flag (b : Bool)
  | ran (returned : Bool)
  | table (r : TopicReply)
  | panicked (why : Panic)

structure BridgeRun (κ : Type) where
  relay : Relay κ UInt32
  now : Nat := 0

namespace BridgeRun

variable {κ χ ν : Type} [BrokerClient κ]

def replyOf {α : Type} (e : Timed.Ending (Relay κ UInt32) α) (reply : BridgeReply) : BridgeReply :=
  match e.panic with
  | some why => .panicked why
  | none => reply

def call {α : Type} (r : BridgeRun κ) (m : Timed (Relay κ UInt32) α) (reply : Option α → BridgeReply) :
    BridgeReply × BridgeRun κ :=
  let e := Timed.start m r.relay ⟨r.now, none⟩
  (replyOf e (reply e.value), ⟨e.state, e.clock.now⟩)

def runFor (r : BridgeRun κ) (d : Nat) : BridgeReply × BridgeRun κ :=
  let limit := r.now + d
  let e := Timed.start (Relay.run (Timed.roundsWithin d r.relay.tick)) r.relay ⟨r.now, some limit⟩
  match e.value with
  | some () => (.ran true, ⟨e.state, e.clock.now⟩)
  | none => (replyOf e (.ran false), ⟨e.state, limit⟩)

def withHub (r : BridgeRun κ) (f : Hub → Hub) : BridgeRun κ :=
  { r with relay := { r.relay with hub := f r.relay.hub } }

def step (adjust : χ → κ → κ) (r : BridgeRun κ) : BridgeCall χ → BridgeReply × BridgeRun κ
  | .set mask => (.none, r.withHub fun h => { h with bits := h.bits.set mask })
  | .clear mask => (.none, r.withHub fun h => { h with bits := h.bits.clear mask })
  | .hubInitialize => (.none, r.withHub Hub.ready)
  | .synchronizeTime unix => (.none, r.withHub fun h => h.synchronizeTime r.now unix)
  | .pollLink => r.call Relay.pollLink fun x => .flag (x.getD false)
  | .publishTick => r.call Relay.publishTick fun _ => .none
  | .serviceInbound d => r.call (Relay.serviceInbound (r.now + d)) fun _ => .none
  | .step => r.call Relay.step fun _ => .none
  | .runFor d => r.runFor d
  | .table op =>
    match Job.solo r.now r.relay.table (op.job r.relay.device) with
    | some e => (.table e.first, { r with relay := { r.relay with table := e.state }, now := e.now })
    | none => (.table .stuck, r)
  | .change c => (.none, { r with relay := { r.relay with client := adjust c r.relay.client } })

end BridgeRun

end Gateway.Scenario
