import Gateway.Timed
import Gateway.Mqtt.Encode
import Gateway.Mqtt.Link
/-!
The client side of one broker session over a link. The session keeps one receive buffer:
a publish that `poll` hands out is the frame at its front and is released by the next call.
A publish that arrives while a request waits for its answer is acknowledged at once and parked
in a one-slot stash, which the next `poll` hands out; a second one met while the slot is taken
is acknowledged and dropped.

Every call first releases what the previous `poll` handed out. An error of a request drops the
link, except `bufferTooSmall` (nothing was written) and `rejected` (the broker answered).
-/
namespace Gateway.Mqtt

structure SessionOptions where
  clientId : String := "dev"
  keepAlive : UInt16 := 60
  cleanSession : Bool := true
  username : Option String := none
  password : Option (List UInt8) := none
  ackTimeout : Nat := 5000000
  deriving Repr

/-- The frame the last `poll` handed out. -/
inductive Held where
  | nothing
  | rx (len : Nat)
  | stash
  deriving DecidableEq, Repr

structure Session where
  options : SessionOptions
  capacity : Nat
  link : Link
  rx : List UInt8 := []
  stash : List UInt8 := []
  held : Held := .nothing
  connected : Bool := false
  nextPacketId : UInt16 := 1
  lastTx : Nat := 0
  deriving Repr

abbrev SessionError := MqttError LinkFault

abbrev Flow := ExceptT SessionError (Timed Session)

/-- What a session needs to know of a frame once the receive buffer moved on. -/
inductive Frame where
  | connAck (code : UInt8)
  | publish (qos : QoS) (packetId : Option UInt16)
  | ack (a : Ack)
  | subAck (packetId : UInt16) (rejected : Bool)
  | pingResp
  deriving DecidableEq, Repr

def Frame.ofInbound : Inbound → Frame
  | .connAck p => .connAck p.reasonCode
  | .publish p => .publish p.qos p.packetId
  | .ack a => .ack a
  | .subAck p => .subAck p.packetId (p.reasonCodes.contains SubAck.failure)
  | .pingResp => .pingResp

def classify (bs : List UInt8) : Except SessionError Frame :=
  match Inbound.decode bs with
  | .ok (some p) => .ok (Frame.ofInbound p)
  | .ok none => .error (.protocol .malformedPacket)
  | .error e => .error (.ofPacket e)

namespace Session

def consume (s : Session) (len : Nat) : Session := { s with rx := s.rx.drop len }

def release (s : Session) : Session :=
  match s.held with
  | .nothing => s
  | .rx len => { s.consume len with held := .nothing }
  | .stash => { s with stash := [], held := .nothing }

def resetBuffers (s : Session) : Session := { s with rx := [], stash := [], held := .nothing }

def stashFrame (s : Session) (len : Nat) : Session :=
  (if s.stash.isEmpty then { s with stash := s.rx.take len } else s).consume len

def nextId (id : UInt16) : UInt16 := if id = 65535 then 1 else id + 1

def budget (s : Session) : Nat := s.link.pendingBytes + s.link.incoming.length + s.rx.length + 1

end Session

namespace Flow

def state : Flow Session := ExceptT.lift Timed.read

def put (s : Session) : Flow Unit := ExceptT.lift (Timed.write s)

def clock : Flow Nat := ExceptT.lift Timed.now

def waitUntil (t : Nat) : Flow Unit := ExceptT.lift (Timed.waitUntil t)

def halt {α : Type} (h : Halt) : Flow α := ExceptT.lift (Timed.halt h)

def takeId : Flow UInt16 := do
  let s ← state
  put { s with nextPacketId := Session.nextId s.nextPacketId }
  pure s.nextPacketId

end Flow

open Gateway.Mqtt.Flow

def sendPacket (p : Outbound) : Flow Unit := do
  let s ← state
  match p.encode s.capacity with
  | .error e => throw (.ofPacket e)
  | .stops why => halt (.panic why)
  | .ok bytes =>
    let (link, r) := s.link.send bytes
    match r with
    | .error f => put { s with link }; throw (.transport f)
    | .ok () => do
      let t ← clock
      put { s with link, lastTx := t }

/-- The length of the complete frame at the front of the receive buffer, reading from the link
as needed; `none` when nothing complete arrived before `deadline`. -/
def readFrame (deadline : Nat) : Nat → Flow (Option Nat)
  | 0 => pure none
  | fuel + 1 => do
    let s ← state
    match VarInt.frameLength s.rx with
    | .error e => throw (.ofPacket e)
    | .ok (some len) =>
      if len > s.capacity then throw (.protocol .payloadTooLarge) else pure (some len)
    | .ok none =>
      if s.rx.length = s.capacity then throw (.protocol .payloadTooLarge)
      let t ← clock
      if deadline ≤ t then return none
      match s.link.recv? (s.capacity - s.rx.length) with
      | none => do waitUntil deadline; pure none
      | some (link, .bytes []) => do put { s with link }; throw (.protocol .connectionClosed)
      | some (link, .bytes bs) => do
        put { s with link, rx := s.rx ++ bs }
        readFrame deadline fuel
      | some (link, .fault f) => do
        put { s with link }
        if f.isTimeout then pure none else throw (.transport f)

def classifyFront (len : Nat) : Flow Frame := do
  match classify ((← state).rx.take len) with
  | .ok f => pure f
  | .error e => throw e

def acknowledge (qos : QoS) (packetId : Option UInt16) : Flow Unit :=
  match qos, packetId with
  | .atMostOnce, _ => pure ()
  | .atLeastOnce, some id => sendPacket (.ack ⟨.pubAck, id⟩)
  | .exactlyOnce, some id => sendPacket (.ack ⟨.pubRec, id⟩)
  | _, none => throw (.protocol .malformedPacket)

def answer : Frame → Flow Unit
  | .ack ⟨.pubRel, id⟩ => sendPacket (.ack ⟨.pubComp, id⟩)
  | _ => pure ()

/-- Reads frames until one satisfies `want`. Publishes met on the way are acknowledged and
parked. -/
def waitFor (deadline : Nat) (want : Frame → Bool) : Nat → Flow Frame
  | 0 => throw .timeout
  | fuel + 1 => do
    match ← readFrame deadline (← state).budget with
    | none => throw .timeout
    | some len =>
      match ← classifyFront len with
      | .publish qos id => do
        acknowledge qos id
        put ((← state).stashFrame len)
        waitFor deadline want fuel
      | frame => do
        put ((← state).consume len)
        if want frame then pure frame
        else do
          answer frame
          waitFor deadline want fuel

def awaitFrame (deadline : Nat) (want : Frame → Bool) : Flow Frame := do
  waitFor deadline want (← state).budget

def keepAlive : Flow Unit := do
  let s ← state
  if s.options.keepAlive ≠ 0 then
    if (← clock) - s.lastTx ≥ s.options.keepAlive.toNat * 1000000 / 2 then sendPacket .pingReq

def seekPublish (deadline : Nat) : Nat → Flow (Option Nat)
  | 0 => pure none
  | fuel + 1 => do
    match ← readFrame deadline (← state).budget with
    | none => pure none
    | some len =>
      match ← classifyFront len with
      | .publish qos id => do
        acknowledge qos id
        pure (some len)
      | frame => do
        put ((← state).consume len)
        answer frame
        seekPublish deadline fuel

def nextPublish (deadline : Nat) : Flow (Option Nat) := do
  keepAlive
  seekPublish deadline (← state).budget

def dropLink : Flow Unit := do
  let s ← state
  put ({ s with connected := false, link := s.link.close }).resetBuffers

def settle {α : Type} (m : Flow α) : Flow α :=
  tryCatch m fun e => do
    match e with
    | .bufferTooSmall | .rejected => pure ()
    | _ => dropLink
    throw e

def releaseHeld : Flow Unit := do put (← state).release

def requireConnected : Flow Unit := do
  if !(← state).connected then throw .notConnected

def Session.connectPacket (s : Session) : Outbound :=
  .connect
    { clientId := s.options.clientId
      keepAlive := s.options.keepAlive
      cleanSession := s.options.cleanSession
      username := s.options.username
      password := s.options.password }

def handshake : Flow Unit := do
  sendPacket (← state).connectPacket
  let deadline := (← clock) + (← state).options.ackTimeout
  match ← awaitFrame deadline (fun f => match f with | .connAck _ => true | _ => false) with
  | .connAck 0 => pure ()
  | .connAck code => throw (.connectionRefused (.ofCode code.toNat))
  | _ => throw (.protocol .invalidResponse)

def connect : Flow Unit := do
  let s ← state
  if s.connected then return
  let s := s.resetBuffers
  let (link, r) := s.link.establish
  put { s with link }
  match r with
  | .error f => throw (.transport f)
  | .ok () =>
    tryCatch (do handshake; put { (← state) with connected := true }) fun e => do
      let s ← state
      put ({ s with link := s.link.close }).resetBuffers
      throw e

def disconnect : Flow Unit := do
  releaseHeld
  if (← state).connected then
    tryCatch (sendPacket .disconnect) fun _ => pure ()
  dropLink

def subscribeFlow (topic : String) (qos : QoS) : Flow Unit := do
  let id ← takeId
  sendPacket (.subscribe ⟨id, [(topic, qos)]⟩)
  let deadline := (← clock) + (← state).options.ackTimeout
  let frame ← awaitFrame deadline fun f => match f with | .subAck i _ => i == id | _ => false
  match frame with
  | .subAck _ true => throw .rejected
  | _ => pure ()

def subscribe (topic : String) (qos : QoS) : Flow Unit := do
  releaseHeld
  requireConnected
  settle (subscribeFlow topic qos)

def isAck (kind : AckKind) (id : UInt16) : Frame → Bool
  | .ack a => a.kind == kind && a.packetId == id
  | _ => false

def publishFlow (topic : String) (payload : List UInt8) (qos : QoS) : Flow Unit := do
  let packetId ← match qos with
    | .atMostOnce => pure none
    | _ => some <$> takeId
  sendPacket (.publish { topic, qos, payload, packetId })
  match packetId with
  | none => pure ()
  | some id => do
    let deadline := (← clock) + (← state).options.ackTimeout
    match qos with
    | .exactlyOnce => do
      let _ ← awaitFrame deadline (isAck .pubRec id)
      sendPacket (.ack ⟨.pubRel, id⟩)
      let _ ← awaitFrame deadline (isAck .pubComp id)
    | _ => do
      let _ ← awaitFrame deadline (isAck .pubAck id)

def publish (topic : String) (payload : List UInt8) (qos : QoS) : Flow Unit := do
  releaseHeld
  requireConnected
  settle (publishFlow topic payload qos)

def decodeHeld (bs : List UInt8) : Flow Publish :=
  match Publish.decode bs with
  | .ok p => pure p
  | .error e => throw (.ofPacket e)

/-- Waits up to `timeout` for an inbound publish, pinging and answering the broker meanwhile.
A parked publish is handed out first. -/
def poll (timeout : Nat) : Flow (Option Publish) := do
  releaseHeld
  requireConnected
  let s ← state
  if !s.stash.isEmpty then
    put { s with held := .stash }
    return some (← decodeHeld s.stash)
  let deadline := (← clock) + timeout
  match ← settle (nextPublish deadline) with
  | none => pure none
  | some len => do
    let s ← state
    put { s with held := .rx len }
    return some (← decodeHeld (s.rx.take len))

end Gateway.Mqtt
