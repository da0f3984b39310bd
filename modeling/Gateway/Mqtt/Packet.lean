import Gateway.Mqtt.Error
/-!
The MQTT 3.1.1 control packets of a client: those it writes (CONNECT, PUBLISH, the four
publish acknowledgements, SUBSCRIBE, PINGREQ, DISCONNECT) and those it reads from a broker
(CONNACK, PUBLISH, the acknowledgements, SUBACK, PINGRESP).
-/
namespace Gateway.Mqtt

/-- Delivery guarantee of a publish. -/
inductive QoS where
  | atMostOnce
  | atLeastOnce
  | exactlyOnce
  deriving DecidableEq, Repr

def QoS.bits : QoS → UInt8
  | .atMostOnce => 0
  | .atLeastOnce => 1
  | .exactlyOnce => 2

def QoS.ofBits? (b : UInt8) : Option QoS :=
  if b = 0 then some .atMostOnce
  else if b = 1 then some .atLeastOnce
  else if b = 2 then some .exactlyOnce
  else none

/-- CONNECT: what a client announces when it opens a session. -/
structure Connect where
  clientId : String
  keepAlive : UInt16
  cleanSession : Bool
  username : Option String := none
  password : Option (List UInt8) := none
  deriving DecidableEq, Repr

/-- PUBLISH, in either direction. A packet id travels only with QoS 1 and 2. -/
structure Publish where
  topic : String
  qos : QoS
  payload : List UInt8
  packetId : Option UInt16
  deriving DecidableEq, Repr

/-- The four two-byte acknowledgements of the publish flows. -/
inductive AckKind where
  | pubAck
  | pubRec
  | pubRel
  | pubComp
  deriving DecidableEq, Repr

def AckKind.tag : AckKind → String
  | .pubAck => "PubAck"
  | .pubRec => "PubRec"
  | .pubRel => "PubRel"
  | .pubComp => "PubComp"

structure Ack where
  kind : AckKind
  packetId : UInt16
  deriving DecidableEq, Repr

/-- SUBSCRIBE with its topic filters, each with the QoS asked for. -/
structure Subscribe where
  packetId : UInt16
  topics : List (String × QoS)
  deriving DecidableEq, Repr

structure ConnAck where
  sessionPresent : Bool
  reasonCode : UInt8
  deriving DecidableEq, Repr

structure SubAck where
  packetId : UInt16
  reasonCodes : List UInt8
  deriving DecidableEq, Repr

def SubAck.failure : UInt8 := 0x80

/-- A packet a client reads from a broker. -/
inductive Inbound where
  | connAck (p : ConnAck)
  | publish (p : Publish)
  | ack (p : Ack)
  | subAck (p : SubAck)
  | pingResp
  deriving DecidableEq, Repr

/-- A packet a client writes to a broker. -/
inductive Outbound where
  | connect (p : Connect)
  | publish (p : Publish)
  | ack (p : Ack)
  | subscribe (p : Subscribe)
  | pingReq
  | disconnect
  deriving DecidableEq, Repr

end Gateway.Mqtt
