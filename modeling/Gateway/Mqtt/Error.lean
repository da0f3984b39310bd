/-!
Errors of the MQTT layer. A packet codec fails only with a protocol violation or with a
buffer that is too small (`PacketError`); a broker session adds transport faults, refusals,
timeouts and the states of the session itself (`MqttError`).
-/
namespace Gateway.Mqtt

/-- Violations of MQTT 3.1.1 found while reading or writing a packet. -/
inductive ProtocolError where
  | invalidPacketType (kind : Nat)
  | invalidResponse
  | connectionClosed
  | malformedPacket
  | payloadTooLarge
  | invalidUtf8String
  deriving DecidableEq, Repr

/-- The ways a packet codec fails. -/
inductive PacketError where
  | protocol (e : ProtocolError)
  | bufferTooSmall
  deriving DecidableEq, Repr

/-- Return code of a CONNACK. -/
inductive ConnectReasonCode where
  | success
  | unacceptableProtocolVersion
  | identifierRejected
  | serverUnavailable
  | badUserNameOrPassword
  | notAuthorized
  | other (code : Nat)
  deriving DecidableEq, Repr

def ConnectReasonCode.ofCode : Nat → ConnectReasonCode
  | 0 => .success
  | 1 => .unacceptableProtocolVersion
  | 2 => .identifierRejected
  | 3 => .serverUnavailable
  | 4 => .badUserNameOrPassword
  | 5 => .notAuthorized
  | n => .other n

/-- Errors of a broker session over a transport whose faults are `ε`. -/
inductive MqttError (ε : Type) where
  | transport (e : ε)
  | protocol (e : ProtocolError)
  | connectionRefused (code : ConnectReasonCode)
  | unreachable
  | notConnected
  | bufferTooSmall
  | timeout
  | rejected
  deriving DecidableEq, Repr

def MqttError.ofPacket {ε : Type} : PacketError → MqttError ε
  | .protocol e => .protocol e
  | .bufferTooSmall => .bufferTooSmall

def ProtocolError.tag : ProtocolError → String
  | .invalidPacketType t => s!"InvalidPacketType({t})"
  | .invalidResponse => "InvalidResponse"
  | .connectionClosed => "ConnectionClosed"
  | .malformedPacket => "MalformedPacket"
  | .payloadTooLarge => "PayloadTooLarge"
  | .invalidUtf8String => "InvalidUtf8String"

def PacketError.tag : PacketError → String
  | .protocol e => s!"Protocol({e.tag})"
  | .bufferTooSmall => "BufferTooSmall"

def ConnectReasonCode.tag : ConnectReasonCode → String
  | .success => "Success"
  | .unacceptableProtocolVersion => "UnacceptableProtocolVersion"
  | .identifierRejected => "IdentifierRejected"
  | .serverUnavailable => "ServerUnavailable"
  | .badUserNameOrPassword => "BadUserNameOrPassword"
  | .notAuthorized => "NotAuthorized"
  | .other n => s!"Other({n})"

def MqttError.tag {ε : Type} (fault : ε → String) : MqttError ε → String
  | .transport e => s!"Transport({fault e})"
  | .protocol e => s!"Protocol({e.tag})"
  | .connectionRefused c => s!"ConnectionRefused({c.tag})"
  | .unreachable => "Unreachable"
  | .notConnected => "NotConnected"
  | .bufferTooSmall => "BufferTooSmall"
  | .timeout => "Timeout"
  | .rejected => "Rejected"

def PacketError.malformed : PacketError := .protocol .malformedPacket

end Gateway.Mqtt
