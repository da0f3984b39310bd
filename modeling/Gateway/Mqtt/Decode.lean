import Gateway.Mqtt.Packet
import Gateway.Mqtt.VarInt
import Gateway.Mqtt.Field
/-!
Reading the packets a broker sends. Each reader takes the frame at the start of the bytes,
reads its remaining-length field and then only the body that field announces, so bytes after
the frame never change the answer. `Inbound.decode` picks the reader by the packet type in the
high nibble of the first byte.
-/
namespace Gateway.Mqtt

def frameBody (bs : List UInt8) : Except PacketError (Nat × Nat) :=
  match VarInt.readAt bs 1 with
  | .error e => .error e
  | .ok (len, start) => if start + len ≤ bs.length then .ok (start, start + len) else .error .malformed

/-- A CONNACK body is exactly two bytes. -/
def ConnAck.decode (bs : List UInt8) : Except PacketError ConnAck := do
  let (start, stop) ← frameBody bs
  if stop - start ≠ 2 then throw .malformed
  match bs.drop start with
  | flags :: code :: _ => pure ⟨flags &&& 1 ≠ 0, code⟩
  | _ => throw .malformed

/-- The QoS bits are checked before the body is looked at. -/
def Publish.decode (bs : List UInt8) : Except PacketError Publish := do
  let first ← match bs with
    | b :: _ => pure b
    | [] => throw .malformed
  let qos ← match QoS.ofBits? ((first >>> 1) &&& 3) with
    | some q => pure q
    | none => throw .malformed
  let (start, stop) ← frameBody bs
  let frame := bs.take stop
  let (topic, cursor) ← Field.readUtf8 frame start
  let (packetId, cursor) ← match qos with
    | .atMostOnce => pure (none, cursor)
    | _ => do
      let (id, next) ← Field.readU16 frame cursor
      pure (some id, next)
  pure { topic, qos, payload := frame.drop cursor, packetId }

def AckKind.ofType? (t : Nat) : Option AckKind :=
  match t with
  | 4 => some .pubAck
  | 5 => some .pubRec
  | 6 => some .pubRel
  | 7 => some .pubComp
  | _ => none

/-- The kind comes from the type nibble; the packet id is the first two body bytes. -/
def Ack.decode (bs : List UInt8) : Except PacketError Ack := do
  let first ← match bs with
    | b :: _ => pure b
    | [] => throw .malformed
  let t := (first >>> 4).toNat
  let kind ← match AckKind.ofType? t with
    | some k => pure k
    | none => throw (.protocol (.invalidPacketType t))
  let (start, stop) ← frameBody bs
  let (packetId, _) ← Field.readU16 (bs.take stop) start
  pure ⟨kind, packetId⟩

def maxReturnCodes : Nat := 8

def SubAck.decode (bs : List UInt8) : Except PacketError SubAck := do
  let (start, stop) ← frameBody bs
  let frame := bs.take stop
  let (packetId, cursor) ← Field.readU16 frame start
  let codes := frame.drop cursor
  if codes.length > maxReturnCodes then throw (.protocol .payloadTooLarge)
  pure ⟨packetId, codes⟩

/-- Reads the frame at the start of `bs`; `none` for no bytes at all. A PINGRESP is taken
from its type byte alone. -/
def Inbound.decode (bs : List UInt8) : Except PacketError (Option Inbound) :=
  match bs with
  | [] => .ok none
  | first :: _ =>
    match (first >>> 4).toNat with
    | 2 => (ConnAck.decode bs).map (some ∘ .connAck)
    | 3 => (Publish.decode bs).map (some ∘ .publish)
    | 4 | 5 | 6 | 7 => (Ack.decode bs).map (some ∘ .ack)
    | 9 => (SubAck.decode bs).map (some ∘ .subAck)
    | 13 => .ok (some .pingResp)
    | t => .error (.protocol (.invalidPacketType t))

end Gateway.Mqtt
