import Gateway.Mqtt.Packet
import Gateway.Mqtt.VarInt
import Gateway.Mqtt.Field
/-!
Writing packets into a buffer of a given size. The variable part of CONNECT, PUBLISH and
SUBSCRIBE is staged behind a gap of five bytes, room for the type byte and the longest
remaining-length field, and the fixed header is put in front of it at the end. So a staged
packet needs five bytes more than its content, even where its final form is shorter; the
acknowledgements and the two-byte packets are written in place. Putting the header in front is a
move inside the buffer, whose bounds check stops the call where a field longer than the gap
pushes the content past the end.
-/
namespace Gateway.Mqtt

def headerGap : Nat := 5

/-- Content staged so far in a buffer of `size` bytes. -/
structure Stage where
  size : Nat
  content : List UInt8

namespace Stage

def start (size : Nat) : Except PacketError Stage :=
  if headerGap ≤ size then .ok ⟨size, []⟩ else .error .bufferTooSmall

def room (st : Stage) : Nat := st.size - (headerGap + st.content.length)

def put (st : Stage) (bs : List UInt8) : Except PacketError Stage :=
  if bs.length ≤ st.room then .ok { st with content := st.content ++ bs } else .error .bufferTooSmall

def putPrefixed (st : Stage) (bs : List UInt8) : Except PacketError Stage :=
  match Field.prefixed bs with
  | .ok field => st.put field
  | .error e => .error e

def putText (st : Stage) (s : String) : Except PacketError Stage :=
  st.putPrefixed s.toUTF8.toList

/-- Puts the fixed header with `header` as type byte in front of the content and moves the content
right behind it. The gap has room for a remaining-length field of four bytes; a longer field is
written on over the first staged bytes, and the move then carries its overflow along in their
place. A move that would run past the end of the buffer fails its bounds check. -/
def finish (st : Stage) (header : UInt8) : Checked PacketError (List UInt8) :=
  match VarInt.write (st.size - 1) st.content.length with
  | .ok field =>
    if 1 + field.length + st.content.length ≤ st.size then
      .ok (header :: field ++
        (field.drop (headerGap - 1) ++ st.content.drop (field.length - (headerGap - 1))))
    else .stops .copyOutOfBounds
  | .error e => .error e

def finishStaged (staged : Except PacketError Stage) (header : UInt8) : Checked PacketError (List UInt8) :=
  match staged with
  | .ok st => st.finish header
  | .error e => .error e

end Stage

def Connect.flags (p : Connect) : UInt8 :=
  (if p.cleanSession then 0x02 else 0) ||| (if p.username.isSome then 0x80 else 0) |||
    (if p.password.isSome then 0x40 else 0)

def protocolLevel : UInt8 := 4

def Connect.stage (p : Connect) (size : Nat) : Except PacketError Stage := do
  let st ← Stage.start size
  let st ← st.putText "MQTT"
  let st ← st.put [protocolLevel, p.flags]
  let st ← st.put (Field.u16 p.keepAlive)
  let st ← st.putText p.clientId
  let st ← match p.username with
    | some u => st.putText u
    | none => pure st
  match p.password with
    | some w => st.putPrefixed w
    | none => pure st

def Connect.encode (p : Connect) (size : Nat) : Checked PacketError (List UInt8) :=
  Stage.finishStaged (p.stage size) 0x10

def Publish.stage (p : Publish) (size : Nat) : Except PacketError Stage := do
  let st ← Stage.start size
  let st ← st.putText p.topic
  let st ← match p.qos, p.packetId with
    | .atMostOnce, _ => pure st
    | _, some id => st.put (Field.u16 id)
    | _, none => throw .malformed
  st.put p.payload

def Publish.encode (p : Publish) (size : Nat) : Checked PacketError (List UInt8) :=
  Stage.finishStaged (p.stage size) ((0x30 : UInt8) ||| p.qos.bits <<< 1)

def AckKind.header : AckKind → UInt8
  | .pubAck => 0x40
  | .pubRec => 0x50
  | .pubRel => 0x62
  | .pubComp => 0x70

def writeInPlace (size : Nat) (bs : List UInt8) : Except PacketError (List UInt8) :=
  if bs.length ≤ size then .ok bs else .error .bufferTooSmall

def Ack.encode (p : Ack) (size : Nat) : Except PacketError (List UInt8) :=
  writeInPlace size (p.kind.header :: 0x02 :: Field.u16 p.packetId)

def Stage.putFilters (st : Stage) : List (String × QoS) → Except PacketError Stage
  | [] => .ok st
  | (t, q) :: rest =>
    match st.putText t with
    | .error e => .error e
    | .ok st => match st.put [q.bits] with
      | .error e => .error e
      | .ok st => st.putFilters rest

def Subscribe.stage (p : Subscribe) (size : Nat) : Except PacketError Stage := do
  let st ← Stage.start size
  let st ← st.put (Field.u16 p.packetId)
  st.putFilters p.topics

def Subscribe.encode (p : Subscribe) (size : Nat) : Checked PacketError (List UInt8) :=
  Stage.finishStaged (p.stage size) 0x82

def Outbound.encode (p : Outbound) (size : Nat) : Checked PacketError (List UInt8) :=
  match p with
  | .connect c => c.encode size
  | .publish q => q.encode size
  | .ack a => .ofExcept (a.encode size)
  | .subscribe s => s.encode size
  | .pingReq => .ofExcept (writeInPlace size [0xC0, 0x00])
  | .disconnect => .ofExcept (writeInPlace size [0xE0, 0x00])

end Gateway.Mqtt
