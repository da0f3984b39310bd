import Gateway.Mqtt.Error
import Gateway.Word
/-!
Fixed fields of MQTT packets: two-byte big-endian numbers, and byte strings behind a two-byte
length. A text field is the UTF-8 form of a string behind such a length, and it is read back
only if those bytes are valid UTF-8.

The packet readers read inside a frame, whose cursors stay far below the largest word. A caller's
own cursor may lie anywhere: there the end of a field is a sum of words, and a sum past the top
stops the read (`readU16At`, `readUtf8At`).
-/
namespace Gateway.Mqtt.Field

def u16 (n : UInt16) : List UInt8 := [(n >>> 8).toUInt8, n.toUInt8]

def maxPrefixed : Nat := 65535

def readU16 (bs : List UInt8) (cursor : Nat) : Except PacketError (UInt16 × Nat) :=
  match bs.drop cursor with
  | hi :: lo :: _ => .ok (hi.toUInt16 <<< 8 ||| lo.toUInt16, cursor + 2)
  | _ => .error .malformed

def readUtf8 (bs : List UInt8) (cursor : Nat) : Except PacketError (String × Nat) :=
  match readU16 bs cursor with
  | .error e => .error e
  | .ok (len, start) =>
    let text := (bs.drop start).take len.toNat
    if text.length < len.toNat then .error .malformed
    else match String.fromUTF8? ⟨text.toArray⟩ with
      | some s => .ok (s, start + len.toNat)
      | none => .error (.protocol .invalidUtf8String)

/-- `readU16` at a cursor of the caller, the end of the field a sum of words. -/
def readU16At (bs : List UInt8) (cursor : Nat) : Checked PacketError (UInt16 × Nat) :=
  if wordMax < cursor + 2 then .stops .addOverflow else .ofExcept (readU16 bs cursor)

/-- `readUtf8` at a cursor of the caller: the ends of the length and of the text are sums of
words. -/
def readUtf8At (bs : List UInt8) (cursor : Nat) : Checked PacketError (String × Nat) :=
  match readU16At bs cursor with
  | .ok (len, start) =>
    if wordMax < start + len.toNat then .stops .addOverflow else .ofExcept (readUtf8 bs cursor)
  | .error e => .error e
  | .stops why => .stops why

def prefixed (bs : List UInt8) : Except PacketError (List UInt8) :=
  if bs.length ≤ maxPrefixed then .ok (u16 bs.length.toUInt16 ++ bs)
  else .error (.protocol .payloadTooLarge)

/-- Writes the text field of `s` into a buffer of `room` bytes. A string too long for its
length prefix is refused before the room is looked at. -/
def writeUtf8 (room : Nat) (s : String) : Except PacketError (List UInt8) :=
  match prefixed s.toUTF8.toList with
  | .error e => .error e
  | .ok field => if field.length ≤ room then .ok field else .error .bufferTooSmall

end Gateway.Mqtt.Field
