import Gateway.Mqtt.Error
/-!
Variable-byte integers: seven value bits a byte, the least significant group first, and the
top bit set on every byte but the last. `encode` writes the shortest form of any number;
`scan` reads a remaining-length field, which MQTT bounds to four bytes. A field is either
complete, cut short by the end of the bytes, or overlong; the two readers below tell the last
two apart differently, and this is the whole difference between them.
-/
namespace Gateway.Mqtt.VarInt

/-- The shortest variable-byte form of `n`. -/
def encode (n : Nat) : List UInt8 :=
  if n < 128 then [n.toUInt8] else (n % 128 + 128).toUInt8 :: encode (n / 128)
termination_by n
decreasing_by omega

/-- What reading a remaining-length field finds. -/
inductive Scan where
  | value (value width : Nat)
  | short
  | overlong
  deriving DecidableEq, Repr

def Scan.extend (b : UInt8) : Scan → Scan
  | .value v w => .value (b.toNat % 128 + 128 * v) (w + 1)
  | s => s

def scanWithin : Nat → List UInt8 → Scan
  | _, [] => .short
  | slots, b :: rest =>
    if b < 128 then .value b.toNat 1
    else match slots with
      | 0 | 1 => .overlong
      | k + 2 => (scanWithin (k + 1) rest).extend b

/-- Reads a remaining-length field of at most four bytes. -/
def scan (bs : List UInt8) : Scan := scanWithin 4 bs

def readAt (bs : List UInt8) (cursor : Nat) : Except PacketError (Nat × Nat) :=
  match scan (bs.drop cursor) with
  | .value v w => .ok (v, cursor + w)
  | _ => .error .malformed

def write (room n : Nat) : Except PacketError (List UInt8) :=
  if (encode n).length ≤ room then .ok (encode n) else .error .bufferTooSmall

/-- Length of the frame at the start of `bs`: its type byte, its remaining-length field and the
body that field announces. `none` while the frame is still incomplete. -/
def frameLength (bs : List UInt8) : Except PacketError (Option Nat) :=
  match scan (bs.drop 1) with
  | .value r w => .ok (if 1 + w + r ≤ bs.length then some (1 + w + r) else none)
  | .short => .ok none
  | .overlong => .error .malformed

theorem encode_of_lt {n : Nat} (h : n < 128) : encode n = [n.toUInt8] := by
  rw [encode, if_pos h]

theorem encode_of_le {n : Nat} (h : 128 ≤ n) :
    encode n = (n % 128 + 128).toUInt8 :: encode (n / 128) := by
  rw [encode, if_neg (by omega)]

theorem encode_ne_nil (n : Nat) : encode n ≠ [] := by
  by_cases h : n < 128
  · simp [encode_of_lt h]
  · simp [encode_of_le (by omega : 128 ≤ n)]

end Gateway.Mqtt.VarInt
