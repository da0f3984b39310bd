/-!
The identity of a unit: its MAC address as twelve upper-case hex digits, or `UNKNOWN` when
the address could not be read. Only the first kind is a known identity.
-/
namespace Gateway

def DeviceId.macLength : Nat := 12

structure DeviceId where
  text : String
  deriving DecidableEq, Repr

def hexDigit (n : Nat) : Char := if n < 10 then Char.ofNat (48 + n) else Char.ofNat (55 + n)

def byteHex (b : UInt8) : List Char := [hexDigit (b.toNat / 16), hexDigit (b.toNat % 16)]

def DeviceId.ofMac (mac : Vector UInt8 6) : DeviceId :=
  ⟨String.ofList (mac.toList.flatMap byteHex)⟩

def DeviceId.unknown : DeviceId := ⟨"UNKNOWN"⟩

def DeviceId.isKnown (d : DeviceId) : Bool := d.text.utf8ByteSize == DeviceId.macLength

def DeviceId.sampleMac : Vector UInt8 6 := #v[0xA1, 0xB2, 0xC3, 0xD4, 0xE5, 0xF6]

end Gateway
