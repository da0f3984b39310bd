import Gateway.Device
import Gateway.Bridge.Error
/-!
Payload codecs. A publish topic renders each queued item with its encoder; a subscribe topic
reads each inbound payload with its decoder. A topic owns exactly one codec, and the codec must
suit the topic's direction.
-/
namespace Gateway.Bridge

def maxPayloadLength : Nat := 512

/-- A payload buffer that starts out as `s`: all of it when it fits, and empty when it does not,
since text is written into the buffer whole or not at all. -/
def payloadOf (s : String) : String := if s.utf8ByteSize ≤ maxPayloadLength then s else ""

inductive Direction where
  | publish
  | subscribe
  deriving DecidableEq, Repr

/-- What an encoder may stamp into a payload. -/
structure EncodeContext where
  device : DeviceId
  timestamp : Nat

abbrev Encoder (α : Type) := α → EncodeContext → Except CodecError String

abbrev Decoder (α : Type) := List UInt8 → Except CodecError α

inductive Codec (α : Type) where
  | encoder (f : Encoder α)
  | decoder (f : Decoder α)

def Codec.suits {α : Type} : Codec α → Direction → Bool
  | .encoder _, .publish => true
  | .decoder _, .subscribe => true
  | _, _ => false

end Gateway.Bridge
