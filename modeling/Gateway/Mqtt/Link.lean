import Gateway.Mqtt.Decode
/-!
A scripted link to a broker. The peer's side is a queue of chunks: bytes, an end of stream,
or a fault. With no chunk queued the peer is silent and a read waits for ever. Every packet
written is recorded; with `auto` on, the broker answers the packets that expect an answer by
queueing that answer behind the chunks already waiting.
-/
namespace Gateway.Mqtt

/-- Faults of the link. -/
inductive LinkFault where
  | reset
  | timedOut
  deriving DecidableEq, Repr

def LinkFault.tag : LinkFault → String
  | .reset => "Reset"
  | .timedOut => "Timeout"

def LinkFault.isTimeout : LinkFault → Bool
  | .timedOut => true
  | .reset => false

/-- What the peer delivers at one read. -/
inductive Chunk where
  | data (bs : List UInt8)
  | eof
  | fault (f : LinkFault)
  deriving DecidableEq, Repr

/-- How the scripted broker answers. -/
structure Broker where
  auto : Bool := false
  connackCode : UInt8 := 0
  refuse : List String := []
  deriving DecidableEq, Repr

structure Link where
  incoming : List Chunk
  broker : Broker := {}
  sent : List (List UInt8) := []
  sentCount : Nat := 0
  opens : Nat := 0
  closes : Nat := 0
  failOpen : Nat := 0
  failSend : Nat := 0
  deriving Repr

def firstFilter (pkt : List UInt8) (start : Nat) : Option (String × UInt8) :=
  match Field.readUtf8 pkt (start + 2) with
  | .ok (topic, cursor) => (pkt[cursor]?).map fun q => (topic, q)
  | .error _ => none

def Broker.answer (b : Broker) (pkt : List UInt8) : Option (List UInt8) :=
  match pkt, frameBody pkt with
  | first :: _, .ok (start, _) =>
    let id := (pkt.drop start).take 2
    if first = 0x10 then some [0x20, 0x02, 0x00, b.connackCode]
    else if first = 0x82 then
      match firstFilter pkt start with
      | some (topic, q) => some ([0x90, 0x03] ++ id ++ [if b.refuse.contains topic then 0x80 else q])
      | none => none
    else if first = 0x32 || first = 0x34 then
      match Field.readUtf8 pkt start with
      | .ok (_, cursor) => some ([if first = 0x32 then 0x40 else 0x50, 0x02] ++ (pkt.drop cursor).take 2)
      | .error _ => none
    else if first = 0x62 then some ([0x70, 0x02] ++ id)
    else if first = 0xC0 then some [0xD0, 0x00]
    else none
  | _, _ => none

namespace Link

def establish (l : Link) : Link × Except LinkFault Unit :=
  let l := { l with opens := l.opens + 1 }
  if l.failOpen > 0 then ({ l with failOpen := l.failOpen - 1 }, .error .reset) else (l, .ok ())

def close (l : Link) : Link := { l with closes := l.closes + 1 }

def send (l : Link) (pkt : List UInt8) : Link × Except LinkFault Unit :=
  if l.failSend > 0 then ({ l with failSend := l.failSend - 1 }, .error .reset)
  else
    let l := { l with sent := pkt :: l.sent, sentCount := l.sentCount + 1 }
    let incoming := match l.broker.auto, l.broker.answer pkt with
      | true, some reply => l.incoming ++ [.data reply]
      | _, _ => l.incoming
    ({ l with incoming }, .ok ())

/-- What one read of at most `room` bytes returns. -/
inductive Received where
  | bytes (bs : List UInt8)
  | fault (f : LinkFault)
  deriving DecidableEq, Repr

/-- Reads at most `room` bytes; `none` while the peer is silent. A chunk longer than the room
leaves its rest at the front of the queue. -/
def recv? (l : Link) (room : Nat) : Option (Link × Received) :=
  match l.incoming with
  | [] => none
  | .data bs :: rest =>
    let incoming := if bs.length > room then .data (bs.drop room) :: rest else rest
    some ({ l with incoming }, .bytes (bs.take room))
  | .eof :: rest => some ({ l with incoming := rest }, .bytes [])
  | .fault f :: rest => some ({ l with incoming := rest }, .fault f)

def pendingBytes (l : Link) : Nat :=
  l.incoming.foldl (fun n c => match c with | .data bs => n + bs.length | _ => n) 0

end Link

end Gateway.Mqtt
