/-!
What the network drivers report about their links, and IPv4 addresses with their dotted form.
-/
namespace Gateway.Network

structure Ipv4 where
  a : UInt8
  b : UInt8
  c : UInt8
  d : UInt8
  deriving DecidableEq, Repr

def Ipv4.dotted (ip : Ipv4) : String := s!"{ip.a}.{ip.b}.{ip.c}.{ip.d}"

/-- One part of the dotted form: one to three ASCII digits, with no leading zero unless the part
is `0` alone, and a value of at most 255. -/
def Ipv4.part? (s : String) : Option UInt8 :=
  let ds := s.toList
  if ds.isEmpty || ds.length > 3 || !ds.all Char.isDigit || (ds.length > 1 && ds.head? == some '0') then
    none
  else
    let n := ds.foldl (fun acc c => acc * 10 + (c.toNat - '0'.toNat)) 0
    if n < 256 then some n.toUInt8 else none

def Ipv4.ofDotted? (s : String) : Option Ipv4 :=
  match (s.splitOn ".").map Ipv4.part? with
  | [some a, some b, some c, some d] => some ⟨a, b, c, d⟩
  | _ => none

inductive LinkEvent where
  | stationConnected
  | stationDisconnected
  | stationGotIp (ip : Ipv4)
  | accessPointClientJoined
  | accessPointClientLeft
  | wiredLinkUp
  | wiredLinkDown
  | wiredGotIp (ip : Ipv4)
  | wiredLostIp
  deriving DecidableEq, Repr

def LinkEvent.tag : LinkEvent → String
  | .stationConnected => "StationConnected"
  | .stationDisconnected => "StationDisconnected"
  | .stationGotIp _ => "StationGotIp"
  | .accessPointClientJoined => "AccessPointClientJoined"
  | .accessPointClientLeft => "AccessPointClientLeft"
  | .wiredLinkUp => "WiredLinkUp"
  | .wiredLinkDown => "WiredLinkDown"
  | .wiredGotIp _ => "WiredGotIp"
  | .wiredLostIp => "WiredLostIp"

end Gateway.Network
