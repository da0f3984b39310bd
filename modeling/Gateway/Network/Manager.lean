import Gateway.Hub.Basic
import Gateway.Network.Driver
import Gateway.Network.Storage
/-!
The connectivity manager. It owns three links (the station uplink, the local access point and
the wired uplink), follows the link events the drivers report, reconnects the station a
bounded number of times, and publishes to the hub which links are up, whether an uplink exists
and the address of the interface that provides it (the wired one first).

Credentials that produced an address are saved, unless the store already holds them. New
credentials always grant a fresh set of attempts; credentials the radio refuses leave the
station without any until the next ones arrive.
-/
namespace Gateway.Network
open Gateway.Hub

inductive LinkPhase where
  | disconnected
  | connecting
  | connected
  deriving DecidableEq, Repr

def LinkPhase.tag : LinkPhase → String
  | .disconnected => "Disconnected"
  | .connecting => "Connecting"
  | .connected => "Connected"

/-- The bookkeeping of one link. -/
structure ConnectionState where
  phase : LinkPhase := .disconnected
  retries : Nat := 0
  exhausted : Bool := false
  deriving DecidableEq, Repr

namespace ConnectionState

def isConnected (c : ConnectionState) : Bool := c.phase = .connected

def connected (c : ConnectionState) : ConnectionState := { c with phase := .connected, retries := 0 }

def disconnected (c : ConnectionState) : ConnectionState := { c with phase := .disconnected }

end ConnectionState

structure NetworkOptions where
  accessPoint : AccessPointConfig := {}
  maxReconnectAttempts : Nat := 3
  tick : Nat := 1000000
  credentialsTimeout : Nat := 100000
  deriving DecidableEq, Repr

def maxClientCount : Nat := 255

structure Manager (ω ε τ : Type) where
  wifi : ω
  wired : ε
  store : τ
  options : NetworkOptions := {}
  station : ConnectionState := {}
  accessPoint : ConnectionState := {}
  wiredLink : ConnectionState := {}
  stationIp : Option Ipv4 := none
  wiredIp : Option Ipv4 := none
  active : Option Credentials := none
  stored : Option Credentials := none
  apClients : Nat := 0
  uplink : Bool := false

namespace Manager

variable {ω ε τ : Type} [WifiDriver ω] [WiredDriver ε] [CredentialStore τ]

def new (wifi : ω) (wired : ε) (store : τ) (options : NetworkOptions) : Manager ω ε τ :=
  { wifi, wired, store, options }

def applyCredentials (m : Manager ω ε τ) (c : Credentials) : Manager ω ε τ × Except NetworkError Unit :=
  let m := { m with station := { m.station with retries := 0, exhausted := false }, active := none }
  match WifiDriver.configureStation m.wifi c with
  | (w, .ok ()) => ({ m with wifi := w, active := some c }, .ok ())
  | (w, .error e) => ({ m with wifi := w }, .error (.station e))

def persistCredentials (m : Manager ω ε τ) : Manager ω ε τ :=
  match m.active with
  | none => m
  | some c =>
    if m.stored = some c then m
    else match CredentialStore.save m.store c with
      | (t, .ok ()) => { m with store := t, stored := some c }
      | (t, .error _) => { m with store := t }

def handleEvent (m : Manager ω ε τ) : LinkEvent → Manager ω ε τ
  | .stationConnected => { m with station := { m.station with phase := .connecting } }
  | .stationDisconnected => { m with station := m.station.disconnected, stationIp := none }
  | .stationGotIp ip => persistCredentials { m with station := m.station.connected, stationIp := some ip }
  | .accessPointClientJoined =>
    { m with apClients := min (m.apClients + 1) maxClientCount, accessPoint := m.accessPoint.connected }
  | .accessPointClientLeft =>
    let n := m.apClients - 1
    { m with apClients := n, accessPoint := if n = 0 then m.accessPoint.disconnected else m.accessPoint }
  | .wiredLinkUp => { m with wiredLink := { m.wiredLink with phase := .connecting } }
  | .wiredLinkDown => { m with wiredLink := m.wiredLink.disconnected, wiredIp := none }
  | .wiredGotIp ip => { m with wiredLink := m.wiredLink.connected, wiredIp := some ip }
  | .wiredLostIp =>
    { m with wiredLink := { m.wiredLink with phase := .connecting }, wiredIp := none,
             wired := (WiredDriver.restartDhcp m.wired).1 }

/-- At most one station attempt per tick and at most `maxReconnectAttempts` in a row; a refused
attempt counts too. -/
def manageConnection (m : Manager ω ε τ) : Manager ω ε τ :=
  if m.station.isConnected then { m with station := { m.station with retries := 0 } }
  else if m.station.exhausted || m.active.isNone then m
  else if m.station.retries < m.options.maxReconnectAttempts then
    let station := { m.station with retries := m.station.retries + 1, phase := .connecting }
    match WifiDriver.connectStation m.wifi with
    | (w, .ok ()) => { m with wifi := w, station }
    | (w, .error _) => { m with wifi := w, station := { station with phase := .disconnected } }
  else { m with station := { m.station with exhausted := true, phase := .disconnected } }

def publish (m : Manager ω ε τ) (h : Hub) : Manager ω ε τ × Hub :=
  let uplink := m.station.isConnected || m.wiredLink.isConnected
  let bits := ((h.bits.assign .stationLinked m.station.isConnected).assign .accessPointLinked
    m.accessPoint.isConnected).assign .uplink uplink
  ({ m with uplink }, { h with bits, ip := m.wiredIp.or m.stationIp })

/-- Starts the access point and the wired interface, then configures the station from the
store if it holds credentials. A driver that fails to start fails it. -/
def bringUp (m : Manager ω ε τ) (h : Hub) : Except NetworkError Unit × Manager ω ε τ × Hub :=
  match WifiDriver.startAccessPoint m.wifi m.options.accessPoint with
  | (w, .error e) => (.error (.accessPoint e), { m with wifi := w }, h)
  | (w, .ok ()) =>
    match WiredDriver.start m.wired with
    | (d, .error e) => (.error (.wired e), { m with wifi := w, wired := d }, h)
    | (d, .ok ()) =>
      let m := { m with wifi := w, wired := d, wiredLink := { m.wiredLink with phase := .connecting } }
      let m := match CredentialStore.load m.store with
        | (t, .ok (some c)) => ({ m with store := t, stored := some c }.applyCredentials c).1
        | (t, _) => { m with store := t }
      let (m, h) := m.publish h
      (.ok (), m, h)

/-- One round: take new credentials (waiting for them up to the timeout), follow every queued
link event, make at most one station attempt, publish. -/
def tick : Timed (Manager ω ε τ × Hub) Unit := do
  let timeout := (← Timed.read).1.options.credentialsTimeout
  let c ← Timed.focus Prod.snd (fun p h => (p.1, h)) (Hub.receiveCredentials timeout)
  let (m, h) ← Timed.read
  let m := match c with
    | some c => (m.applyCredentials c).1
    | none => m
  let m := h.linkEvents.items.foldl handleEvent m
  Timed.write (m.manageConnection.publish { h with linkEvents := h.linkEvents.clear })

def serve : Nat → Timed (Manager ω ε τ × Hub) Unit
  | 0 => pure ()
  | n + 1 => do
    tick
    Timed.sleep (← Timed.read).1.options.tick
    serve n

/-- The manager task: with the hub ready it brings the links up and then serves `rounds` rounds, a tick
apart; it returns at once when the hub is not ready or bringing them up fails. -/
def run (rounds : Nat) : Timed (Manager ω ε τ × Hub) Unit := do
  let (m, h) ← Timed.read
  match h.validate with
  | .error _ => pure ()
  | .ok () =>
    match m.bringUp h with
    | (.error _, m, h) => Timed.write (m, h)
    | (.ok (), m, h) => do
      Timed.write (m, h)
      serve rounds

end Manager

end Gateway.Network
