import Gateway.Network.Manager
import Gateway.Scenario.Hub
/-!
The connectivity manager over recording drivers and a key/value store in memory, driven step by
step beside the hub. The drivers count every call, failing ones included, and fail a call while
a failure is set for it; the store fails a call whose failure flag is set before it counts it.
-/
namespace Gateway.Scenario
open Gateway.Network Gateway.Hub

def failWith : Option DriverError → Except DriverError Unit
  | some e => .error e
  | none => .ok ()

structure FakeWifi where
  failAccessPoint : Option DriverError := none
  rejectConfig : Option DriverError := none
  rejectConnect : Option DriverError := none
  apStarts : Nat := 0
  apSsid : String := ""
  configured : Nat := 0
  lastConfigured : Option Credentials := none
  attempts : Nat := 0

instance : WifiDriver FakeWifi where
  startAccessPoint w cfg := ({ w with apStarts := w.apStarts + 1, apSsid := cfg.ssid }, failWith w.failAccessPoint)
  configureStation w c :=
    ({ w with configured := w.configured + 1, lastConfigured := some c }, failWith w.rejectConfig)
  connectStation w := ({ w with attempts := w.attempts + 1 }, failWith w.rejectConnect)

structure FakeWired where
  failStart : Option DriverError := none
  failDhcp : Option DriverError := none
  starts : Nat := 0
  dhcpRestarts : Nat := 0

instance : WiredDriver FakeWired where
  start d := ({ d with starts := d.starts + 1 }, failWith d.failStart)
  restartDhcp d := ({ d with dhcpRestarts := d.dhcpRestarts + 1 }, failWith d.failDhcp)

/-- A key/value store in memory. -/
structure MemoryStore where
  entries : List ((String × String) × String) := []
  failRead : Bool := false
  failWrite : Bool := false
  failCommit : Bool := false
  writes : Nat := 0
  commits : Nat := 0

namespace MemoryStore

def get? (s : MemoryStore) (ns key : String) : Option String :=
  (s.entries.find? (·.1 == (ns, key))).map (·.2)

def put (s : MemoryStore) (ns key value : String) : MemoryStore :=
  { s with entries := s.entries.filter (·.1 != (ns, key)) ++ [((ns, key), value)] }

end MemoryStore

instance : KeyValueStore MemoryStore where
  readText s ns key room :=
    if s.failRead then (s, .error ())
    else match s.get? ns key with
      | none => (s, .ok none)
      | some v => if v.utf8ByteSize ≤ room then (s, .ok (some v)) else (s, .error ())
  writeText s ns key v :=
    if s.failWrite then (s, .error ()) else ({ s.put ns key v with writes := s.writes + 1 }, .ok ())
  commit s _ := if s.failCommit then (s, .error ()) else ({ s with commits := s.commits + 1 }, .ok ())

abbrev Bench := Manager FakeWifi FakeWired (StoredCredentials MemoryStore)

inductive NetworkCall where
  | bringUp
  | tick (times : Nat)
  | runFor (d : Nat)
  | submit (ssid password : String) (timeout : Nat)
  | post (events : List LinkEvent)
  | hubInitialize
  | setWifi (failAccessPoint rejectConfig rejectConnect : Option DriverError)
  | setWired (failDhcp : Option DriverError)
  | setStore (failRead failWrite failCommit : Bool)
  | sleep (d : Nat)
  | state

inductive NetworkReply where
  | none
  | ok
  | failed (e : NetworkError)
  | hubError (e : HubError)
  | credentialsError (e : CredentialsError)
  | posted (rs : List (Except HubError Unit))
  | ran (returned : Bool)
  | stuck

structure NetworkRun where
  manager : Bench
  hub : Hub
  now : Nat := 0

def ticks : Nat → Timed (Bench × Hub) Unit
  | 0 => pure ()
  | n + 1 => do
    Manager.tick
    ticks n

def postAll (h : Hub) : List LinkEvent → List (Except HubError Unit) × Hub
  | [] => ([], h)
  | e :: rest =>
    match h.postLinkEvent e with
    | .ok h => let (rs, h) := postAll h rest; (.ok () :: rs, h)
    | .error x => let (rs, h) := postAll h rest; (.error x :: rs, h)

def MemoryStore.withFailures (s : MemoryStore) (r w c : Bool) : MemoryStore :=
  { s with failRead := r, failWrite := w, failCommit := c }

namespace NetworkRun

def timed (r : NetworkRun) (m : Timed (Bench × Hub) Unit) (limit : Option Nat) : Bool × NetworkRun :=
  let e := Timed.start m (r.manager, r.hub) ⟨r.now, limit⟩
  match e.value, limit with
  | none, some l => (false, ⟨e.state.1, e.state.2, l⟩)
  | _, _ => (true, ⟨e.state.1, e.state.2, e.clock.now⟩)

def step (r : NetworkRun) : NetworkCall → NetworkReply × NetworkRun
  | .bringUp =>
    match r.manager.bringUp r.hub with
    | (.ok (), m, h) => (.ok, { r with manager := m, hub := h })
    | (.error e, m, h) => (.failed e, { r with manager := m, hub := h })
  | .tick n => (.none, (r.timed (ticks n) none).2)
  | .runFor d =>
    let o := r.manager.options
    let (returned, r) := r.timed (Manager.run (Timed.roundsWithin d (o.tick + o.credentialsTimeout)))
      (some (r.now + d))
    (.ran returned, r)
  | .submit ssid password t =>
    let (x, h) := HubRun.step ⟨r.hub, r.now⟩ (.submit ssid password t)
    let r := { r with hub := h.hub, now := h.now }
    match x with
    | .ok => (.ok, r)
    | .hubError e => (.hubError e, r)
    | .credentialsError e => (.credentialsError e, r)
    | _ => (.stuck, r)
  | .post events => let (rs, h) := postAll r.hub events; (.posted rs, { r with hub := h })
  | .hubInitialize => (.none, { r with hub := r.hub.ready })
  | .setWifi a c s =>
    (.none, { r with manager := { r.manager with wifi :=
      { r.manager.wifi with failAccessPoint := a, rejectConfig := c, rejectConnect := s } } })
  | .setWired d =>
    (.none, { r with manager := { r.manager with wired := { r.manager.wired with failDhcp := d } } })
  | .setStore rd w c =>
    (.none, { r with manager := { r.manager with store := ⟨r.manager.store.store.withFailures rd w c⟩ } })
  | .sleep d => (.none, { r with now := r.now + d })
  | .state => (.none, r)

end NetworkRun

inductive StoreCall where
  | load
  | save (ssid password : String)
  | setStore (failRead failWrite failCommit : Bool)

inductive StoreReply where
  | none
  | loaded (r : Except NetworkError (Option Credentials))
  | saved (r : Except NetworkError Unit)
  | credentialsError (e : CredentialsError)

def StoreCall.perform (s : StoredCredentials MemoryStore) : StoreCall → StoreReply × StoredCredentials MemoryStore
  | .load => let (s, r) := s.load; (.loaded r, s)
  | .save ssid password =>
    match Credentials.new ssid password with
    | .error e => (.credentialsError e, s)
    | .ok c => let (s, r) := s.save c; (.saved r, s)
  | .setStore rd w c => (.none, ⟨s.store.withFailures rd w c⟩)

end Gateway.Scenario
