import Gateway.Hub.Basic
import Gateway.Scenario.Events
/-!
The hub driven step by step by one task.
-/
namespace Gateway.Scenario
open Gateway.Hub Gateway.Network Gateway.Sched

inductive HubCall where
  | ready
  | validate
  | set (mask : EventBits)
  | clear (mask : EventBits)
  | submit (ssid password : String) (timeout : Nat)
  | post (e : LinkEvent)
  | takeCredentials
  | takeLinkEvent
  | counts
  | synchronizeTime (unix : Nat)
  | unixTime
  | setIp (ip : Option Ipv4)
  | ipAddress
  | status
  | wait (mask : EventBits) (clearOnExit requireAll : Bool) (timeout : Nat)
  | sleep (d : Nat)

inductive HubReply where
  | none
  | ok
  | hubError (e : HubError)
  | credentialsError (e : CredentialsError)
  | credentials (c : Option Credentials)
  | event (e : Option LinkEvent)
  | counts (credentials linkEvents : Nat)
  | unixTime (t : Option Nat)
  | ip (ip : Option Ipv4)
  | status (connected : Bool) (json : String)
  | bits (b : EventBits)
  | stuck
  | panicked (why : Panic)

def HubReply.ofUnixTime : Except Panic (Option Nat) → HubReply
  | .ok t => .unixTime t
  | .error why => .panicked why

structure HubRun where
  hub : Hub := {}
  now : Nat := 0

def hubResult (r : Except HubError Unit) : HubReply :=
  match r with
  | .ok () => .ok
  | .error e => .hubError e

def HubRun.solo (r : HubRun) (j : Job Hub HubReply) : HubReply × HubRun :=
  match Job.solo r.now r.hub j with
  | some e => (e.first, ⟨e.state, e.now⟩)
  | none => (.stuck, r)

def HubRun.step (r : HubRun) : HubCall → HubReply × HubRun
  | .ready => (.none, { r with hub := r.hub.ready })
  | .validate => (hubResult r.hub.validate, r)
  | .set m => (.none, { r with hub := { r.hub with bits := r.hub.bits.set m } })
  | .clear m => (.none, { r with hub := { r.hub with bits := r.hub.bits.clear m } })
  | .submit ssid password t =>
    match Credentials.new ssid password with
    | .error e => (.credentialsError e, r)
    | .ok c => r.solo (Hub.submitJob c t (.done ∘ hubResult))
  | .post e =>
    match r.hub.postLinkEvent e with
    | .ok h => (.ok, { r with hub := h })
    | .error e => (.hubError e, r)
  | .takeCredentials =>
    match r.hub.credentials.tryReceive with
    | some (c, q) => (.credentials (some c), { r with hub := { r.hub with credentials := q } })
    | none => (.credentials none, r)
  | .takeLinkEvent => let (e, h) := r.hub.takeLinkEvent; (.event e, { r with hub := h })
  | .counts => (.counts r.hub.credentials.len r.hub.linkEvents.len, r)
  | .synchronizeTime u => (.none, { r with hub := r.hub.synchronizeTime r.now u })
  | .unixTime => (.ofUnixTime (r.hub.unixTime r.now), r)
  | .setIp ip => (.none, { r with hub := { r.hub with ip } })
  | .ipAddress => (.ip r.hub.ip, r)
  | .status => (.status r.hub.connected r.hub.statusJson, r)
  | .wait m c a t => r.solo (waitJob Hub.bitsLens m c a t (.done ∘ .bits))
  | .sleep d => (.none, { r with now := r.now + d })

end Gateway.Scenario
