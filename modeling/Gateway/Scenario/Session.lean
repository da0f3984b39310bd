import Gateway.Mqtt.Session
/-!
A session driven call by call against the scripted link, with what each call leaves behind:
the packets it wrote, the link's counters, the chunks still queued, whether the session is up,
and the clock.
-/
namespace Gateway.Scenario
open Gateway.Mqtt

/-- A change to the scripted peer of a session, made between calls. -/
inductive LinkChange where
  | feed (chunks : List Chunk)
  | failOpen (count : Nat)
  | failSend (count : Nat)
  | setAuto (auto : Bool)

def LinkChange.apply : LinkChange → Link → Link
  | .feed cs, l => { l with incoming := l.incoming ++ cs }
  | .failOpen n, l => { l with failOpen := n }
  | .failSend n, l => { l with failSend := n }
  | .setAuto a, l => { l with broker := { l.broker with auto := a } }

/-- One call on a session, or one change to its scripted peer. -/
inductive SessionCall where
  | connect
  | disconnect
  | subscribe (topic : String) (qos : QoS)
  | publish (topic : String) (payload : List UInt8) (qos : QoS) (times : Nat)
  | poll (timeout : Nat)
  | isConnected
  | sleep (d : Nat)
  | change (c : LinkChange)

inductive SessionReply where
  | none
  | ok
  | flag (b : Bool)
  | message (p : Option Publish)
  | failed (e : SessionError)
  | published (last : Except SessionError Unit) (failures : Nat)

/-- What a call left behind. -/
structure SessionView where
  sent : List (List UInt8)
  opens : Nat
  closes : Nat
  pendingIn : Nat
  connected : Bool
  now : Nat

structure SessionRun where
  session : Session
  clock : Clock

def SessionRun.new (s : Session) : SessionRun := ⟨s, ⟨0, none⟩⟩

def SessionRun.view (r : SessionRun) (sentBefore : Nat) : SessionView :=
  { sent := (r.session.link.sent.take (r.session.link.sentCount - sentBefore)).reverse
    opens := r.session.link.opens
    closes := r.session.link.closes
    pendingIn := r.session.link.incoming.length
    connected := r.session.connected
    now := r.clock.now }

def SessionRun.call {α : Type} (r : SessionRun) (f : Flow α) : Except SessionError α × SessionRun :=
  let e := Timed.start f.run r.session r.clock
  (e.value.getD (.error .timeout), ⟨e.state, e.clock⟩)

/-- Publishes `n` times; the result of the last one (success when there was none) and how many
failed. -/
def SessionRun.publishTimes (topic : String) (payload : List UInt8) (qos : QoS) :
    Nat → SessionRun → Except SessionError Unit → Nat → Except SessionError Unit × Nat × SessionRun
  | 0, r, last, failures => (last, failures, r)
  | n + 1, r, _, failures =>
    let (res, r) := r.call (publish topic payload qos)
    publishTimes topic payload qos n r res (if res matches .error _ then failures + 1 else failures)

def replyOf (r : Except SessionError Unit) : SessionReply :=
  match r with
  | .ok () => .ok
  | .error e => .failed e

def SessionRun.withLink (r : SessionRun) (f : Link → Link) : SessionRun :=
  { r with session := { r.session with link := f r.session.link } }

def SessionRun.step (r : SessionRun) : SessionCall → SessionReply × SessionRun
  | .connect => let (x, r) := r.call connect; (replyOf x, r)
  | .disconnect => let (_, r) := r.call disconnect; (.none, r)
  | .subscribe t q => let (x, r) := r.call (subscribe t q); (replyOf x, r)
  | .publish t p q n =>
    let (last, failures, r) := SessionRun.publishTimes t p q n r (.ok ()) 0
    (if n ≤ 1 then replyOf last else .published last failures, r)
  | .poll t =>
    let (x, r) := r.call (poll t)
    (match x with | .ok m => .message m | .error e => .failed e, r)
  | .isConnected => (.flag r.session.connected, r)
  | .sleep d => (.none, { r with clock := { r.clock with now := r.clock.now + d } })
  | .change c => (.none, r.withLink c.apply)

def SessionRun.perform (r : SessionRun) (c : SessionCall) : (SessionReply × SessionView) × SessionRun :=
  let before := r.session.link.sentCount
  let (reply, r) := r.step c
  ((reply, r.view before), r)

end Gateway.Scenario
