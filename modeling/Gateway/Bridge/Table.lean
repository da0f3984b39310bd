import Gateway.Mqtt.Packet
import Gateway.Bridge.Namespace
import Gateway.Bridge.Codec
import Gateway.Hub.Queue
/-!
The topic table: the routes of a bridge, each a suffix in the unit's namespace with a direction,
a QoS, a codec and a bounded queue. Routes are added until the table is sealed and are never
removed, so a handle is the index of its route for ever.

Producers queue items on publish routes (`sendJob`), and the bridge drains them through their
encoders (`encodeJob`). Inbound payloads go to the subscribe route of the same suffix
(`dispatchJob`), whose consumers take the decoded items (`receiveJob`). Each route has a mutex
that every codec call and every push holds (`withLock`): a caller waits for it up to a deadline
and gives up as busy, and holds it only within one step, never across a wait.
-/
namespace Gateway.Bridge
open Gateway.Hub Gateway.Sched Gateway.Mqtt

/-- A route as its owner describes it at boot. -/
structure TopicDescriptor (α : Type) where
  suffix : String
  direction : Direction
  qos : QoS
  codec : Codec α

structure Topic (α : Type) where
  suffix : String
  direction : Direction
  qos : QoS
  codec : Codec α
  queue : Queue α
  locked : Bool := false

structure TopicTable (α : Type) where
  space : Namespace
  capacity : Nat
  depth : Nat
  ioTimeout : Nat
  topics : List (Topic α) := []
  sealed : Bool := false

namespace TopicTable

variable {α σ β : Type}

def len (t : TopicTable α) : Nat := t.topics.length

def isEmpty (t : TopicTable α) : Bool := t.topics.isEmpty

def freeze (t : TopicTable α) : TopicTable α := { t with sealed := true }

/-- Adds a route. A sealed table refuses first, then a codec that does not suit the
direction, then a bad suffix, then a second route of one direction and suffix, and last a
full table. -/
def register (t : TopicTable α) (d : TopicDescriptor α) : Except TopicError (Nat × TopicTable α) :=
  if t.sealed then .error .sealed
  else if !d.codec.suits d.direction then .error .codecMismatch
  else match t.space.validate d.suffix with
    | .error e => .error e
    | .ok () =>
      if t.topics.any (fun r => r.direction = d.direction && r.suffix = d.suffix) then
        .error .invalidArgument
      else if t.topics.length ≥ t.capacity then .error .full
      else
        let r : Topic α :=
          { suffix := d.suffix, direction := d.direction, qos := d.qos, codec := d.codec, queue := { capacity := t.depth } }
        .ok (t.topics.length, { t with topics := t.topics ++ [r] })

def suffix? (t : TopicTable α) (h : Nat) : Option String := t.topics[h]?.map (·.suffix)

def qos? (t : TopicTable α) (h : Nat) : Option QoS := t.topics[h]?.map (·.qos)

def handles (t : TopicTable α) (dir : Direction) : List Nat :=
  ((List.range t.topics.length).zip t.topics).filterMap fun (i, r) =>
    if r.direction = dir then some i else none

def topic (t : TopicTable α) (h : Nat) : Except TopicError (Topic α) :=
  match t.topics[h]? with
  | some r => .ok r
  | none => .error .unknownTopic

def route (t : TopicTable α) (h : Nat) (dir : Direction) : Except TopicError (Topic α) :=
  match t.topic h with
  | .ok r => if r.direction = dir then .ok r else .error .invalidArgument
  | .error e => .error e

def setQueue (t : TopicTable α) (h : Nat) (q : Queue α) : TopicTable α :=
  { t with topics := t.topics.modify h fun r => { r with queue := q } }

def queueLens (l : Lens σ (TopicTable α)) (h : Nat) : Lens σ (Queue α) where
  get s := ((l.get s).topics[h]?.map (·.queue)).getD { capacity := 0 }
  set s q := l.set s ((l.get s).setQueue h q)

def locked (t : TopicTable α) (h : Nat) : Bool := (t.topics[h]?.map (·.locked)).getD false

def setLocked (t : TopicTable α) (h : Nat) (held : Bool) : TopicTable α :=
  { t with topics := t.topics.modify h fun r => { r with locked := held } }

/-- Runs `body` holding the mutex of route `h`: takes it once it is free, runs `body` and releases
it, in one step. Gives up with `busy` when the mutex is still held at `deadline`. -/
def withLock {γ : Type} (l : Lens σ (TopicTable α)) (h deadline : Nat) (body : σ → σ × Except TopicError γ)
    (k : Except TopicError γ → Job σ β) : Job σ β :=
  .await (fun s =>
      if (l.get s).locked h then none
      else
        let (s, r) := body (l.set s ((l.get s).setLocked h true))
        some (l.set s ((l.get s).setLocked h false), k r))
    deadline false (k (.error .busy))

/-- One push of `x` on the queue of route `h`, made holding the route's mutex: whether the item
went in. -/
def push (l : Lens σ (TopicTable α)) (h : Nat) (x : α) (s : σ) : σ × Except TopicError Bool :=
  match ((queueLens l h).get s).trySend x with
  | .ok queue => ((queueLens l h).set s queue, .ok true)
  | .error _ => (s, .ok false)

/-- What a send does after a push: ends when the item went in or the mutex stayed busy, and goes on
as `retry` when the queue was full. -/
def pushed (k : Except TopicError Unit → Job σ β) (retry : Job σ β) : Except TopicError Bool → Job σ β
  | .ok true => k (.ok ())
  | .ok false => retry
  | .error e => k (.error e)

/-- What a send does once a push found the queue full: waits for room without the mutex until
`deadline`, then pushes again holding it; `queueFull` once the deadline has passed. -/
def awaitRoom (l : Lens σ (TopicTable α)) (h : Nat) (x : α) (deadline : Nat)
    (k : Except TopicError Unit → Job σ β) : Job σ β :=
  .step fun now s =>
    if deadline - now = 0 then (s, k (.error .queueFull))
    else (s, Queue.spaceJob (queueLens l h) (deadline - now) fun room =>
      -- with the mutex free, the room seen and the push after it are one poll, so that push lands
      if room then withLock l h deadline (push l h x) (pushed k (k (.error .queueFull)))
      else k (.error .queueFull))

/-- Queues `x` on publish route `h`, holding the route's mutex for each push. While the queue is
full it waits for room without the mutex, and gives up with `queueFull` once the table's timeout,
counted from the call, has passed; the mutex too is waited for only until then. -/
def sendJob (l : Lens σ (TopicTable α)) (h : Nat) (x : α) (k : Except TopicError Unit → Job σ β) :
    Job σ β :=
  .step fun now s =>
    match (l.get s).route h .publish with
    | .error e => (s, k (.error e))
    | .ok _ =>
      let deadline := now + (l.get s).ioTimeout
      (s, withLock l h deadline (push l h x) (pushed k (awaitRoom l h x deadline k)))

/-- Takes the oldest item of subscribe route `h`, waiting up to `timeout` for one. -/
def receiveJob (l : Lens σ (TopicTable α)) (h : Nat) (timeout : Nat)
    (k : Except TopicError (Option α) → Job σ β) : Job σ β :=
  .step fun _ s =>
    match (l.get s).route h .subscribe with
    | .error e => (s, k (.error e))
    | .ok _ => (s, Queue.receiveJob (queueLens l h) timeout (k ∘ .ok))

/-- Renders the oldest item of route `h`: `none` when nothing is queued, else the payload.
The item leaves the queue even when its encoder fails. -/
def encodeNext (t : TopicTable α) (h : Nat) (ctx : EncodeContext) :
    Except TopicError (Option String) × TopicTable α :=
  match t.topic h with
  | .error e => (.error e, t)
  | .ok r =>
    match r.codec with
    | .decoder _ => (.error .codecMismatch, t)
    | .encoder f =>
      match r.queue.tryReceive with
      | none => (.ok none, t)
      | some (x, q) =>
        let t := t.setQueue h q
        match f x ctx with
        | .ok p => (.ok (some p), t)
        | .error e => (.error (.codec e), t)

/-- Decodes an inbound payload into the queue of the subscribe route whose suffix is exactly
`suffix`: `none` when there is no such route. -/
def dispatch (t : TopicTable α) (suffix : String) (payload : List UInt8) :
    Except TopicError (Option Nat) × TopicTable α :=
  match t.topics.findIdx? (fun r => r.direction = .subscribe && r.suffix = suffix) with
  | none => (.ok none, t)
  | some h =>
    match t.topics[h]? with
    | none => (.ok none, t)
    | some r =>
      match r.codec with
      | .encoder _ => (.error .codecMismatch, t)
      | .decoder f =>
        match f payload with
        | .error e => (.error (.codec e), t)
        | .ok x =>
          match r.queue.trySend x with
          | .ok q => (.ok (some h), t.setQueue h q)
          | .error _ => (.error .queueFull, t)

/-- Renders the next item of route `h` holding its mutex, waited for up to the table's timeout
from the call. -/
def encodeJob (l : Lens σ (TopicTable α)) (h : Nat) (ctx : EncodeContext)
    (k : Except TopicError (Option String) → Job σ β) : Job σ β :=
  .step fun now s =>
    match (l.get s).topic h with
    | .error e => (s, k (.error e))
    | .ok _ =>
      (s, withLock l h (now + (l.get s).ioTimeout)
        (fun s => let (r, t) := (l.get s).encodeNext h ctx; (l.set s t, r)) k)

/-- Dispatches an inbound payload holding the mutex of the route it goes to, waited for up to the
table's timeout from the call. -/
def dispatchJob (l : Lens σ (TopicTable α)) (suffix : String) (payload : List UInt8)
    (k : Except TopicError (Option Nat) → Job σ β) : Job σ β :=
  .step fun now s =>
    match (l.get s).topics.findIdx? (fun r => r.direction = .subscribe && r.suffix = suffix) with
    | none => (s, k (.ok none))
    | some h =>
      (s, withLock l h (now + (l.get s).ioTimeout)
        (fun s => let (r, t) := (l.get s).dispatch suffix payload; (l.set s t, r)) k)

end TopicTable

end Gateway.Bridge
